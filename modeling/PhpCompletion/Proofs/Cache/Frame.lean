import PhpCompletion.Proofs.Cache.Lookup

/-! # What a lookup may change

The key a lookup starts from is the longest stored key that the prefix starts with
(`longestKnown_eq_some_iff`): the scan tries the prefix's own cuts from the whole prefix down
to the empty one and stops at the first stored one.

From it, a lookup changes the cache in one way only (`get_frame_idempotent`): when the prefix
has no entry and the longest stored key below it holds a complete entry, the narrowed entry is
appended under the prefix and returned; otherwise the cache stays as it was and the lookup
returns the prefix's own entry, or nothing. Every entry stored before stays, and a second
lookup of the same prefix changes nothing and returns what the first returned.
-/

namespace PhpCompletion

namespace Text

theorem isPrefixOf_iff_take {k t : Text} :
    k.isPrefixOf t = true ↔ k.length ≤ t.length ∧ t.take k.length = k := by
  obtain ⟨ks⟩ := k
  obtain ⟨ts⟩ := t
  simp only [isPrefixOf, List.isPrefixOf_iff_prefix, length, take, mk.injEq]
  constructor
  · intro h
    exact ⟨h.length_le, (List.prefix_iff_eq_take.mp h).symm⟩
  · rintro ⟨-, h⟩
    exact List.prefix_iff_eq_take.mpr h.symm

theorem eq_of_isPrefixOf_of_length_eq {k k' t : Text} (hk : k.isPrefixOf t = true)
    (hk' : k'.isPrefixOf t = true) (hlen : k.length = k'.length) : k = k' := by
  rw [← (isPrefixOf_iff_take.mp hk).2, ← (isPrefixOf_iff_take.mp hk').2, hlen]

end Text

namespace PrefixCache

/-! ## The longest stored key -/

/-- `k` is the longest stored key that `p` starts with. -/
def LongestKnown (c : PrefixCache) (p k : Text) : Prop :=
  k.isPrefixOf p = true ∧ c.contains k = true ∧
    ∀ k', k'.isPrefixOf p = true → c.contains k' = true → k'.length ≤ k.length

theorem find?_scanDown {α : Type} (f : Nat → α) (q : α → Bool) (n : Nat) {x : α}
    (h : ((List.range (n + 1)).reverse.map f).find? q = some x) :
    ∃ i ≤ n, x = f i ∧ q (f i) = true ∧ ∀ j, i < j → j ≤ n → q (f j) = false := by
  induction n with
  | zero =>
      rw [List.range_succ, List.range_zero, List.nil_append, List.reverse_singleton,
        List.map_cons, List.map_nil, List.find?_cons, List.find?_nil] at h
      split at h
      · rename_i hq
        cases h
        exact ⟨0, Nat.le_refl _, rfl, hq, fun j hj hj' => absurd hj' (by omega)⟩
      · cases h
  | succ n ih =>
      rw [List.range_succ, List.reverse_append, List.reverse_singleton, List.singleton_append,
        List.map_cons, List.find?_cons] at h
      cases hq : q (f (n + 1)) with
      | true =>
          rw [hq] at h
          cases h
          exact ⟨n + 1, Nat.le_refl _, rfl, hq, fun j hj hj' => absurd hj' (by omega)⟩
      | false =>
          rw [hq] at h
          obtain ⟨i, hi, rfl, hpass, above⟩ := ih h
          refine ⟨i, by omega, rfl, hpass, fun j hj hj' => ?_⟩
          rcases Nat.lt_or_ge j (n + 1) with hjn | hjn
          · exact above j hj (by omega)
          · rwa [show j = n + 1 by omega]

theorem longestKnown_longest {c : PrefixCache} {p k : Text} (h : c.longestKnown p = some k) :
    LongestKnown c p k := by
  obtain ⟨hkp, hk⟩ := longestKnown_spec h
  refine ⟨hkp, hk, fun k' hk'p hk' => ?_⟩
  obtain ⟨i, -, rfl, -, above⟩ := find?_scanDown p.take c.contains p.length h
  obtain ⟨hlen', htake'⟩ := Text.isPrefixOf_iff_take.mp hk'p
  have hlen : (p.take i).length = min i p.length := Text.length_take p i
  rw [hlen]
  refine Nat.le_of_not_lt fun hlt => ?_
  have miss := above k'.length (by omega) hlen'
  rw [htake', hk'] at miss
  cases miss

theorem longestKnown_isSome {c : PrefixCache} {p k : Text} (hkp : k.isPrefixOf p = true)
    (hk : c.contains k = true) : (c.longestKnown p).isSome := by
  obtain ⟨hlen, htake⟩ := Text.isPrefixOf_iff_take.mp hkp
  unfold longestKnown
  rw [Option.isSome_iff_ne_none, Ne, List.find?_eq_none]
  intro none
  have hit := none (p.take k.length) (List.mem_map.mpr ⟨k.length, by simp; omega, rfl⟩)
  rw [htake, hk] at hit
  exact hit rfl

theorem longestKnown_eq_some_iff {c : PrefixCache} {p k : Text} :
    c.longestKnown p = some k ↔ LongestKnown c p k := by
  constructor
  · exact longestKnown_longest
  · rintro ⟨hkp, hk, most⟩
    obtain ⟨k₀, h₀⟩ := Option.isSome_iff_exists.mp (longestKnown_isSome hkp hk)
    obtain ⟨hk₀p, hk₀, most₀⟩ := longestKnown_longest h₀
    have same : k₀ = k :=
      Text.eq_of_isPrefixOf_of_length_eq hk₀p hkp (Nat.le_antisymm (most k₀ hk₀p hk₀) (most₀ k hkp hk))
    rw [h₀, same]

theorem longestKnown_eq_none_iff {c : PrefixCache} {p : Text} :
    c.longestKnown p = none ↔ ∀ k, k.isPrefixOf p = true → c.contains k = false := by
  constructor
  · intro h k hkp
    cases hk : c.contains k with
    | false => rfl
    | true =>
        have := longestKnown_isSome hkp hk
        rw [h] at this
        cases this
  · intro h
    cases hsome : c.longestKnown p with
    | none => rfl
    | some k =>
        obtain ⟨hkp, hk⟩ := longestKnown_spec hsome
        rw [h k hkp] at hk
        cases hk

/-! ## The one change a lookup makes -/

/-- `k` is the longest stored key that is a proper prefix of `p`. -/
def LongestBelow (c : PrefixCache) (p k : Text) : Prop :=
  k.isPrefixOf p = true ∧ k ≠ p ∧ c.contains k = true ∧
    ∀ k', k'.isPrefixOf p = true → k' ≠ p → c.contains k' = true → k'.length ≤ k.length

/-- A lookup of `p` narrows: `p` has no entry, and the longest stored key below it holds a
complete entry. -/
def Narrows (c : PrefixCache) (p : Text) : Prop :=
  c.find? p = none ∧ ∃ k e, LongestBelow c p k ∧ c.find? k = some e ∧ e.complete = true

theorem longestBelow_iff {c : PrefixCache} {p k : Text} (hp : c.find? p = none) :
    LongestBelow c p k ↔ LongestKnown c p k := by
  have absent : c.contains p = false := by simp [contains_eq_isSome_find?, hp]
  have ne_of_contains : ∀ k', c.contains k' = true → k' ≠ p := by
    rintro k' hk' rfl
    rw [absent] at hk'
    cases hk'
  constructor
  · rintro ⟨hkp, -, hk, most⟩
    exact ⟨hkp, hk, fun k' hk'p hk' => most k' hk'p (ne_of_contains k' hk') hk'⟩
  · rintro ⟨hkp, hk, most⟩
    exact ⟨hkp, ne_of_contains k hk, hk, fun k' hk'p _ hk' => most k' hk'p hk'⟩

theorem put_of_contains_false {c : PrefixCache} {k : Text} (h : c.contains k = false)
    (cs : List Candidate) (b : Bool) :
    c.put k cs b = (⟨c.entries ++ [(k, ⟨cs, b⟩)]⟩, ⟨cs, b⟩) := by
  simp [put, h]

/-- A narrowing lookup appends the narrowed entry under the prefix and returns it. -/
theorem get_of_narrows {c : PrefixCache} {p : Text} (h : Narrows c p) :
    ∃ e, c.get p = (⟨c.entries ++ [(p, e)]⟩, some e) := by
  obtain ⟨hp, k, e, hbelow, hk, hc⟩ := h
  have absent : c.contains p = false := by simp [contains_eq_isSome_find?, hp]
  have hlong : c.longestKnown p = some k :=
    longestKnown_eq_some_iff.mpr ((longestBelow_iff hp).mp hbelow)
  refine ⟨⟨e.candidates.filter fun x => x.startsWith p, true⟩, ?_⟩
  simp [get, hlong, hk, hbelow.2.1, hc, put_of_contains_false absent]

/-- A lookup that does not narrow leaves the cache as it was and returns the prefix's own
entry, if any. -/
theorem get_of_not_narrows {c : PrefixCache} {p : Text} (h : ¬ Narrows c p) :
    c.get p = (c, c.find? p) := by
  cases hp : c.find? p with
  | some e => exact get_of_find? hp
  | none =>
      unfold get
      split
      · rfl
      · rename_i k hlong
        split
        · rfl
        · rename_i e hk
          have hkp : k ≠ p := by
            rintro rfl
            rw [hp] at hk
            cases hk
          cases hc : e.complete with
          | false => simp [hkp]
          | true =>
              have hbelow := (longestBelow_iff hp).mpr (longestKnown_longest hlong)
              exact absurd ⟨hp, k, e, hbelow, hk, hc⟩ h

/-- Frame and idempotence of a lookup. Every stored entry stays. When the prefix has no entry
and the longest stored key below it holds a complete entry, the lookup appends one entry under
the prefix, the one it returns; in every other case it leaves the cache as it was and returns
the prefix's own entry or nothing. A second lookup of the same prefix returns the same and
changes nothing. -/
theorem get_frame_idempotent (c : PrefixCache) (p : Text) :
    (∀ k e, c.find? k = some e → (c.get p).1.find? k = some e) ∧
    (Narrows c p → ∃ e, c.get p = (⟨c.entries ++ [(p, e)]⟩, some e)) ∧
    (¬ Narrows c p → c.get p = (c, c.find? p)) ∧
    (c.get p).1.get p = c.get p := by
  refine ⟨grows_get c p, get_of_narrows, get_of_not_narrows, ?_⟩
  by_cases h : Narrows c p
  · obtain ⟨e, hget⟩ := get_of_narrows h
    have stored : (⟨c.entries ++ [(p, e)]⟩ : PrefixCache).find? p = some e := by
      simp [find?, List.find?_append, show c.entries.find? (fun f => f.1 == p) = none by
        simpa [find?] using h.1]
    rw [hget, get_of_find? stored]
  · rw [get_of_not_narrows h, get_of_not_narrows h]

end PrefixCache

end PhpCompletion
