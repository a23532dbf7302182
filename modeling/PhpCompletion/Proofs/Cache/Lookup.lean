import PhpCompletion.PrefixCache

/-! # Looking prefixes up in the cache

What a store leaves under each key, which keys a lookup may pick, and the three ways a lookup
ends: with nothing, with the entry of the prefix itself, or with a complete entry of a shorter
prefix, narrowed to the prefix and stored under it.
-/

namespace PhpCompletion

namespace PrefixCache

@[simp] theorem find?_empty (k : Text) : empty.find? k = none := rfl

theorem contains_eq_isSome_find? (c : PrefixCache) (k : Text) :
    c.contains k = (c.find? k).isSome := by
  rw [Bool.eq_iff_iff]
  simp [contains, find?]

theorem find?_eq_none_of_not_contains {c : PrefixCache} {k : Text} (h : c.contains k = false) :
    c.find? k = none := by
  rw [contains_eq_isSome_find?] at h
  simpa using h

@[simp] theorem put_snd (c : PrefixCache) (k : Text) (cs : List Candidate) (b : Bool) :
    (c.put k cs b).2 = ⟨cs, b⟩ := by
  unfold put
  split <;> rfl

theorem fst_replace (k : Text) (e : CacheEntry) (f : Text × CacheEntry) :
    (if f.1 == k then (k, e) else f).1 = f.1 := by
  split
  · rename_i hk
    exact (beq_iff_eq.mp hk).symm
  · rfl

theorem find?_replace (entries : List (Text × CacheEntry)) (k k' : Text) (e : CacheEntry) :
    (entries.map fun f => if f.1 == k then (k, e) else f).find? (fun f => f.1 == k') =
      (entries.find? fun f => f.1 == k').map fun f => if f.1 == k then (k, e) else f := by
  have keys :
      ((fun f : Text × CacheEntry => f.1 == k') ∘ fun f => if f.1 == k then (k, e) else f) =
        fun f => f.1 == k' := by
    funext f
    simp only [Function.comp_apply, fst_replace]
  rw [List.find?_map, keys]

@[simp] theorem find?_put_self (c : PrefixCache) (k : Text) (cs : List Candidate) (b : Bool) :
    (c.put k cs b).1.find? k = some ⟨cs, b⟩ := by
  unfold put
  split
  · rename_i present
    obtain ⟨f, hf⟩ := Option.isSome_iff_exists.mp
      (List.find?_isSome.mpr (List.any_eq_true.mp present))
    have hk : f.1 = k := by simpa using List.find?_some hf
    simp only [find?]
    rw [find?_replace, hf]
    simp [hk]
  · rename_i absent
    have hnone : c.entries.find? (fun f => f.1 == k) = none := by
      rw [List.find?_eq_none]
      intro f hf hk
      exact absent (List.any_eq_true.mpr ⟨f, hf, hk⟩)
    simp [find?, hnone]

theorem find?_put_of_ne (c : PrefixCache) {k k' : Text} (cs : List Candidate) (b : Bool)
    (hne : k' ≠ k) : (c.put k cs b).1.find? k' = c.find? k' := by
  unfold put
  split
  · simp only [find?]
    rw [find?_replace, Option.map_map]
    cases hf : c.entries.find? fun f => f.1 == k' with
    | none => rfl
    | some f =>
        have hk : f.1 = k' := by simpa using List.find?_some hf
        have hf' : f.1 ≠ k := by rwa [hk]
        simp [hf']
  · have hk : ((k, (⟨cs, b⟩ : CacheEntry)).1 == k') = false := by simpa using hne.symm
    simp [find?, List.find?_append, hk]

theorem longestKnown_spec {c : PrefixCache} {p k : Text} (h : c.longestKnown p = some k) :
    k.isPrefixOf p = true ∧ c.contains k = true := by
  unfold longestKnown at h
  obtain ⟨i, -, rfl⟩ := List.mem_map.mp (List.mem_of_find?_eq_some h)
  refine ⟨?_, List.find?_some h⟩
  simpa [Text.isPrefixOf] using List.take_prefix i p.points

/-- A lookup ends in one of three ways: nothing, leaving the cache as it was; the entry stored
under the prefix itself; or the complete entry of a shorter stored prefix, whose candidates
that start with the prefix are stored under it as a complete entry and returned. -/
theorem get_cases (c : PrefixCache) (p : Text) :
    c.get p = (c, none) ∨
    (∃ e, c.find? p = some e ∧ c.get p = (c, some e)) ∨
    (∃ k e, k.isPrefixOf p = true ∧ k ≠ p ∧ c.find? k = some e ∧ e.complete = true ∧
      c.get p = ((c.put p (e.candidates.filter fun x => x.startsWith p) true).1,
        some ⟨e.candidates.filter fun x => x.startsWith p, true⟩)) := by
  unfold get
  split
  · exact .inl rfl
  · rename_i k hk
    split
    · exact .inl rfl
    · rename_i e he
      by_cases hkp : k = p
      · subst hkp
        exact .inr (.inl ⟨e, he, by simp⟩)
      · cases hc : e.complete
        · exact .inl (by simp [hkp])
        · exact .inr (.inr ⟨k, e, (longestKnown_spec hk).1, hkp, he, hc, by simp [hkp]⟩)

theorem longestKnown_of_contains {c : PrefixCache} {p : Text} (h : c.contains p = true) :
    c.longestKnown p = some p := by
  have whole : p.take p.length = p := by
    cases p
    simp [Text.take, Text.length]
  unfold longestKnown
  rw [List.range_succ, List.reverse_append, List.reverse_singleton, List.singleton_append,
    List.map_cons, List.find?_cons, whole, h]

theorem get_of_find? {c : PrefixCache} {p : Text} {e : CacheEntry} (h : c.find? p = some e) :
    c.get p = (c, some e) := by
  have stored : c.contains p = true := by simp [contains_eq_isSome_find?, h]
  unfold get
  rw [longestKnown_of_contains stored]
  simp [h]

theorem get_miss {c : PrefixCache} {p : Text} (h : (c.get p).2 = none) :
    (c.get p).1 = c ∧ c.find? p = none := by
  cases hp : c.find? p with
  | some e =>
      rw [get_of_find? hp] at h
      cases h
  | none =>
      rcases get_cases c p with same | ⟨e, -, hit⟩ | ⟨k, e, -, -, -, -, narrowed⟩
      · rw [same]
        exact ⟨rfl, rfl⟩
      · rw [hit] at h
        cases h
      · rw [narrowed] at h
        cases h

@[simp] theorem get_empty (p : Text) : empty.get p = (empty, none) := by
  unfold get
  split
  · rfl
  · simp

@[simp] theorem holds_str (c : PrefixCache) (t : Text) : c.holds (.str t) = .ok (c.contains t) :=
  rfl

/-! ## Caches that only grow -/

/-- Every entry of `c` stands unchanged in `c'`, which may hold more. -/
def Grows (c c' : PrefixCache) : Prop := ∀ k e, c.find? k = some e → c'.find? k = some e

theorem Grows.refl (c : PrefixCache) : c.Grows c := fun _ _ h => h

theorem Grows.trans {c c' c'' : PrefixCache} (h : c.Grows c') (h' : c'.Grows c'') :
    c.Grows c'' :=
  fun k e hk => h' k e (h k e hk)

theorem grows_put {c : PrefixCache} {k : Text} (hk : c.find? k = none) (cs : List Candidate)
    (b : Bool) : c.Grows (c.put k cs b).1 := by
  intro k' e he
  have hne : k' ≠ k := by
    rintro rfl
    rw [hk] at he
    cases he
  rw [find?_put_of_ne c cs b hne]
  exact he

/-- A lookup only adds entries: it narrows into a prefix that has none. -/
theorem grows_get (c : PrefixCache) (p : Text) : c.Grows (c.get p).1 := by
  cases hp : c.find? p with
  | some e =>
      rw [get_of_find? hp]
      exact Grows.refl c
  | none =>
      rcases get_cases c p with same | ⟨e, found, -⟩ | ⟨k, e, -, -, -, -, narrowed⟩
      · rw [same]
        exact Grows.refl c
      · rw [hp] at found
        cases found
      · rw [narrowed]
        exact grows_put hp _ _

end PrefixCache

end PhpCompletion
