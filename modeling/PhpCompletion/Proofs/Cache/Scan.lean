import PhpCompletion.Proofs.Cache.Frame

/-! # The scan for the longest stored prefix

A lookup finds the key it starts from by trying the cuts of the prefix, from the whole prefix
down to the empty one, and stopping at the first that is stored. `probes` are the cuts it tries,
in order; it returns the last of them when that one is stored (`longestKnown_eq_last_probe`).

The scan returns the longest stored key that the prefix starts with, code point by code point,
the empty key included, and returns none exactly when no stored key is a prefix of it. It tries
each length at most once, one code point shorter each time: from the whole prefix down to the
key it returns, or down to the empty cut when it returns none (`longestKnown_scan_correct`).
-/

namespace PhpCompletion

/-- The elements a search for the first element that passes `q` looks at, in the order it
looks at them: each one up to the first that passes, that one included. -/
def probed {α : Type} (q : α → Bool) : List α → List α
  | [] => []
  | x :: xs => x :: if q x then [] else probed q xs

theorem find?_eq_probed {α : Type} (q : α → Bool) (xs : List α) :
    xs.find? q = (probed q xs).getLast?.filter q := by
  induction xs with
  | nil => rfl
  | cons x xs ih =>
      cases hx : q x with
      | true => simp [probed, hx, Option.filter_some]
      | false =>
          rw [List.find?_cons, hx, ih]
          cases hp : probed q xs with
          | nil => simp [probed, hx, hp, Option.filter_some]
          | cons y ys => simp [probed, hx, hp, List.getLast?_cons_cons]

theorem probed_map {α β : Type} (q : β → Bool) (f : α → β) (xs : List α) :
    probed q (xs.map f) = (probed (q ∘ f) xs).map f := by
  induction xs with
  | nil => rfl
  | cons x xs ih =>
      simp only [List.map_cons, probed, Function.comp_apply]
      by_cases hx : q (f x) = true <;> simp [hx, ih]

def stopOf (q : Nat → Bool) (n : Nat) : Nat := ((List.range (n + 1)).reverse.find? q).getD 0

theorem stopOf_le (q : Nat → Bool) (n : Nat) : stopOf q n ≤ n := by
  unfold stopOf
  cases hf : (List.range (n + 1)).reverse.find? q with
  | none => simp
  | some i =>
      have hi := List.mem_of_find?_eq_some hf
      simp only [List.mem_reverse, List.mem_range] at hi
      simpa using Nat.lt_succ_iff.mp hi

theorem probed_scanDown (q : Nat → Bool) (n : Nat) :
    probed q (List.range (n + 1)).reverse =
      (List.range' (stopOf q n) (n + 1 - stopOf q n)).reverse := by
  induction n with
  | zero => cases h : q 0 <;> simp [stopOf, probed, h]
  | succ n ih =>
      have down : (List.range (n + 1 + 1)).reverse = (n + 1) :: (List.range (n + 1)).reverse := by
        rw [List.range_succ, List.reverse_append, List.reverse_singleton, List.singleton_append]
      have stop : stopOf q (n + 1) = if q (n + 1) then n + 1 else stopOf q n := by
        unfold stopOf
        rw [down, List.find?_cons]
        cases q (n + 1) <;> rfl
      rw [down, probed, stop]
      cases hq : q (n + 1) with
      | true => simp
      | false =>
          have hle := stopOf_le q n
          have len : n + 1 + 1 - stopOf q n = (n + 1 - stopOf q n) + 1 := by omega
          simp only [Bool.false_eq_true, if_false, ih]
          rw [len, List.range'_concat, Nat.one_mul,
            show stopOf q n + (n + 1 - stopOf q n) = n + 1 by omega, List.reverse_append,
            List.reverse_singleton, List.singleton_append]

namespace Text

theorem take_length_eq_iff {k t : Text} : t.take k.length = k ↔ k.isPrefixOf t = true := by
  rw [isPrefixOf_iff_take]
  constructor
  · intro h
    refine ⟨?_, h⟩
    have lengths := congrArg length h
    rw [length_take] at lengths
    omega
  · exact fun h => h.2

end Text

namespace PrefixCache

/-- The cuts of `p` a lookup tries, in order, until it finds one stored. -/
def probes (c : PrefixCache) (p : Text) : List Text :=
  probed c.contains ((List.range (p.length + 1)).reverse.map p.take)

theorem longestKnown_eq_last_probe (c : PrefixCache) (p : Text) :
    c.longestKnown p = (c.probes p).getLast?.filter c.contains :=
  find?_eq_probed _ _

theorem stopOf_eq_length (c : PrefixCache) (p : Text) :
    stopOf (c.contains ∘ p.take) p.length = ((c.longestKnown p).map Text.length).getD 0 := by
  have found : c.longestKnown p =
      ((List.range (p.length + 1)).reverse.find? (c.contains ∘ p.take)).map p.take := by
    unfold longestKnown
    rw [List.find?_map]
  unfold stopOf
  rw [found]
  cases hf : (List.range (p.length + 1)).reverse.find? (c.contains ∘ p.take) with
  | none => rfl
  | some i =>
      have hi := List.mem_of_find?_eq_some hf
      simp only [List.mem_reverse, List.mem_range] at hi
      simp only [Option.getD_some, Option.map_some, Text.length_take]
      omega

theorem probes_eq (c : PrefixCache) (p : Text) :
    c.probes p = (List.range' (((c.longestKnown p).map Text.length).getD 0)
      (p.length + 1 - ((c.longestKnown p).map Text.length).getD 0)).reverse.map p.take := by
  unfold probes
  rw [probed_map, probed_scanDown, stopOf_eq_length]

/-- The scan returns the longest stored key `k` with `p[:len k] = k`, the empty key included,
and none exactly when no stored key is a prefix of `p`. It tries the cut of each length at
most once, from the whole of `p` down to the key it returns, or to the empty cut when it
returns none. -/
theorem longestKnown_scan_correct (c : PrefixCache) (p : Text) :
    (∀ k, c.longestKnown p = some k ↔
      p.take k.length = k ∧ c.contains k = true ∧
        ∀ k', p.take k'.length = k' → c.contains k' = true → k'.length ≤ k.length) ∧
    (c.longestKnown p = none ↔ ∀ k, p.take k.length = k → c.contains k = false) ∧
    (∀ k, c.longestKnown p = some k →
      c.probes p = (List.range' k.length (p.length + 1 - k.length)).reverse.map p.take) ∧
    (c.longestKnown p = none → c.probes p = (List.range (p.length + 1)).reverse.map p.take) ∧
    ((c.probes p).map Text.length).Nodup := by
  refine ⟨fun k => ?_, ?_, fun k hk => ?_, fun hk => ?_, ?_⟩
  · simp only [longestKnown_eq_some_iff, LongestKnown, Text.take_length_eq_iff]
  · simp only [longestKnown_eq_none_iff, Text.take_length_eq_iff]
  · rw [probes_eq, hk]
    rfl
  · rw [probes_eq, hk, Option.map_none, Option.getD_none, List.range_eq_range']
    rfl
  · rw [probes_eq, List.map_map]
    generalize ((c.longestKnown p).map Text.length).getD 0 = m
    have lengths : ∀ i ∈ (List.range' m (p.length + 1 - m)).reverse,
        (Text.length ∘ p.take) i = i := by
      intro i hi
      simp only [List.mem_reverse, List.mem_range'_1] at hi
      simp only [Function.comp_apply, Text.length_take]
      omega
    rw [List.map_congr_left lengths, List.map_id']
    exact List.pairwise_reverse.mpr (List.Pairwise.imp Ne.symm List.nodup_range')

/-- With the empty key and `ab` stored, `abc` is answered from `ab`, the second cut tried. -/
example :
    let c : PrefixCache := ⟨[(Text.empty, ⟨[], true⟩), (Text.ofString "ab", ⟨[], false⟩)]⟩
    c.probes (Text.ofString "abc") = [Text.ofString "abc", Text.ofString "ab"] ∧
      c.longestKnown (Text.ofString "abc") = some (Text.ofString "ab") := by
  decide

end PrefixCache

end PhpCompletion
