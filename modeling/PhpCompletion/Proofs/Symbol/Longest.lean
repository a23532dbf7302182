import Mathlib.Data.List.TakeWhile
import PhpCompletion.Text.Alnum
import PhpCompletion.Text.Blank

/-! # The prefix at the cursor is the longest symbol that ends there

A *symbol* is a run of identifier code points with at most one `$` in front. Of all the
symbols that end the text before the cursor, the bounds pick the longest; it is the only one
that nothing before it could lengthen: it starts with `$`, or the code point before it, if
any, is neither an identifier code point nor `$` (`longest_iff_closed`). The prefix to
complete is that symbol unless an identifier code point follows the cursor
(`atCursor_longest_symbol`).

The bounds are computed from the run of identifier code points before the cursor, read off
the reversed text with `takeWhile`; `split_run` turns it back into a split of the text, which
is the form every later step uses.
-/

namespace PhpCompletion

theorem Text.eq_of_points {a b : Text} (h : a.points = b.points) : a = b := by
  cases a
  cases b
  simp_all

namespace Symbol

set_option maxRecDepth 4000 in
theorem sigil_not_identifier : isIdentifierPoint 36 = false := by decide

/-- A symbol: identifier code points, with one `$` in front or none. -/
def IsSymbol (s : List Nat) : Prop :=
  (∀ c ∈ s, isIdentifierPoint c = true) ∨ ∃ w, s = 36 :: w ∧ ∀ c ∈ w, isIdentifierPoint c = true

/-- `s` is a symbol that ends the text `u`. -/
def SymbolEnding (u s : Text) : Prop := s.points <:+ u.points ∧ IsSymbol s.points

/-- `s` is the longest symbol that ends `u`. -/
def LongestSymbolEnding (u s : Text) : Prop :=
  SymbolEnding u s ∧ ∀ s', SymbolEnding u s' → s'.length ≤ s.length

/-- `s` is a symbol that ends `u` and that nothing before it could lengthen: unless it starts
with `$`, the code point before it, if any, is neither an identifier code point nor `$`. -/
def ClosedSymbolEnding (u s : Text) : Prop :=
  SymbolEnding u s ∧ (s.points.head? ≠ some 36 →
    ∀ p c, u.points = p ++ c :: s.points → isIdentifierPoint c = false ∧ c ≠ 36)

/-! ## Symbols -/

theorem IsSymbol.inner {x y : List Nat} {c : Nat} (h : IsSymbol (x ++ c :: y)) (hx : x ≠ []) :
    isIdentifierPoint c = true := by
  rcases h with plain | ⟨w, hw, inner⟩
  · exact plain c (by simp)
  · obtain ⟨a, x', rfl⟩ := List.exists_cons_of_ne_nil hx
    simp only [List.cons_append, List.cons.injEq] at hw
    exact inner c (by rw [← hw.2]; simp)

theorem IsSymbol.head {c : Nat} {y : List Nat} (h : IsSymbol (c :: y)) :
    isIdentifierPoint c = true ∨ c = 36 := by
  rcases h with plain | ⟨w, hw, -⟩
  · exact .inl (plain c (by simp))
  · exact .inr (List.cons.inj hw).1

theorem IsSymbol.plain {s : List Nat} (h : IsSymbol s) (hs : s.head? ≠ some 36) :
    ∀ c ∈ s, isIdentifierPoint c = true := by
  rcases h with plain | ⟨w, rfl, -⟩
  · exact plain
  · simp at hs

theorem IsSymbol.extend {c : Nat} {s : List Nat} (h : IsSymbol s) (hs : s.head? ≠ some 36)
    (hc : isIdentifierPoint c = true ∨ c = 36) : IsSymbol (c :: s) := by
  have plain := h.plain hs
  rcases hc with hc | rfl
  · refine .inl fun a ha => ?_
    rcases List.mem_cons.mp ha with rfl | ha
    · exact hc
    · exact plain a ha
  · exact .inr ⟨s, rfl, plain⟩

/-! ## Longest and closed symbols -/

theorem closed_longest {u s : Text} (h : ClosedSymbolEnding u s) : LongestSymbolEnding u s := by
  refine ⟨h.1, fun s' hs' => Nat.le_of_not_lt fun longer => ?_⟩
  have inside : s.points <:+ s'.points :=
    List.suffix_of_suffix_length_le h.1.1 hs'.1 (by simp only [Text.length] at longer; omega)
  obtain ⟨x, hx⟩ := List.suffix_iff_exists_append_eq.mp inside
  have hx0 : x ≠ [] := by
    rintro rfl
    simp only [List.nil_append] at hx
    simp [Text.length, hx] at longer
  obtain ⟨x', c, rfl⟩ := List.eq_nil_or_concat x |>.resolve_left hx0
  have split : s'.points = x' ++ c :: s.points := by simp [← hx]
  obtain ⟨y, hy⟩ := List.suffix_iff_exists_append_eq.mp hs'.1
  have whole : u.points = (y ++ x') ++ c :: s.points := by simp [← hy, split]
  by_cases hhead : s.points.head? = some 36
  · obtain ⟨z, hz⟩ : ∃ z, s.points = 36 :: z := by
      cases hsp : s.points with
      | nil => simp [hsp] at hhead
      | cons a z => simp_all
    have := hs'.2
    rw [split, hz, show x' ++ c :: 36 :: z = (x' ++ [c]) ++ 36 :: z by simp] at this
    have := this.inner (by simp)
    rw [sigil_not_identifier] at this
    cases this
  · obtain ⟨notId, notSigil⟩ := h.2 hhead (y ++ x') c whole
    have := hs'.2
    rw [split] at this
    cases x' with
    | nil =>
        rcases this.head with hc | hc
        · rw [hc] at notId
          cases notId
        · exact notSigil hc
    | cons a x'' =>
        rw [this.inner (by simp)] at notId
        cases notId

theorem longest_closed {u s : Text} (h : LongestSymbolEnding u s) : ClosedSymbolEnding u s := by
  refine ⟨h.1, fun hhead p c hu => ?_⟩
  have shorter : ¬ SymbolEnding u ⟨c :: s.points⟩ := fun longer => by
    have := h.2 _ longer
    simp only [Text.length, List.length_cons] at this
    omega
  have ends : (c :: s.points) <:+ u.points := by
    rw [hu]
    exact List.suffix_append p _
  constructor
  · cases hid : isIdentifierPoint c
    · rfl
    · exact absurd ⟨ends, h.1.2.extend hhead (.inl hid)⟩ shorter
  · rintro rfl
    exact shorter ⟨ends, h.1.2.extend hhead (.inr rfl)⟩

theorem longest_unique {u s s' : Text} (h : LongestSymbolEnding u s)
    (h' : LongestSymbolEnding u s') : s = s' := by
  have same : s.points.length = s'.points.length :=
    Nat.le_antisymm (h'.2 s h.1) (h.2 s' h'.1)
  exact Text.eq_of_points
    ((List.suffix_of_suffix_length_le h.1.1 h'.1.1 (Nat.le_of_eq same)).eq_of_length same)

/-- Being the longest symbol that ends a text and being closed are the same. -/
theorem longest_iff_closed {u s : Text} : LongestSymbolEnding u s ↔ ClosedSymbolEnding u s :=
  ⟨longest_closed, closed_longest⟩

/-! ## The bounds -/

theorem split_run (u : List Nat) :
    ∃ p r, u = p ++ r ∧ r.length = (u.reverse.takeWhile isIdentifierPoint).length ∧
      (∀ c ∈ r, isIdentifierPoint c = true) ∧ ∀ c, p.getLast? = some c → isIdentifierPoint c = false := by
  refine ⟨(u.reverse.dropWhile isIdentifierPoint).reverse,
    (u.reverse.takeWhile isIdentifierPoint).reverse, ?_, by simp, ?_, ?_⟩
  · rw [← List.reverse_append, List.takeWhile_append_dropWhile, List.reverse_reverse]
  · intro c hc
    exact List.mem_takeWhile_imp (List.mem_reverse.mp hc)
  · intro c hc
    rw [List.getLast?_reverse] at hc
    obtain ⟨rest, hrest⟩ : ∃ rest, u.reverse.dropWhile isIdentifierPoint = c :: rest := by
      cases hd : u.reverse.dropWhile isIdentifierPoint with
      | nil => simp [hd] at hc
      | cons a rest => simp_all
    exact Text.dropWhile_head_not hrest

theorem length_take_clamp (t : Text) (offset : Int) :
    (t.take (clampOffset offset t.length)).points.length = clampOffset offset t.length := by
  have := Text.length_take t (clampOffset offset t.length)
  simp only [Text.length] at this ⊢
  rw [this]
  simp [clampOffset]

theorem get?_of_split {t : Text} {e : Nat} {p r : List Nat} (hu : (t.take e).points = p ++ r)
    {i : Nat} (hi : i < p.length) : t.get? i = p[i]? := by
  have hie : i < e := by
    have := congrArg List.length hu
    simp only [Text.points_take, List.length_take, List.length_append] at this
    omega
  have := congrArg (·[i]?) hu
  simp only [Text.points_take, List.getElem?_take_of_lt hie, List.getElem?_append_left hi] at this
  exact this

theorem bounds_of_split {t : Text} {offset : Int} {p r : List Nat}
    (hu : (t.take (clampOffset offset t.length)).points = p ++ r)
    (hr : r.length = runBefore t (clampOffset offset t.length)) :
    bounds t offset = if p.getLast? = some 36 then (p.length - 1, clampOffset offset t.length)
      else (p.length, clampOffset offset t.length) := by
  have hlen := length_take_clamp t offset
  rw [hu, List.length_append] at hlen
  have start : clampOffset offset t.length - runBefore t (clampOffset offset t.length) =
      p.length := by omega
  have sigil : (0 < p.length ∧ t.get? (p.length - 1) = some 36) ↔ p.getLast? = some 36 := by
    rw [List.getLast?_eq_getElem?]
    constructor
    · rintro ⟨hp, hget⟩
      rwa [get?_of_split hu (by omega)] at hget
    · intro hlast
      have hp : 0 < p.length := by
        cases p with
        | nil => simp at hlast
        | cons _ _ => simp
      exact ⟨hp, by rwa [get?_of_split hu (by omega)]⟩
  simp only [bounds, start]
  by_cases h : p.getLast? = some 36
  · rw [if_pos (sigil.mpr h), if_pos h]
  · rw [if_neg (mt sigil.mp h), if_neg h]

/-- The bounds enclose a closed symbol that ends the text before the cursor, and the cut
between them is that symbol. -/
theorem bounds_closed (t : Text) (offset : Int) :
    ∃ s, ClosedSymbolEnding (t.take (clampOffset offset t.length)) s ∧
      bounds t offset = (clampOffset offset t.length - s.length, clampOffset offset t.length) ∧
      (t.take (clampOffset offset t.length)).drop (clampOffset offset t.length - s.length) = s := by
  obtain ⟨p, r, hu, hr, run, before⟩ := split_run (t.take (clampOffset offset t.length)).points
  have hb := bounds_of_split hu (by rw [hr]; rfl)
  have hlen := length_take_clamp t offset
  rw [hu, List.length_append] at hlen
  generalize clampOffset offset t.length = e at hu hb hlen ⊢
  by_cases hsig : p.getLast? = some 36
  · obtain ⟨p', rfl⟩ := List.getLast?_eq_some_iff.mp hsig
    simp only [List.length_append, List.length_singleton] at hlen
    have whole : (t.take e).points = p' ++ 36 :: r := by
      rw [hu]
      simp
    have start : e - (r.length + 1) = p'.length := by omega
    refine ⟨⟨36 :: r⟩, ⟨⟨?_, .inr ⟨r, rfl, run⟩⟩, fun hhead => absurd rfl hhead⟩, ?_, ?_⟩
    · rw [whole]
      exact List.suffix_append p' _
    · rw [hb, if_pos hsig]
      simp only [Text.length, List.length_cons, start]
      simp
    · apply Text.eq_of_points
      simp only [Text.length, List.length_cons, start]
      show ((t.take e).points).drop p'.length = 36 :: r
      rw [whole, List.drop_left]
  · have start : e - r.length = p.length := by omega
    refine ⟨⟨r⟩, ⟨⟨?_, .inl run⟩, fun _ p₀ c hp₀ => ?_⟩, ?_, ?_⟩
    · rw [hu]
      exact List.suffix_append p r
    · have hp : p = p₀ ++ [c] :=
        List.append_cancel_right (by simpa using hu.symm.trans hp₀)
      have last : p.getLast? = some c := by simp [hp]
      exact ⟨before c last, fun h36 => hsig (h36 ▸ last)⟩
    · rw [hb, if_neg hsig]
      simp only [Text.length, start]
    · apply Text.eq_of_points
      simp only [Text.length, start]
      show ((t.take e).points).drop p.length = r
      rw [hu, List.drop_left]

/-! ## The prefix at the cursor -/

/-- The prefix at the cursor is absent exactly when an identifier code point follows the
cursor, and is otherwise the cut between the bounds. -/
theorem atCursor_cases (t : Text) (offset : Int) :
    (atCursor t offset = none ↔
      ∃ c, t.get? (bounds t offset).2 = some c ∧ isIdentifierPoint c = true) ∧
    (atCursor t offset ≠ none →
      atCursor t offset = some ((t.take (bounds t offset).2).drop (bounds t offset).1)) := by
  unfold atCursor
  cases hg : t.get? (bounds t offset).2 with
  | none => simp [hg]
  | some c => cases hc : isIdentifierPoint c <;> simp [hg, hc]

/-- The symbol at the cursor. Of the symbols that end the text before the clamped cursor
there is exactly one longest, which is also exactly the one that nothing before it could
lengthen; the bounds run from its start to the cursor, and it is the prefix to complete unless
an identifier code point follows the cursor, in which case there is none. -/
theorem atCursor_longest_symbol (t : Text) (offset : Int) :
    let e := clampOffset offset t.length
    ∃ s, (∀ s', LongestSymbolEnding (t.take e) s' ↔ s' = s) ∧
      (∀ s', ClosedSymbolEnding (t.take e) s' ↔ s' = s) ∧
      bounds t offset = (e - s.length, e) ∧
      (atCursor t offset = none ↔ ∃ c, t.get? e = some c ∧ isIdentifierPoint c = true) ∧
      (atCursor t offset ≠ none → atCursor t offset = some s) := by
  intro e
  obtain ⟨s, closed, hb, hdrop⟩ := bounds_closed t offset
  have longest := closed_longest closed
  obtain ⟨absent, present⟩ := atCursor_cases t offset
  rw [hb] at absent present
  refine ⟨s, fun s' => ⟨fun h => longest_unique h longest, fun h => h ▸ longest⟩,
    fun s' => ⟨fun h => longest_unique (closed_longest h) longest, fun h => h ▸ closed⟩,
    hb, absent, fun h => ?_⟩
  rw [present h, hdrop]

set_option maxRecDepth 4000 in
/-- Of two `$` in a row only the last one belongs to the symbol. -/
example : bounds (Text.ofString "$a$$ab") 6 = (3, 6) ∧
    atCursor (Text.ofString "$a$$ab") 6 = some (Text.ofString "$ab") := by decide

end Symbol

end PhpCompletion
