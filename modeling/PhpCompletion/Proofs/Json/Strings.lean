import PhpCompletion.Json.Reader
import PhpCompletion.Json.Writer
import Mathlib.Tactic.SplitIfs

/-! # Reading written strings back

In the compact style every code point of a string is written as itself or as an escape that
the reader undoes: the quote, the backslash and the common control characters by their
one-letter escapes, the other control characters as `\u00XX`. No surrogate is escaped, so the
reader never joins two written code points into one, and a string reads back as the same code
points, whatever they are (`readString_written`).
-/

namespace PhpCompletion.Json

theorem hex4_control : ∀ c, c < 32 → hex4 (Text.hexPadded 4 c) = some c := by decide

theorem hexPadded_control_length : ∀ c, c < 32 → (Text.hexPadded 4 c).length = 4 := by decide

theorem readString_unitEscape {c : Nat} (hc : c < 32) {tail : List Nat} (htail : tail ≠ [])
    (start fuel pos : Nat) (acc : List Nat) :
    readString start (fuel + 1) (unitEscape c ++ tail) pos acc =
      readString start fuel tail (pos + 6) (c :: acc) := by
  have len := hexPadded_control_length c hc
  have long : ¬(Text.hexPadded 4 c ++ tail).length < 5 := by
    have : tail.length ≠ 0 := by simpa using htail
    simp only [List.length_append, len]
    omega
  simp only [unitEscape, List.cons_append, List.nil_append, readString,
    if_neg (by omega : ¬(92 = 34)), if_true, long, if_false, List.take_left' len,
    hex4_control c hc, List.drop_left' len]
  rw [if_neg (by omega)]

theorem readString_escape (c : Nat) {tail : List Nat} (htail : tail ≠ []) (start fuel pos : Nat)
    (acc : List Nat) :
    readString start (fuel + 1) (escapeInString false c ++ tail) pos acc =
      readString start fuel tail (pos + (escapeInString false c).length) (c :: acc) := by
  unfold escapeInString
  simp only [Bool.not_false, Bool.true_or, ↓reduceIte]
  split_ifs with h34 h92 h10 h13 h9 h8 h12 hlow
  · subst h34
    rfl
  · subst h92
    rfl
  · subst h10
    rfl
  · subst h13
    rfl
  · subst h9
    rfl
  · subst h8
    rfl
  · subst h12
    rfl
  · rw [readString_unitEscape hlow htail, unitEscape, List.length_append,
      hexPadded_control_length c hlow]
    rfl
  · simp only [List.singleton_append, readString, h34, h92, if_false, List.length_singleton]
    rw [if_neg (by omega)]

/-- A written string body followed by the closing quote reads as its code points, when the
reader's fuel is more than their number. -/
theorem readString_written (start : Nat) (cs rest : List Nat) :
    ∀ (fuel pos : Nat) (acc : List Nat), cs.length < fuel →
      readString start fuel (cs.flatMap (escapeInString false) ++ 34 :: rest) pos acc =
        .ok (acc.reverse ++ cs, rest, pos + (cs.flatMap (escapeInString false)).length + 1) := by
  induction cs with
  | nil =>
      intro fuel pos acc hfuel
      obtain ⟨f, rfl⟩ : ∃ f, fuel = f + 1 := ⟨fuel - 1, by simp at hfuel; omega⟩
      simp [readString]
  | cons c cs ih =>
      intro fuel pos acc hfuel
      obtain ⟨f, rfl⟩ : ∃ f, fuel = f + 1 := ⟨fuel - 1, by simp at hfuel; omega⟩
      rw [List.flatMap_cons, List.append_assoc, readString_escape c (by simp), ih f _ _
        (by simp at hfuel; omega)]
      simp only [List.reverse_cons, List.append_assoc, List.singleton_append, List.length_append,
        Except.ok.injEq, Prod.mk.injEq, true_and]
      omega

theorem length_le_escaped (cs : List Nat) :
    cs.length ≤ (cs.flatMap (escapeInString false)).length := by
  have each : ∀ c, 1 ≤ (escapeInString false c).length := by
    intro c
    unfold escapeInString
    simp only [Bool.not_false, Bool.true_or, ↓reduceIte]
    split_ifs <;> simp [unitEscape]
  induction cs with
  | nil => simp
  | cons c cs ih =>
      simp only [List.flatMap_cons, List.length_append, List.length_cons]
      have := each c
      omega

theorem writeString_compact_append (t : Text) (rest : List Nat) :
    writeString .compact t ++ rest =
      34 :: (t.points.flatMap (escapeInString false) ++ 34 :: rest) := by
  simp [writeString, Style.compact]

/-- The body of a written string, after its opening quote, reads as the string's code points,
and the reader goes on after the closing quote. -/
theorem readString_writeString (t : Text) (rest : List Nat) (pos : Nat) :
    ∃ p, readString pos (t.points.flatMap (escapeInString false) ++ 34 :: rest).length
      (t.points.flatMap (escapeInString false) ++ 34 :: rest) (pos + 1) [] =
        .ok (t.points, rest, p) := by
  have enough :
      t.points.length < (t.points.flatMap (escapeInString false) ++ 34 :: rest).length := by
    have := length_le_escaped t.points
    simp only [List.length_append, List.length_cons]
    omega
  rw [readString_written pos t.points rest _ _ [] enough, List.reverse_nil, List.nil_append]
  exact ⟨_, rfl⟩

theorem readValue_writeString (t : Text) (rest : List Nat) (fuel room pos : Nat) :
    ∃ p, readValue (fuel + 1) room (writeString .compact t ++ rest) pos =
      .ok (.str t, rest, p) := by
  obtain ⟨p, reads⟩ := readString_writeString t rest pos
  rw [writeString_compact_append]
  simp only [readValue, reads, Except.map]
  exact ⟨p, rfl⟩

end PhpCompletion.Json
