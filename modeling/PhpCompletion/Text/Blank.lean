import PhpCompletion.Text.Basic

/-!
# Blanks and lines

The blank code points of Unicode 14.0 (the `White_Space` characters together with the four
information separators `0x1C` to `0x1F`), trimming a text of them at both ends, and cutting a
text into lines at the Unicode line boundaries.

Main statement: a trimmed text does not end in a blank (`trim_last_not_blank`).
-/

namespace PhpCompletion.Text

def isBlankPoint (c : Nat) : Bool :=
  (9 ≤ c && c ≤ 13) || (28 ≤ c && c ≤ 32) || c == 0x85 || c == 0xA0 || c == 0x1680 ||
    (0x2000 ≤ c && c ≤ 0x200A) || c == 0x2028 || c == 0x2029 || c == 0x202F ||
    c == 0x205F || c == 0x3000

def trim (t : Text) : Text :=
  ⟨((t.points.dropWhile isBlankPoint).reverse.dropWhile isBlankPoint).reverse⟩

def isLineBreak (c : Nat) : Bool :=
  c == 10 || c == 11 || c == 12 || c == 13 || c == 0x1C || c == 0x1D || c == 0x1E ||
    c == 0x85 || c == 0x2028 || c == 0x2029

/-- The lines of a list of code points: each break ends a line, and a carriage return
followed by a line feed is one break. A last line without a break counts; no empty line
follows a final break. -/
def linesOf : List Nat → List (List Nat) → List Nat → List (List Nat)
  | [], acc, cur => if cur.isEmpty then acc.reverse else (cur.reverse :: acc).reverse
  | 13 :: 10 :: rest, acc, cur => linesOf rest (cur.reverse :: acc) []
  | c :: rest, acc, cur =>
      if isLineBreak c then linesOf rest (cur.reverse :: acc) [] else linesOf rest acc (c :: cur)

def lines (t : Text) : List Text := (linesOf t.points [] []).map Text.mk

theorem dropWhile_head_not {p : Nat → Bool} {l : List Nat} {c : Nat} {r : List Nat}
    (h : l.dropWhile p = c :: r) : p c = false := by
  induction l with
  | nil => simp at h
  | cons a l ih =>
      by_cases ha : p a
      · rw [List.dropWhile_cons_of_pos ha] at h
        exact ih h
      · rw [List.dropWhile_cons_of_neg ha] at h
        cases h
        simpa using ha

/-- A trimmed text does not end in a blank. -/
theorem trim_last_not_blank (t : Text) (c : Nat) (r : List Nat)
    (h : (t.trim.points).reverse = c :: r) : isBlankPoint c = false := by
  simp only [trim, List.reverse_reverse] at h
  exact dropWhile_head_not h

theorem dropWhile_of_head {p : Nat → Bool} {l : List Nat}
    (h : ∀ c r, l = c :: r → p c = false) : l.dropWhile p = l := by
  cases l with
  | nil => rfl
  | cons c r => rw [List.dropWhile_cons_of_neg (by simp [h c r rfl])]

theorem trim_of_ends {t : Text} (hhead : ∀ c r, t.points = c :: r → isBlankPoint c = false)
    (hlast : ∀ c r, t.points.reverse = c :: r → isBlankPoint c = false) : t.trim = t := by
  simp [trim, dropWhile_of_head hhead, dropWhile_of_head hlast]

end PhpCompletion.Text
