import PhpCompletion.Json.Value
import PhpCompletion.Decimal.Layout
import PhpCompletion.Text.Printable

/-!
# Values as plain text

How a value reads where a text is expected: a string stands for itself; any other value is
written in literal notation, with `None`, `True` and `False` for the constants, numbers as the
shortest decimal that reads back, and strings inside lists and objects quoted. A value is true
in a condition unless it is null, false, a zero, or an empty string, list or object.
-/

namespace PhpCompletion.Json

/-- Numbers in plain text: positional from `1e-4` to below `1e16`, a whole number keeps `.0`,
the exponent has at least two digits, and the non-finite numbers are `nan` and `inf`. -/
def plainLayout : Decimal.Layout := ⟨-4, 15, true, 2, "nan", "inf"⟩

def literal : Json → Text
  | .null => Text.ofString "None"
  | .bool b => Text.ofString (if b then "True" else "False")
  | .int n => Text.ofInt n
  | .float x => Text.ofString (Decimal.render plainLayout x)
  | .str s => s.quoted
  | .arr items =>
      Text.ofString "[" ++ Text.join (Text.ofString ", ")
        (items.attach.map fun ⟨v, _⟩ => literal v) ++ Text.ofString "]"
  | .obj fields =>
      Text.ofString "\x7b" ++ Text.join (Text.ofString ", ")
        (fields.attach.map fun ⟨(k, v), h⟩ =>
          have := sizeOf_lt_of_mem_fields h
          k.quoted ++ Text.ofString ": " ++ literal v) ++
        Text.ofString "\x7d"

def display : Json → Text
  | .str s => s
  | v => literal v

def truthy : Json → Bool
  | .null => false
  | .bool b => b
  | .int n => n != 0
  | .float x => x.truthy
  | .str s => !s.isEmpty
  | .arr items => !items.isEmpty
  | .obj fields => !fields.isEmpty

/-- The value itself when it is true, else the fallback: `v or fallback`. -/
def orElse (v fallback : Json) : Json := if v.truthy then v else fallback

/-- The plain text of a value, an empty text standing for any false value. -/
def displayOrEmpty (v : Json) : Text := (orElse v (.str Text.empty)).display

theorem display_str (s : Text) : display (.str s) = s := rfl

theorem displayOrEmpty_str (s : Text) : displayOrEmpty (.str s) = s := by
  obtain ⟨cs⟩ := s
  cases cs <;> rfl

end PhpCompletion.Json
