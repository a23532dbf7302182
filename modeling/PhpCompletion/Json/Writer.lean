import PhpCompletion.Json.Value
import PhpCompletion.Decimal.Layout
import PhpCompletion.Text.Printable

/-!
# Writing JSON

The writer of JSON text. A `Style` says which separators stand between items and between a
key and its value, and whether every code point beyond ASCII is escaped (as `\uXXXX`, a pair of
escapes beyond the basic plane). Quotes, backslashes and control characters are always escaped,
the common ones by their one-letter escapes. Numbers use the shortest decimal that reads back,
and the words `NaN`, `Infinity` and `-Infinity` for the numbers JSON has no digits for.

Writing runs on a call stack of bounded room: the writer takes `writerPlaces` places and then
one for every array or object it opens, so `writeWithin` fails on a value that nests deeper than
the room that is left.
-/

namespace PhpCompletion.Json

/-- The choices of a JSON writer. -/
structure Style where
  /-- What stands between two items or fields. -/
  itemSeparator : String
  /-- What stands between a key and its value. -/
  keySeparator : String
  /-- Whether code points beyond ASCII are escaped. -/
  asciiOnly : Bool

def Style.compact : Style := ⟨",", ":", false⟩

def Style.ascii : Style := ⟨",", ":", true⟩

/-- Numbers in JSON: positional from `1e-4` to below `1e16`, a whole number keeps `.0`, the
exponent has at least two digits. -/
def numberLayout : Decimal.Layout := ⟨-4, 15, true, 2, "NaN", "Infinity"⟩

def unitEscape (u : Nat) : List Nat := [92, 117] ++ Text.hexPadded 4 u

def escapeInString (ascii : Bool) (c : Nat) : List Nat :=
  if c = 34 then [92, 34]
  else if c = 92 then [92, 92]
  else if c = 10 then [92, 110]
  else if c = 13 then [92, 114]
  else if c = 9 then [92, 116]
  else if c = 8 then [92, 98]
  else if c = 12 then [92, 102]
  else if c < 32 then unitEscape c
  else if !ascii || c < 127 then [c]
  else if c < 0x10000 then unitEscape c
  else
    let v := c - 0x10000
    unitEscape (0xD800 + v / 1024) ++ unitEscape (0xDC00 + v % 1024)

def writeString (st : Style) (t : Text) : List Nat :=
  34 :: t.points.flatMap (escapeInString st.asciiOnly) ++ [34]

def ascii (s : String) : List Nat := s.toList.map Char.toNat

def writePoints (st : Style) : Json → List Nat
  | .null => ascii "null"
  | .bool b => ascii (if b then "true" else "false")
  | .int n => (Text.ofInt n).points
  | .float x => ascii (Decimal.render numberLayout x)
  | .str s => writeString st s
  | .arr items =>
      91 :: (List.intercalate (ascii st.itemSeparator) (items.attach.map fun ⟨v, _⟩ =>
        writePoints st v)) ++ [93]
  | .obj fields =>
      123 :: (List.intercalate (ascii st.itemSeparator) (fields.attach.map fun ⟨(k, v), h⟩ =>
        have := sizeOf_lt_of_mem_fields h
        writeString st k ++ ascii st.keySeparator ++ writePoints st v)) ++ [125]

def write (st : Style) (v : Json) : Text := ⟨writePoints st v⟩

/-- The places of the call stack the writer takes before it opens the first array or object. -/
def writerPlaces : Nat := 3

/-- A value written as JSON text with `room` places of the call stack free, or nothing if it
nests deeper than the writer then goes. -/
def writeWithin (room : Nat) (st : Style) (v : Json) : Option Text :=
  if v.depth ≤ room - writerPlaces then some (write st v) else none

theorem writeWithin_of_depth_le {room : Nat} {st : Style} {v : Json}
    (h : v.depth ≤ room - writerPlaces) : writeWithin room st v = some (write st v) := by
  simp [writeWithin, h]

end PhpCompletion.Json
