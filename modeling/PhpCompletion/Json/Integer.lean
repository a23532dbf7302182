import PhpCompletion.Json.Value
import PhpCompletion.Fault
import PhpCompletion.Text.Blank

/-!
# Values as integers

How a value is read as an integer. A boolean is `0` or `1`; a finite number loses its
fraction, rounded toward zero; a text is a decimal integer with blanks around it, an optional
sign, and digits of any script, single underscores allowed between digits. Before the text is
read, every blank beyond ASCII becomes a space and every digit beyond ASCII its ASCII digit; the
first other code point beyond ASCII ends the text with a mark that no integer contains.

Digits of any script are those of Unicode 14.0 (general category `Nd`). Each lies in a run of
ten consecutive code points holding zero to nine in order; the table lists the first code point
of each run, so the value of a digit is its distance from the start of its run.

An integer value reads as itself (`toInteger_int`).
-/

namespace PhpCompletion

namespace Text

def digitRunStarts : List Nat := [
  0x30, 0x660, 0x6F0, 0x7C0, 0x966, 0x9E6, 0xA66, 0xAE6,
  0xB66, 0xBE6, 0xC66, 0xCE6, 0xD66, 0xDE6, 0xE50, 0xED0,
  0xF20, 0x1040, 0x1090, 0x17E0, 0x1810, 0x1946, 0x19D0, 0x1A80,
  0x1A90, 0x1B50, 0x1BB0, 0x1C40, 0x1C50, 0xA620, 0xA8D0, 0xA900,
  0xA9D0, 0xA9F0, 0xAA50, 0xABF0, 0xFF10, 0x104A0, 0x10D30, 0x11066,
  0x110F0, 0x11136, 0x111D0, 0x112F0, 0x11450, 0x114D0, 0x11650, 0x116C0,
  0x11730, 0x118E0, 0x11950, 0x11C50, 0x11D50, 0x11DA0, 0x16A60, 0x16AC0,
  0x16B50, 0x1D7CE, 0x1D7D8, 0x1D7E2, 0x1D7EC, 0x1D7F6, 0x1E140, 0x1E2F0,
  0x1E950, 0x1FBF0
]

def digitValue (c : Nat) : Option Nat :=
  (digitRunStarts.find? fun s => s ≤ c && c < s + 10).map fun s => c - s

def isAsciiBlank (c : Nat) : Bool := c == 32 || (9 ≤ c && c ≤ 13)

/-- The code points an integer is read from: blanks and digits beyond ASCII made ASCII, and
the text cut at the first other code point beyond ASCII, which becomes `?`. -/
def asciiForm : List Nat → List Nat
  | [] => []
  | c :: rest =>
      if c < 127 then c :: asciiForm rest
      else if isBlankPoint c then 32 :: asciiForm rest
      else match digitValue c with
        | some d => (48 + d) :: asciiForm rest
        | none => [63]

/-- Scan digits with single underscores between them: the digits, or `none` when an underscore
is doubled or comes last; `prevUnderscore` says the last code point taken was one. -/
def scanDigits : List Nat → Bool → List Nat → Option (List Nat × List Nat)
  | [], u, acc => if u then none else some (acc.reverse, [])
  | c :: rest, u, acc =>
      if 48 ≤ c ∧ c ≤ 57 then scanDigits rest false (c :: acc)
      else if c = 95 then (if u then none else scanDigits rest true acc)
      else if u then none else some (acc.reverse, c :: rest)

def toInteger (t : Text) : Except IntegerFault Int :=
  let invalid : Except IntegerFault Int := .error (.invalidLiteral t)
  let a := (asciiForm t.points).dropWhile isAsciiBlank
  let (neg, b) := match a with
    | 43 :: r => (false, r)
    | 45 :: r => (true, r)
    | r => (false, r)
  match b with
  | 95 :: _ => invalid
  | _ =>
      match scanDigits b false [] with
      | none => invalid
      | some (ds, rest) =>
          if ds.isEmpty then invalid
          else if 4300 < ds.length then .error (.tooManyDigits ds.length)
          else if (rest.dropWhile isAsciiBlank).isEmpty then
            let n : Int := (ds.foldl (fun n d => n * 10 + (d - 48)) 0 : Nat)
            .ok (if neg then -n else n)
          else invalid

end Text

namespace Json

def toInteger : Json → Except IntegerFault Int
  | .null => .error (.wrongKind "NoneType")
  | .bool b => .ok (if b then 1 else 0)
  | .int n => .ok n
  | .float x =>
      if x.isNaN then .error .notANumber
      else if x.isInfinite then .error .infinite
      else .ok x.truncate
  | .str s => s.toInteger
  | .arr _ => .error (.wrongKind "list")
  | .obj _ => .error (.wrongKind "dict")

theorem toInteger_int (n : Int) : toInteger (.int n) = .ok n := rfl

end Json

end PhpCompletion
