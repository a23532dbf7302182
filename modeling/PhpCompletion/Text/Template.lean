import PhpCompletion.Text.Basic

/-!
# Filling a template with one value

A template is a text in which `%` starts a conversion: optional flags (`-`, `+`, blank, `#`,
`0`), a width (digits, or `*` to take it from the values), a precision (`.` and then digits or
`*`), an ignored length letter (`h`, `l` or `L`), and a conversion letter. `%%` stands for `%`
and takes no value, and `%(` names a value by key, which only a mapping of values can give.

`fillOne` says whether a template is filled by exactly one integer: every conversion takes a
value, a width or precision `*` takes one too, and the filling fails as soon as a value is
wanted and none is left; a template that leaves the value unused fails at its end. The first
failure in the text wins. A width must fit in 63 bits and a precision in 31; an integer
conversion refuses a precision from `2 ^ 31 - 3` on, and a width from `memoryLimit` on makes a
text too long for memory.
-/

namespace PhpCompletion

/-- Why a template is not filled by one integer. -/
inductive TemplateFault where
  /-- A conversion names its value by key. -/
  | needsMapping
  /-- A conversion wants a value and none is left. -/
  | tooFewValues
  /-- The value was not used. -/
  | unusedValue
  /-- The text ends inside a conversion. -/
  | incomplete
  /-- A conversion letter that is none, the code point and where it stands. -/
  | unknownConversion (c : Nat) (index : Nat)
  /-- A width of more than 63 bits. -/
  | widthTooBig
  /-- A precision of more than 31 bits. -/
  | precisionTooBig
  /-- An integer conversion with a precision of `2 ^ 31 - 3` or more. -/
  | precisionTooLarge
  /-- A width of `memoryLimit` or more: the filled text does not fit in memory. -/
  | noMemory
  deriving DecidableEq, Repr

namespace TemplateFault

def message : TemplateFault → String
  | .needsMapping => "format requires a mapping"
  | .tooFewValues => "not enough arguments for format string"
  | .unusedValue => "not all arguments converted during string formatting"
  | .incomplete => "incomplete format"
  | .unknownConversion c i =>
      let shown := if 31 ≤ c ∧ c ≤ 126 then Char.ofNat c else '?'
      "unsupported format character '" ++ shown.toString ++ "' (0x" ++
        String.ofList (Nat.toDigits 16 c) ++ ") at index " ++ toString i
  | .widthTooBig => "width too big"
  | .precisionTooBig => "precision too big"
  | .precisionTooLarge => "precision too large"
  | .noMemory => ""

/-- The name of the failure's type: a missing or unused value, or a key, is a wrong type of
values; a precision too large for an integer overflows, a width too large for memory exhausts
it; the rest are wrong templates. -/
def typeName : TemplateFault → String
  | .needsMapping | .tooFewValues | .unusedValue => "TypeError"
  | .precisionTooLarge => "OverflowError"
  | .noMemory => "MemoryError"
  | _ => "ValueError"

end TemplateFault

namespace Template

def widthMax : Nat := 0x7FFFFFFFFFFFFFFF

def precisionMax : Nat := 0x7FFFFFFF

/-- The smallest precision an integer conversion refuses. -/
def integerPrecisionLimit : Nat := 0x7FFFFFFD

/-- The smallest width whose filled text does not fit in memory. -/
def memoryLimit : Nat := 0x200000000

def isIntegerConversion (c : Nat) : Bool := [105, 100, 117, 111, 120, 88].contains c

def isFlag (c : Nat) : Bool := c == 45 || c == 43 || c == 32 || c == 35 || c == 48

def isDigit (c : Nat) : Bool := 48 ≤ c && c ≤ 57

def isConversion (c : Nat) : Bool :=
  [115, 114, 97, 105, 100, 117, 111, 120, 88, 101, 69, 102, 70, 103, 71, 99].contains c

/-- A place in a conversion: the code point read last, those not read yet, the index of the
next one, and whether a read found the text ended. -/
structure Cursor where
  ch : Nat
  rest : List Nat
  pos : Nat
  ended : Bool

namespace Cursor

def next (c : Cursor) : Cursor :=
  match c.rest with
  | x :: r => ⟨x, r, c.pos + 1, c.ended⟩
  | [] => { c with ended := true }

def skipFlags (c : Cursor) : Cursor :=
  let flags := c.rest.takeWhile isFlag
  let c := { c with rest := c.rest.drop flags.length, pos := c.pos + flags.length,
                    ch := flags.getLastD c.ch }
  c.next

/-- Read the digits after a first digit into a number no larger than `limit`, then the code
point after them; a number past the limit fails with `tooBig`. -/
def number (c : Cursor) (limit : Nat) (tooBig : TemplateFault) :
    Except TemplateFault (Cursor × Nat) :=
  let ds := c.rest.takeWhile isDigit
  let value := ds.foldl (fun n d => n * 10 + (d - 48)) (c.ch - 48)
  if limit < value then .error tooBig
  else .ok (({ c with rest := c.rest.drop ds.length, pos := c.pos + ds.length,
                      ch := ds.getLastD c.ch }).next, value)

end Cursor

def take (used : Bool) : Except TemplateFault Bool :=
  if used then .error .tooFewValues else .ok true

/-- Read one conversion after its `%`, the value used or not before it; the cursor after the
conversion and whether the value is used. A width or precision taken by `*` is the integer,
which is small. -/
def conversion (c : Cursor) (used : Bool) : Except TemplateFault (Cursor × Bool) := do
  let c := c.skipFlags
  let (c, used, width) ← if c.ended then pure (c, used, 0)
    else if c.ch == 42 then pure (c.next, ← take used, 0)
    else if isDigit c.ch then
      let (c, w) ← c.number widthMax .widthTooBig
      pure (c, used, w)
    else pure (c, used, 0)
  let (c, used, prec) ← if c.ended || c.ch != 46 then pure (c, used, 0)
    else
      let c := c.next
      if c.ended then pure (c, used, 0)
      else if c.ch == 42 then pure (c.next, ← take used, 0)
      else if isDigit c.ch then
        let (c, p) ← c.number precisionMax .precisionTooBig
        pure (c, used, p)
      else pure (c, used, 0)
  let c := if !c.ended && (c.ch == 104 || c.ch == 108 || c.ch == 76) then c.next else c
  if c.ended then throw .incomplete
  let used ← take used
  if !isConversion c.ch then throw (.unknownConversion c.ch (c.pos - 1))
  if isIntegerConversion c.ch && integerPrecisionLimit ≤ prec then throw .precisionTooLarge
  if memoryLimit ≤ width then throw .noMemory
  pure (c, used)

/-- Walk a template from offset `pos`, the value used or not so far; whether it is used at the
end. Each conversion reads at least its letter, so the walk is bounded by the text. -/
def walk : List Nat → Nat → Bool → Except TemplateFault Bool
  | [], _, used => .ok used
  | 37 :: 37 :: r, pos, used => walk r (pos + 2) used
  | 37 :: 40 :: _, _, _ => .error .needsMapping
  | 37 :: rest, pos, used =>
      match conversion ⟨0, rest, pos + 1, false⟩ used with
      | .error f => .error f
      | .ok (c, used) =>
          if _h : c.rest.length < rest.length then walk c.rest c.pos used else .ok used
  | _ :: rest, pos, used => walk rest (pos + 1) used
termination_by s => s.length

/-- Fill a template with one integer: nothing if it is filled, else why not. -/
def fillOne (t : Text) : Except TemplateFault Unit := do
  if ← walk t.points 0 false then pure () else throw .unusedValue

end Template

end PhpCompletion
