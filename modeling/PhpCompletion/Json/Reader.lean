import PhpCompletion.Json.Value
import PhpCompletion.Decimal.Nearest

/-!
# Reading JSON

The reader of JSON text. Besides the standard grammar it takes the words `NaN`, `Infinity` and
`-Infinity`, keeps a lone surrogate escape as a code point of its own while joining an escaped
pair, and lets the last of two equal keys win (at the place of the first). Only the four JSON
blanks separate tokens, and a control character inside a string is refused.

An error names the problem and the offset, in code points, where it was found; its message
gives the line and column as well. An integer of more than 4300 digits is refused.

Reading takes room on the call stack, which has `stackLimit` places: every call in progress
takes one, the reader takes `readerPlaces` for itself, and every array or object it is inside
takes one more. `read` is told how many places are still free when it is called, so the same
text may nest deep enough in one caller and too deep in a caller that is itself deeper. The
reader stops at the first container that finds no free place, before it looks at anything
after it.
-/

namespace PhpCompletion.Json

/-- What the reader found wrong, at some offset. -/
inductive Problem where
  | expectingValue
  | expectingPropertyName
  | expectingColon
  | expectingComma
  | extraData
  | unterminatedString
  | invalidControl
  | invalidEscape
  | invalidUnicodeEscape
  | unexpectedBom
  deriving DecidableEq, Repr

/-- The two kinds of container. -/
inductive Container where
  | array
  | object
  deriving DecidableEq, Repr

/-- Why a text is not read as JSON. -/
inductive ReadError where
  /-- A problem at an offset of the text. -/
  | invalid (problem : Problem) (offset : Nat)
  /-- An integer with more digits than the limit. -/
  | tooManyDigits (count : Nat)
  /-- A container nested deeper than the limit; the kind of that container. -/
  | tooDeep (container : Container)
  deriving DecidableEq, Repr

def digitLimit : Nat := 4300

/-- The places of the call stack. -/
def stackLimit : Nat := 1000

/-- The places the reader takes for itself before its first container. -/
def readerPlaces : Nat := 3

def Container.name : Container → String
  | .array => "array"
  | .object => "object"

def Problem.words : Problem → String
  | .expectingValue => "Expecting value"
  | .expectingPropertyName => "Expecting property name enclosed in double quotes"
  | .expectingColon => "Expecting ':' delimiter"
  | .expectingComma => "Expecting ',' delimiter"
  | .extraData => "Extra data"
  | .unterminatedString => "Unterminated string starting at"
  | .invalidControl => "Invalid control character at"
  | .invalidEscape => "Invalid \\escape"
  | .invalidUnicodeEscape => "Invalid \\uXXXX escape"
  | .unexpectedBom => "Unexpected UTF-8 BOM (decode using utf-8-sig)"

def lineColumn (doc : List Nat) (offset : Nat) : Nat × Nat :=
  let before := doc.take offset
  let line := before.count 10 + 1
  let col := (before.reverse.takeWhile (· ≠ 10)).length + 1
  (line, col)

def ReadError.message (doc : Text) : ReadError → String
  | .invalid p offset =>
      let (line, col) := lineColumn doc.points offset
      p.words ++ ": line " ++ toString line ++ " column " ++ toString col ++ " (char " ++
        toString offset ++ ")"
  | .tooManyDigits n =>
      "Exceeds the limit (" ++ toString digitLimit ++
        " digits) for integer string conversion: value has " ++ toString n ++
        " digits; use sys.set_int_max_str_digits() to increase the limit"
  | .tooDeep c =>
      "maximum recursion depth exceeded while decoding a JSON " ++ c.name ++
        " from a unicode string"

def isSpace (c : Nat) : Bool := c == 32 || c == 9 || c == 10 || c == 13

def skipSpace : List Nat → Nat → List Nat × Nat
  | c :: rest, pos => if isSpace c then skipSpace rest (pos + 1) else (c :: rest, pos)
  | [], pos => ([], pos)

def isDigit (c : Nat) : Bool := 48 ≤ c && c ≤ 57

def hexValue (c : Nat) : Option Nat :=
  if 48 ≤ c ∧ c ≤ 57 then some (c - 48)
  else if 97 ≤ c ∧ c ≤ 102 then some (c - 87)
  else if 65 ≤ c ∧ c ≤ 70 then some (c - 55)
  else none

def hex4 : List Nat → Option Nat
  | [a, b, c, d] => do
      let a ← hexValue a; let b ← hexValue b; let c ← hexValue c; let d ← hexValue d
      pure (((a * 16 + b) * 16 + c) * 16 + d)
  | _ => none

def simpleEscape (c : Nat) : Option Nat :=
  if c = 34 then some 34 else if c = 92 then some 92 else if c = 47 then some 47
  else if c = 98 then some 8 else if c = 102 then some 12 else if c = 110 then some 10
  else if c = 114 then some 13 else if c = 116 then some 9 else none

/-- Read the rest of a string that opened at offset `start`; `rest` begins at offset `pos`.
The result is the code points, the text after the closing quote and its offset. -/
def readString (start : Nat) : Nat → List Nat → Nat → List Nat →
    Except ReadError (List Nat × List Nat × Nat)
  | 0, _, _, _ => .error (.invalid .unterminatedString start)
  | _ + 1, [], _, _ => .error (.invalid .unterminatedString start)
  | fuel + 1, c :: rest, pos, acc =>
      if c = 34 then .ok (acc.reverse, rest, pos + 1)
      else if c = 92 then
        match rest with
        | [] => .error (.invalid .unterminatedString start)
        | e :: more =>
            if e = 117 then
              if more.length < 5 then .error (.invalid .invalidUnicodeEscape (pos + 1))
              else
                match hex4 (more.take 4) with
                | none => .error (.invalid .invalidUnicodeEscape (pos + 1))
                | some u =>
                    let after := more.drop 4
                    if 0xD800 ≤ u ∧ u ≤ 0xDBFF ∧ 7 ≤ after.length ∧ after.take 2 = [92, 117] then
                      match hex4 ((after.drop 2).take 4) with
                      | none => .error (.invalid .invalidUnicodeEscape (pos + 7))
                      | some v =>
                          if 0xDC00 ≤ v ∧ v ≤ 0xDFFF then
                            readString start fuel (after.drop 6) (pos + 12)
                              ((0x10000 + (u - 0xD800) * 1024 + (v - 0xDC00)) :: acc)
                          else readString start fuel after (pos + 6) (u :: acc)
                    else readString start fuel after (pos + 6) (u :: acc)
            else
              match simpleEscape e with
              | some x => readString start fuel more (pos + 2) (x :: acc)
              | none => .error (.invalid .invalidEscape pos)
      else if c ≤ 0x1F then .error (.invalid .invalidControl pos)
      else readString start fuel rest (pos + 1) (c :: acc)

def digitRun (s : List Nat) : List Nat := s.takeWhile isDigit

def digitsValue (ds : List Nat) : Nat := ds.foldl (fun n d => n * 10 + (d - 48)) 0

/-- Read a number at the front of `s` (offset `pos`), or `none` if none starts there. -/
def readNumber (s : List Nat) (pos : Nat) : Option (Except ReadError (Json × List Nat × Nat)) :=
  let (neg, s1) := match s with
    | 45 :: r => (true, r)
    | _ => (false, s)
  let intDigits : Option (List Nat) := match s1 with
    | 48 :: _ => some [48]
    | c :: r => if 49 ≤ c ∧ c ≤ 57 then some (c :: digitRun r) else none
    | [] => none
  intDigits.map fun ids =>
    let s2 := s1.drop ids.length
    let fracDigits : List Nat := match s2 with
      | 46 :: d :: r => if isDigit d then d :: digitRun r else []
      | _ => []
    let s3 := if fracDigits.isEmpty then s2 else s2.drop (1 + fracDigits.length)
    let expPart : Option (Bool × List Nat × Nat) := match s3 with
      | e :: r =>
          if e = 101 ∨ e = 69 then
            let (eneg, r1, signLen) := match r with
              | 45 :: r' => (true, r', 1)
              | 43 :: r' => (false, r', 1)
              | _ => (false, r, 0)
            let eds := digitRun r1
            if eds.isEmpty then none else some (eneg, eds, 1 + signLen + eds.length)
          else none
      | [] => none
    let s4 := match expPart with
      | some (_, _, n) => s3.drop n
      | none => s3
    let used := (if neg then 1 else 0) + ids.length +
      (if fracDigits.isEmpty then 0 else 1 + fracDigits.length) +
      (match expPart with | some (_, _, n) => n | none => 0)
    if fracDigits.isEmpty ∧ expPart.isNone then
      if digitLimit < ids.length then .error (.tooManyDigits ids.length)
      else
        let n : Int := digitsValue ids
        .ok (.int (if neg then -n else n), s4, pos + used)
    else
      let mant := digitsValue (ids ++ fracDigits)
      let e : Int := match expPart with
        | some (eneg, eds, _) => if eneg then -(digitsValue eds : Int) else digitsValue eds
        | none => 0
      .ok (.float (Decimal.nearest neg mant (e - fracDigits.length)), s4, pos + used)

def startsWith (s : List Nat) (w : String) : Bool := (w.toList.map Char.toNat).isPrefixOf s

mutual

/-- Read one value at the front of `s` (offset `pos`), where `room` more containers may
open. -/
def readValue : Nat → Nat → List Nat → Nat → Except ReadError (Json × List Nat × Nat)
  | 0, _, _, pos => .error (.invalid .expectingValue pos)
  | fuel + 1, room, s, pos =>
      match s with
      | 34 :: rest => (readString pos rest.length rest (pos + 1) []).map
          fun (cs, r, p) => (.str ⟨cs⟩, r, p)
      | 123 :: rest =>
          match room with
          | 0 => .error (.tooDeep .object)
          | room + 1 =>
            let (r, p) := skipSpace rest (pos + 1)
            match r with
            | 125 :: r' => .ok (.obj [], r', p + 1)
            | _ => readFields fuel room r p []
      | 91 :: rest =>
          match room with
          | 0 => .error (.tooDeep .array)
          | room + 1 =>
            let (r, p) := skipSpace rest (pos + 1)
            match r with
            | 93 :: r' => .ok (.arr [], r', p + 1)
            | _ => readItems fuel room r p []
      | _ =>
          if startsWith s "null" then .ok (.null, s.drop 4, pos + 4)
          else if startsWith s "true" then .ok (.bool true, s.drop 4, pos + 4)
          else if startsWith s "false" then .ok (.bool false, s.drop 5, pos + 5)
          else if startsWith s "NaN" then .ok (.float Binary64.nan, s.drop 3, pos + 3)
          else if startsWith s "Infinity" then
            .ok (.float (Binary64.infinity false), s.drop 8, pos + 8)
          else if startsWith s "-Infinity" then
            .ok (.float (Binary64.infinity true), s.drop 9, pos + 9)
          else
            match readNumber s pos with
            | some r => r
            | none => .error (.invalid .expectingValue pos)

def readItems : Nat → Nat → List Nat → Nat → List Json →
    Except ReadError (Json × List Nat × Nat)
  | 0, _, _, pos, _ => .error (.invalid .expectingValue pos)
  | fuel + 1, room, s, pos, acc => do
      let (v, r, p) ← readValue fuel room s pos
      let (r, p) := skipSpace r p
      match r with
      | 93 :: r' => .ok (.arr (v :: acc).reverse, r', p + 1)
      | 44 :: r' =>
          let (r'', p') := skipSpace r' (p + 1)
          readItems fuel room r'' p' (v :: acc)
      | _ => .error (.invalid .expectingComma p)

def readFields : Nat → Nat → List Nat → Nat → List (Text × Json) →
    Except ReadError (Json × List Nat × Nat)
  | 0, _, _, pos, _ => .error (.invalid .expectingPropertyName pos)
  | fuel + 1, room, s, pos, acc =>
      match s with
      | 34 :: rest => do
          let (k, r, p) ← readString pos rest.length rest (pos + 1) []
          let (r, p) := skipSpace r p
          match r with
          | 58 :: r' =>
              let (r'', p') := skipSpace r' (p + 1)
              let (v, r3, p3) ← readValue fuel room r'' p'
              let acc' := setField acc ⟨k⟩ v
              let (r4, p4) := skipSpace r3 p3
              match r4 with
              | 125 :: r5 => .ok (.obj acc', r5, p4 + 1)
              | 44 :: r5 =>
                  let (r6, p6) := skipSpace r5 (p4 + 1)
                  readFields fuel room r6 p6 acc'
              | _ => .error (.invalid .expectingComma p4)
          | _ => .error (.invalid .expectingColon p)
      | _ => .error (.invalid .expectingPropertyName pos)

end

/-- Read a whole text as one JSON value, blanks allowed around it, called with `room` places
of the call stack free. -/
def read (room : Nat) (doc : Text) : Except ReadError Json :=
  match doc.points with
  | 0xFEFF :: _ => .error (.invalid .unexpectedBom 0)
  | s =>
      let (r, p) := skipSpace s 0
      match readValue (2 * s.length + 4) (room - readerPlaces) r p with
      | .error e => .error e
      | .ok (v, r', p') =>
          let (r'', p'') := skipSpace r' p'
          if r''.isEmpty then .ok v else .error (.invalid .extraData p'')

end PhpCompletion.Json
