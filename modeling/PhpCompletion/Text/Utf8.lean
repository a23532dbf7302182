import PhpCompletion.Text.Basic

/-!
# Reading UTF-8

Bytes are read as UTF-8 one sequence at a time. A sequence that is not UTF-8 is reported by
the *maximal subpart* rule of the Unicode standard: the bad part is the longest prefix of the
sequence that could still have begun a well-formed one, and at least its first byte. Surrogate
code points and overlong forms are refused through the narrowed range of the second byte.

Two readers share the step: a strict one that stops at the first bad part and says where it
is, and a lenient one that writes U+FFFD for every bad part and goes on after it.
-/

namespace PhpCompletion.Text

/-- Why a run of bytes is not UTF-8. -/
inductive Utf8Fault
  /-- The byte cannot begin a sequence. -/
  | invalidStart
  /-- A byte that should continue the sequence does not. -/
  | invalidContinuation
  /-- The bytes end inside a sequence. -/
  | truncated
  deriving DecidableEq, Repr

/-- What one step of reading finds at the front of the bytes. -/
inductive Utf8Step
  /-- A code point, written in `width` bytes. -/
  | point (c : Nat) (width : Nat)
  /-- A bad part of `width` bytes. -/
  | bad (fault : Utf8Fault) (width : Nat)
  deriving DecidableEq, Repr

def isContinuation (b : Nat) : Bool := 0x80 ≤ b && b ≤ 0xBF

def within (lo hi b : Nat) : Bool := lo ≤ b && b ≤ hi

def utf8Step (b : Nat) (rest : List Nat) : Utf8Step :=
  if b < 0x80 then .point b 1
  else if b < 0xC2 || 0xF4 < b then .bad .invalidStart 1
  else if b < 0xE0 then
    match rest with
    | [] => .bad .truncated 1
    | c :: _ =>
        if isContinuation c then .point ((b - 0xC0) * 64 + (c - 0x80)) 2
        else .bad .invalidContinuation 1
  else if b < 0xF0 then
    let lo := if b = 0xE0 then 0xA0 else 0x80
    let hi := if b = 0xED then 0x9F else 0xBF
    match rest with
    | [] => .bad .truncated 1
    | [c] => if within lo hi c then .bad .truncated 2 else .bad .invalidContinuation 1
    | c :: d :: _ =>
        if !within lo hi c then .bad .invalidContinuation 1
        else if !isContinuation d then .bad .invalidContinuation 2
        else .point ((b - 0xE0) * 4096 + (c - 0x80) * 64 + (d - 0x80)) 3
  else
    let lo := if b = 0xF0 then 0x90 else 0x80
    let hi := if b = 0xF4 then 0x8F else 0xBF
    match rest with
    | [] => .bad .truncated 1
    | [c] => if within lo hi c then .bad .truncated 2 else .bad .invalidContinuation 1
    | [c, d] =>
        if !within lo hi c then .bad .invalidContinuation 1
        else if !isContinuation d then .bad .invalidContinuation 2
        else .bad .truncated 3
    | c :: d :: e :: _ =>
        if !within lo hi c then .bad .invalidContinuation 1
        else if !isContinuation d then .bad .invalidContinuation 2
        else if !isContinuation e then .bad .invalidContinuation 3
        else .point ((b - 0xF0) * 262144 + (c - 0x80) * 4096 + (d - 0x80) * 64 + (e - 0x80)) 4

/-- Where reading stopped: the bad part starts at `start`, is `width` bytes long and begins
with the byte `first`. -/
structure Utf8Error where
  start : Nat
  width : Nat
  first : Nat
  fault : Utf8Fault
  deriving DecidableEq, Repr

def Utf8Step.width : Utf8Step → Nat
  | .point _ w => max w 1
  | .bad _ w => max w 1

/-- Strict reading with explicit fuel; `pos` is the offset of the front byte. -/
def decodeStrictFrom : Nat → Nat → List Nat → Except Utf8Error (List Nat)
  | 0, _, _ => .ok []
  | _ + 1, _, [] => .ok []
  | fuel + 1, pos, b :: rest =>
      match utf8Step b rest with
      | .point c w => ((b :: rest).drop w |> decodeStrictFrom fuel (pos + w)).map (c :: ·)
      | .bad f w => .error ⟨pos, w, b, f⟩

def decodeStrict (bytes : List Nat) : Except Utf8Error Text :=
  (decodeStrictFrom bytes.length 0 bytes).map Text.mk

/-- Lenient reading with explicit fuel: each bad part becomes U+FFFD. -/
def decodeLossyFrom : Nat → List Nat → List Nat
  | 0, _ => []
  | _ + 1, [] => []
  | fuel + 1, b :: rest =>
      match utf8Step b rest with
      | .point c w => c :: decodeLossyFrom fuel ((b :: rest).drop w)
      | .bad _ w => 0xFFFD :: decodeLossyFrom fuel ((b :: rest).drop (max w 1))

def decodeLossy (bytes : List Nat) : Text := ⟨decodeLossyFrom bytes.length bytes⟩

/-- The UTF-8 bytes of a code point, a surrogate written like any other code point. -/
def utf8Bytes (c : Nat) : List Nat :=
  if c < 0x80 then [c]
  else if c < 0x800 then [0xC0 + c / 64, 0x80 + c % 64]
  else if c < 0x10000 then [0xE0 + c / 4096, 0x80 + c / 64 % 64, 0x80 + c % 64]
  else [0xF0 + c / 262144, 0x80 + c / 4096 % 64, 0x80 + c / 64 % 64, 0x80 + c % 64]

def encodeUtf8 (t : Text) : List Nat := t.points.flatMap utf8Bytes

/-- Line ends of text read from a file: a carriage return with or without a following line
feed becomes one line feed. -/
def normalizeLineEnds : List Nat → List Nat
  | [] => []
  | 13 :: 10 :: rest => 10 :: normalizeLineEnds rest
  | 13 :: rest => 10 :: normalizeLineEnds rest
  | c :: rest => c :: normalizeLineEnds rest

def hexByte (b : Nat) : String :=
  let d := fun (n : Nat) => if n < 10 then Char.ofNat (48 + n) else Char.ofNat (87 + n)
  String.ofList [d (b / 16 % 16), d (b % 16)]

def Utf8Fault.reason : Utf8Fault → String
  | .invalidStart => "invalid start byte"
  | .invalidContinuation => "invalid continuation byte"
  | .truncated => "unexpected end of data"

def Utf8Error.message (e : Utf8Error) : Text :=
  if e.width ≤ 1 then
    Text.ofString ("'utf-8' codec can't decode byte 0x" ++ hexByte e.first ++ " in position " ++
      toString e.start ++ ": " ++ e.fault.reason)
  else
    Text.ofString ("'utf-8' codec can't decode bytes in position " ++ toString e.start ++ "-" ++
      toString (e.start + e.width - 1) ++ ": " ++ e.fault.reason)

end PhpCompletion.Text
