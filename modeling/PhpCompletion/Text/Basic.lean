/-!
# Text as a sequence of code points

Text in this library is any finite sequence of code points below `0x110000`, the surrogate
range included. A reply of the completion service may carry a lone surrogate escape, and such a
text has to travel through the cache, the request and the answer unchanged, so the carrier is a
list of numbers rather than `String`. Lengths, offsets and cuts all count code points; order
is the lexicographic order of code points.

The operations are thin views of the list operations, each with its small lemma, so that later
statements never unfold them.
-/

namespace PhpCompletion

/-- A text: a sequence of code points, lone surrogates allowed. -/
structure Text where
  points : List Nat
  deriving DecidableEq, Inhabited, Hashable, Repr

namespace Text

def ofString (s : String) : Text := ⟨s.toList.map Char.toNat⟩

instance : Coe String Text := ⟨ofString⟩

def empty : Text := ⟨[]⟩

def single (c : Nat) : Text := ⟨[c]⟩

def length (t : Text) : Nat := t.points.length

instance : Append Text := ⟨fun a b => ⟨a.points ++ b.points⟩⟩

def take (t : Text) (n : Nat) : Text := ⟨t.points.take n⟩

def drop (t : Text) (n : Nat) : Text := ⟨t.points.drop n⟩

def get? (t : Text) (i : Nat) : Option Nat := t.points[i]?

/-- `p.isPrefixOf t` holds when `t` starts with `p`, code point by code point. -/
def isPrefixOf (p t : Text) : Bool := p.points.isPrefixOf t.points

def isEmpty (t : Text) : Bool := t.points.isEmpty

def join (sep : Text) : List Text → Text
  | [] => empty
  | [t] => t
  | t :: rest => t ++ sep ++ join sep rest

def ltPoints : List Nat → List Nat → Bool
  | [], [] => false
  | [], _ :: _ => true
  | _ :: _, [] => false
  | a :: as, b :: bs => if a < b then true else if b < a then false else ltPoints as bs

def lt (a b : Text) : Bool := ltPoints a.points b.points

def ofNat (n : Nat) : Text := ofString (toString n)

def ofInt (i : Int) : Text :=
  if i < 0 then ofString "-" ++ ofNat i.natAbs else ofNat i.natAbs

/-- The number of bytes a code point takes in UTF-8, surrogates written as three bytes. -/
def utf8Width (c : Nat) : Nat :=
  if c < 0x80 then 1 else if c < 0x800 then 2 else if c < 0x10000 then 3 else 4

/-- The number of UTF-8 bytes of a text, surrogates counted as three bytes each. -/
def utf8Length (t : Text) : Nat := t.points.foldr (fun c n => utf8Width c + n) 0

def flatMap (t : Text) (f : Nat → List Nat) : Text := ⟨t.points.flatMap f⟩

@[simp] theorem length_append (a b : Text) : (a ++ b).length = a.length + b.length := by
  show (a.points ++ b.points).length = _
  simp [length]

@[simp] theorem points_append (a b : Text) : (a ++ b).points = a.points ++ b.points := rfl

@[simp] theorem length_take (t : Text) (n : Nat) : (t.take n).length = min n t.length := by
  simp [take, length]

@[simp] theorem points_take (t : Text) (n : Nat) : (t.take n).points = t.points.take n := rfl

theorem utf8Width_pos (c : Nat) : 0 < utf8Width c := by
  unfold utf8Width; split <;> (try split) <;> (try split) <;> omega

end Text

end PhpCompletion
