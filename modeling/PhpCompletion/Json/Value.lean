import PhpCompletion.Text.Basic
import PhpCompletion.Binary64

/-!
# JSON values

A JSON value as the completion service and the settings file write it. Integers are exact,
other numbers are binary64, strings are texts of code points, and an object keeps its keys in
the order they first appear, each key once.
-/

namespace PhpCompletion

/-- A JSON value. -/
inductive Json where
  | null
  | bool (b : Bool)
  | int (n : Int)
  | float (x : Binary64)
  | str (s : Text)
  | arr (items : List Json)
  | obj (fields : List (Text × Json))
  deriving Inhabited

namespace Json

def lookup (fields : List (Text × Json)) (key : Text) : Option Json :=
  (fields.find? fun f => f.1 == key).map Prod.snd

def get? (v : Json) (key : Text) : Option Json :=
  match v with
  | .obj fields => lookup fields key
  | _ => none

/-- A field list with `key` set to `value`: an existing key keeps its place and takes the new
value, a new key goes last. -/
def setField (fields : List (Text × Json)) (key : Text) (value : Json) : List (Text × Json) :=
  if fields.any (fun f => f.1 == key) then
    fields.map fun f => if f.1 == key then (key, value) else f
  else fields ++ [(key, value)]

def typeName : Json → String
  | .null => "NoneType"
  | .bool _ => "bool"
  | .int _ => "int"
  | .float _ => "float"
  | .str _ => "str"
  | .arr _ => "list"
  | .obj _ => "dict"

def isObject : Json → Bool
  | .obj _ => true
  | _ => false

theorem sizeOf_lt_of_mem_fields {fields : List (Text × Json)} {k : Text} {v : Json}
    (h : (k, v) ∈ fields) : sizeOf v < 1 + sizeOf fields := by
  have := List.sizeOf_lt_of_mem h
  simp only [Prod.mk.sizeOf_spec] at this
  omega

/-- How many arrays and objects nest on the deepest path of a value: none for a scalar, one
more than the deepest item for an array or object. -/
def depth : Json → Nat
  | .arr items => 1 + (items.attach.map fun ⟨v, _⟩ => depth v).foldr max 0
  | .obj fields => 1 + (fields.attach.map fun ⟨(_, v), h⟩ =>
      have := sizeOf_lt_of_mem_fields h
      depth v).foldr max 0
  | _ => 0

end Json

end PhpCompletion
