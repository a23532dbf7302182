import PhpCompletion.Fault

/-!
# Values as keys

A table whose keys are values finds an entry under any value equal to the one it was stored
under: numbers are equal by their exact value whatever their kind, so `1`, `1.0` and `true` are
one key, as are `0`, `-0.0` and `false`; texts are equal by their code points, and no text
equals a number. A not-a-number equals no number, but every not-a-number a document holds is
one and the same value, and a table tries a key's own value before it compares, so what is
stored under a not-a-number is found again under one. Lists and objects change in place, so
they are no keys at all.

`Json.key?` puts a value in the normal form `Key`, where equal values have equal forms; a
`KeyTable` compares those forms. Storing under a key that is there already replaces the entry
in place.
-/

namespace PhpCompletion

/-- The normal form of a value that can be a key. -/
inductive Key where
  /-- The null value. -/
  | null
  /-- A number with no fractional part, a truth value as `0` or `1`. -/
  | integer (n : Int)
  /-- A number with a fractional part, or an infinity, by its bits. -/
  | fractional (x : Binary64)
  /-- A text. -/
  | text (t : Text)
  /-- The not-a-number. -/
  | notANumber
  deriving DecidableEq, Repr

namespace Json

def key? : Json → Except Fault Key
  | .null => .ok .null
  | .bool b => .ok (.integer (if b then 1 else 0))
  | .int n => .ok (.integer n)
  | .float x =>
      if x.isNaN then .ok .notANumber
      else match x.integral? with
        | some n => .ok (.integer n)
        | none => .ok (.fractional x)
  | .str s => .ok (.text s)
  | .arr _ => .error (.unhashable "list")
  | .obj _ => .error (.unhashable "dict")

end Json

/-- Entries under keys that are values, in the order their keys were first stored. -/
structure KeyTable (α : Type) where
  entries : List (Key × α)

namespace KeyTable

variable {α : Type}

def empty : KeyTable α := ⟨[]⟩

def find? (t : KeyTable α) (k : Key) : Option α :=
  (t.entries.find? fun e => e.1 == k).map Prod.snd

/-- Store an entry under a key, replacing the entry of an equal key in place. -/
def insert (t : KeyTable α) (k : Key) (v : α) : KeyTable α :=
  if t.entries.any (fun e => e.1 == k) then
    ⟨t.entries.map fun e => if e.1 == k then (e.1, v) else e⟩
  else ⟨t.entries ++ [(k, v)]⟩

/-- The entry stored under a value, or the failure of a lookup: the value is no key, or
nothing is stored under it. -/
def get (t : KeyTable α) (v : Json) : Except Fault α := do
  match t.find? (← v.key?) with
  | some a => pure a
  | none => throw (.unknownKey v)

def set (t : KeyTable α) (v : Json) (a : α) : Except Fault (KeyTable α) := do
  pure (t.insert (← v.key?) a)

theorem find?_insert_self (t : KeyTable α) (k : Key) (v : α) :
    (t.insert k v).find? k = some v := by
  simp only [insert, find?]
  by_cases h : t.entries.any (fun e => e.1 == k) = true
  · rw [if_pos h, List.find?_map]
    have hp : ((fun e : Key × α => e.1 == k) ∘ fun e => if e.1 == k then (e.1, v) else e) =
        fun e => e.1 == k := by
      funext e
      by_cases he : e.1 = k <;> simp [he]
    rw [hp]
    cases hf : List.find? (fun e : Key × α => e.1 == k) t.entries with
    | none =>
        obtain ⟨e, he, hk⟩ := List.any_eq_true.mp h
        have := List.find?_eq_none.mp hf e he
        simp_all
    | some e =>
        have hk : e.1 = k := by simpa using List.find?_some hf
        simp [hk]
  · rw [if_neg h]
    have hn : List.find? (fun e : Key × α => e.1 == k) t.entries = none := by
      rw [List.find?_eq_none]
      intro x hx hk
      exact h (List.any_eq_true.mpr ⟨x, hx, hk⟩)
    simp [List.find?_append, hn]

end KeyTable

end PhpCompletion
