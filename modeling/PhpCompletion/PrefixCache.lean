import PhpCompletion.Candidate
import PhpCompletion.Json.Key

/-!
# The prefix cache

A buffer's cache remembers candidate lists by the prefix they were asked for. An entry is
*complete* when it holds every candidate for its prefix; a complete entry answers a longer
prefix by keeping the candidates that start with it, and that narrowed answer is stored under
the longer prefix. An incomplete entry answers only its own prefix. A lookup uses the longest
stored prefix of the query, so an incomplete longer entry hides a complete shorter one.

Keys are kept in the order they were first stored; storing under a key again replaces the
entry in place. Prefixes are texts; asking whether some other value is a key finds none.
-/

namespace PhpCompletion

/-- A stored candidate list. -/
structure CacheEntry where
  candidates : List Candidate
  complete : Bool
  deriving DecidableEq, Repr, Inhabited

/-- The candidate lists of one buffer, by prefix. -/
structure PrefixCache where
  entries : List (Text × CacheEntry)
  deriving DecidableEq, Repr, Inhabited

namespace PrefixCache

def empty : PrefixCache := ⟨[]⟩

def find? (c : PrefixCache) (k : Text) : Option CacheEntry :=
  (c.entries.find? fun e => e.1 == k).map Prod.snd

def contains (c : PrefixCache) (k : Text) : Bool := c.entries.any fun e => e.1 == k

/-- Whether an entry is stored under a value taken as a key: only a text can be one of the
cache's keys, and a list or an object fails as a key. -/
def holds (c : PrefixCache) (v : Json) : Except Fault Bool := do
  match ← v.key? with
  | .text t => pure (c.contains t)
  | _ => pure false

def size (c : PrefixCache) : Nat := c.entries.length

def keys (c : PrefixCache) : List Text := c.entries.map Prod.fst

/-- Store an entry under a key, replacing the entry of an existing key in place. -/
def put (c : PrefixCache) (k : Text) (cs : List Candidate) (complete : Bool) :
    PrefixCache × CacheEntry :=
  let e : CacheEntry := ⟨cs, complete⟩
  if c.contains k then (⟨c.entries.map fun f => if f.1 == k then (k, e) else f⟩, e)
  else (⟨c.entries ++ [(k, e)]⟩, e)

/-- The longest stored key that is a prefix of `p`, the empty key included. -/
def longestKnown (c : PrefixCache) (p : Text) : Option Text :=
  ((List.range (p.length + 1)).reverse.map p.take).find? c.contains

/-- Look a prefix up: the entry of its longest stored prefix if that is the prefix itself, the
narrowed candidates if that entry is complete (stored under `p` as well), and nothing if there
is no stored prefix or its entry is incomplete. -/
def get (c : PrefixCache) (p : Text) : PrefixCache × Option CacheEntry :=
  match c.longestKnown p with
  | none => (c, none)
  | some k =>
      match c.find? k with
      | none => (c, none)
      | some e =>
          if k = p then (c, some e)
          else if !e.complete then (c, none)
          else
            let (c', e') := c.put p (e.candidates.filter fun x => x.startsWith p) true
            (c', some e')

def clear (_ : PrefixCache) : PrefixCache := empty

theorem size_put_le (c : PrefixCache) (k : Text) (cs : List Candidate) (b : Bool) :
    (c.put k cs b).1.size ≤ c.size + 1 := by
  unfold put size
  split <;> simp

end PrefixCache

end PhpCompletion
