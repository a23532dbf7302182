import Mathlib.Data.List.Induction
import PhpCompletion.Proofs.Cache.Lookup

/-! # Narrowing is sound

Fix a list `U` of candidates and run stores, lookups and clears on one cache, where every
complete store under a key holds exactly the candidates of `U` that start with that key, in
`U`'s order, and an incomplete store holds anything. Every lookup then answers nothing, the
incomplete entry last stored under exactly its prefix, or exactly the candidates of `U` that
start with its prefix (`get_after_faithful_run`).

The invariant `Sound` says the same of every stored entry, relative to the operations run so
far. A lookup keeps it because narrowing filters a complete entry of a shorter key, and a
candidate that starts with the longer prefix starts with every prefix of it.
-/

namespace PhpCompletion

def Candidate.startingWith (U : List Candidate) (p : Text) : List Candidate :=
  U.filter fun x => x.startsWith p

theorem Candidate.startsWith_of_isPrefixOf {k p : Text} (hkp : k.isPrefixOf p = true)
    {x : Candidate} (hx : x.startsWith p = true) : x.startsWith k = true := by
  simp only [startsWith, Text.isPrefixOf, List.isPrefixOf_iff_prefix] at hkp hx ⊢
  exact hkp.trans hx

theorem Candidate.startingWith_filter (U : List Candidate) {k p : Text}
    (hkp : k.isPrefixOf p = true) :
    (startingWith U k).filter (fun x => x.startsWith p) = startingWith U p := by
  unfold startingWith
  rw [List.filter_filter]
  congr 1
  funext x
  cases hx : x.startsWith p
  · rfl
  · simp [startsWith_of_isPrefixOf hkp hx]

namespace PrefixCache

/-- An operation on a cache. -/
inductive Op where
  | put (k : Text) (cs : List Candidate) (complete : Bool)
  | get (p : Text)
  | clear

def apply (c : PrefixCache) : Op → PrefixCache
  | .put k cs b => (c.put k cs b).1
  | .get p => (c.get p).1
  | .clear => c.clear

def runOps (c : PrefixCache) (ops : List Op) : PrefixCache := ops.foldl apply c

def Op.lastUnder (k : Text) (last : Option CacheEntry) : Op → Option CacheEntry
  | .put k' cs b => if k' = k then some ⟨cs, b⟩ else last
  | _ => last

def lastPut (ops : List Op) (k : Text) : Option CacheEntry := ops.foldl (Op.lastUnder k) none

@[simp] theorem runOps_append_singleton (c : PrefixCache) (ops : List Op) (op : Op) :
    runOps c (ops ++ [op]) = (runOps c ops).apply op := by
  simp [runOps, List.foldl_append]

@[simp] theorem lastPut_append_singleton (ops : List Op) (op : Op) (k : Text) :
    lastPut (ops ++ [op]) k = op.lastUnder k (lastPut ops k) := by
  simp [lastPut, List.foldl_append]

/-- Every complete store holds the candidates of `U` that start with its key. -/
def Faithful (U : List Candidate) (ops : List Op) : Prop :=
  ∀ k cs, Op.put k cs true ∈ ops → cs = Candidate.startingWith U k

/-- Every stored entry is complete and holds the candidates of `U` that start with its key,
or is incomplete and is what the last `put` under its key stored. -/
def Sound (U : List Candidate) (ops : List Op) (c : PrefixCache) : Prop :=
  ∀ k e, c.find? k = some e →
    (e.complete = true ∧ e.candidates = Candidate.startingWith U k) ∨
      (e.complete = false ∧ lastPut ops k = some e)

variable {U : List Candidate}

theorem Faithful.of_append {ops ops' : List Op} (h : Faithful U (ops ++ ops')) :
    Faithful U ops :=
  fun k cs hk => h k cs (List.mem_append_left ops' hk)

theorem Sound.keep {ops : List Op} {c : PrefixCache} (hs : Sound U ops c) {op : Op} {k : Text}
    {e : CacheEntry} (hop : op.lastUnder k (lastPut ops k) = lastPut ops k)
    (he : c.find? k = some e) :
    (e.complete = true ∧ e.candidates = Candidate.startingWith U k) ∨
      (e.complete = false ∧ lastPut (ops ++ [op]) k = some e) := by
  rw [lastPut_append_singleton, hop]
  exact hs k e he

theorem Sound.put {ops : List Op} {c : PrefixCache} (hs : Sound U ops c) {k : Text}
    {cs : List Candidate} {b : Bool} (hf : Faithful U (ops ++ [.put k cs b])) :
    Sound U (ops ++ [.put k cs b]) (c.put k cs b).1 := by
  intro k' e he
  by_cases hk : k' = k
  · subst hk
    rw [find?_put_self, Option.some.injEq] at he
    subst he
    cases b with
    | false => exact .inr ⟨rfl, by simp [Op.lastUnder]⟩
    | true => exact .inl ⟨rfl, hf k' cs (by simp)⟩
  · rw [find?_put_of_ne c cs b hk] at he
    exact hs.keep (by simp [Op.lastUnder, Ne.symm hk]) he

theorem Sound.get {ops : List Op} {c : PrefixCache} (hs : Sound U ops c) (p : Text) :
    Sound U (ops ++ [.get p]) (c.get p).1 := by
  have unchanged : Sound U (ops ++ [.get p]) c := fun k e he => hs.keep rfl he
  rcases get_cases c p with hget | ⟨e, -, hget⟩ | ⟨k, e, hkp, -, he, hc, hget⟩
  · rw [hget]
    exact unchanged
  · rw [hget]
    exact unchanged
  · rw [hget]
    -- the narrowed entry is the filter of a complete, hence faithful, entry
    have hek : e.candidates = Candidate.startingWith U k := by
      rcases hs k e he with ⟨-, h⟩ | ⟨h, -⟩
      · exact h
      · rw [hc] at h
        cases h
    intro k' e' he'
    by_cases hk : k' = p
    · subst hk
      rw [find?_put_self, Option.some.injEq] at he'
      subst he'
      exact .inl ⟨rfl, by rw [hek, Candidate.startingWith_filter U hkp]⟩
    · rw [find?_put_of_ne c _ true hk] at he'
      exact unchanged k' e' he'

theorem Sound.apply {ops : List Op} {c : PrefixCache} (hs : Sound U ops c) {op : Op}
    (hf : Faithful U (ops ++ [op])) : Sound U (ops ++ [op]) (c.apply op) := by
  cases op with
  | put k cs b => exact hs.put hf
  | get p => exact hs.get p
  | clear =>
      intro k e he
      simp only [PrefixCache.apply, PrefixCache.clear, find?_empty] at he
      cases he

/-- Every run of faithful operations from the empty cache leaves a sound cache. -/
theorem sound_runOps (ops : List Op) (hf : Faithful U ops) : Sound U ops (runOps empty ops) := by
  induction ops using List.reverseRecOn with
  | nil => intro k e he; simp [runOps] at he
  | append_singleton ops op ih =>
      rw [runOps_append_singleton]
      exact (ih hf.of_append).apply hf

theorem Sound.get_answer {ops : List Op} {c : PrefixCache} (hs : Sound U ops c) (p : Text) :
    (c.get p).2 = none ∨
      (∃ cs, lastPut ops p = some ⟨cs, false⟩ ∧ (c.get p).2 = some ⟨cs, false⟩) ∨
      (∃ e, (c.get p).2 = some e ∧ e.complete = true ∧
        e.candidates = Candidate.startingWith U p) := by
  have after := hs.get p
  rcases get_cases c p with hget | ⟨e, he, hget⟩ | ⟨k, e, -, -, -, -, hget⟩
  · exact .inl (by rw [hget])
  · rw [hget]
    rcases hs p e he with ⟨hc, hcs⟩ | ⟨hc, hlast⟩
    · exact .inr (.inr ⟨e, rfl, hc, hcs⟩)
    · obtain ⟨cs, b⟩ := e
      simp only at hc
      subst hc
      exact .inr (.inl ⟨cs, hlast, rfl⟩)
  · have stored : (c.get p).1.find? p = some ⟨e.candidates.filter fun x => x.startsWith p, true⟩ := by
      rw [hget, find?_put_self]
    rcases after p _ stored with ⟨-, hcs⟩ | ⟨h, -⟩
    · exact .inr (.inr ⟨_, by rw [hget], rfl, hcs⟩)
    · cases h

/-- Narrowing soundness: after any run of stores, lookups and clears on a fresh cache in which
every complete store holds the candidates of `U` that start with its key, a lookup of `p`
answers nothing, the incomplete entry last stored under exactly `p`, or a complete entry
holding exactly the candidates of `U` that start with `p`; and every entry it leaves stored,
the one its own narrowing stores included, keeps that invariant. -/
theorem get_after_faithful_run (U : List Candidate) (ops : List Op) (hf : Faithful U ops)
    (p : Text) :
    Sound U (ops ++ [.get p]) ((runOps empty ops).get p).1 ∧
      (((runOps empty ops).get p).2 = none ∨
        (∃ cs, lastPut ops p = some ⟨cs, false⟩ ∧
          ((runOps empty ops).get p).2 = some ⟨cs, false⟩) ∨
        (∃ e, ((runOps empty ops).get p).2 = some e ∧ e.complete = true ∧
          e.candidates = Candidate.startingWith U p)) :=
  ⟨(sound_runOps ops hf).get p, (sound_runOps ops hf).get_answer p⟩

def sampleCandidates : List Candidate :=
  [⟨Text.ofString "foo", Text.empty, Text.ofString "method", none⟩,
    ⟨Text.ofString "fizz", Text.empty, Text.ofString "method", none⟩,
    ⟨Text.ofString "bar", Text.empty, Text.ofString "method", none⟩]

/-- A complete store under `f`, a lookup that narrows it to `fo`, and an incomplete store under
`foob` that hides both from longer prefixes. -/
def sampleOps : List Op :=
  [.put (Text.ofString "f") (Candidate.startingWith sampleCandidates (Text.ofString "f")) true,
    .get (Text.ofString "fo"), .put (Text.ofString "foob") [] false]

theorem get_after_faithful_run_sample :
    Faithful sampleCandidates sampleOps ∧
      Sound sampleCandidates (sampleOps ++ [.get (Text.ofString "foo")])
        ((runOps empty sampleOps).get (Text.ofString "foo")).1 ∧
      (((runOps empty sampleOps).get (Text.ofString "foo")).2 = none ∨
        (∃ cs, lastPut sampleOps (Text.ofString "foo") = some ⟨cs, false⟩ ∧
          ((runOps empty sampleOps).get (Text.ofString "foo")).2 = some ⟨cs, false⟩) ∨
        (∃ e, ((runOps empty sampleOps).get (Text.ofString "foo")).2 = some e ∧
          e.complete = true ∧
          e.candidates = Candidate.startingWith sampleCandidates (Text.ofString "foo"))) := by
  have hf : Faithful sampleCandidates sampleOps := by
    intro k cs hk
    simp only [sampleOps, List.mem_cons, List.not_mem_nil, Op.put.injEq, reduceCtorEq,
      and_false, or_false] at hk
    obtain ⟨rfl, rfl, -⟩ := hk
    rfl
  exact ⟨hf, get_after_faithful_run sampleCandidates sampleOps hf (Text.ofString "foo")⟩

end PrefixCache

end PhpCompletion
