import PhpCompletion.Proofs.Manager.Steps

/-! # Runs of the manager

A run is a list of calls: what an editor asks of the manager (open and close buffers, look
up, ask now or later, change the settings, drain the queue, shut down) and the answers the
service hands back for its background requests, in any order. Each call runs its operation
from the state the previous one left, whether or not that operation failed.

A statement about runs restricts them by a predicate on each call and the state it is made in
(`Admits`): what the editor or the service promises. A property that every admitted call
keeps holds after every admitted run (`Admits.invariant`).
-/

namespace PhpCompletion

namespace Manager

variable {σ : Type}

/-- A call on the manager, or the service handing back the answer of a background request:
what a run is made of. -/
inductive Call where
  | openBuffer (b : Text)
  | closeBuffer (b : Text)
  | cached (b literal : Text) (q : Json)
  | candidates (room : Nat) (b literal : Text) (q : Json) (view : Text × Json)
  | candidatesLater (b literal : Text) (q : Json) (l : Listener) (view : Text × Json)
  | request (room : Nat) (b literal : Text) (q : Json) (l : Listener) (view : Text × Json)
  | updateSettings (cfg : Json)
  | answer (t : Nat) (r : Except Fault (List Suggestion))
  | drain
  | shutdown

def Call.buffer? : Call → Option Text
  | .openBuffer b | .closeBuffer b | .cached b _ _ | .candidates _ b _ _ _
  | .candidatesLater b _ _ _ _ | .request _ b _ _ _ _ => some b
  | _ => none

def Call.listener? : Call → Option Listener
  | .candidatesLater _ _ _ l _ | .request _ _ _ _ l _ => some l
  | _ => none

def Call.ticket? : Call → Option Nat
  | .answer t _ => some t
  | _ => none

def Call.opens? : Call → Option Text
  | .openBuffer b => some b
  | _ => none

/-- The state a call leaves, finished or failed. -/
def step (svc : Service σ) (m : Manager σ) : Call → Manager σ
  | .openBuffer b => stateOf ((openBuffer svc b).run m)
  | .closeBuffer b => stateOf ((closeBuffer svc b).run m)
  | .cached b lit q => stateOf ((cached svc b lit q).run m)
  | .candidates room b lit q view => stateOf ((candidates svc room b lit q view).run m)
  | .candidatesLater b lit q l view => stateOf ((candidatesLater svc b lit q l view).run m)
  | .request room b lit q l view => stateOf ((request svc room b lit q l view).run m)
  | .updateSettings cfg => stateOf ((updateSettings svc cfg).run m)
  | .answer t r => stateOf ((answer t r).run m)
  | .drain => stateOf ((drain : Step σ Unit).run m)
  | .shutdown => stateOf ((shutdown svc).run m)

/-- The state after calls, in order. -/
def runCalls (svc : Service σ) (m : Manager σ) (cs : List Call) : Manager σ :=
  cs.foldl (step svc) m

@[simp] theorem runCalls_nil (svc : Service σ) (m : Manager σ) : runCalls svc m [] = m := rfl

@[simp] theorem runCalls_cons (svc : Service σ) (m : Manager σ) (c : Call) (cs : List Call) :
    runCalls svc m (c :: cs) = runCalls svc (step svc m c) cs := rfl

theorem runCalls_append (svc : Service σ) (m : Manager σ) (cs cs' : List Call) :
    runCalls svc m (cs ++ cs') = runCalls svc (runCalls svc m cs) cs' := by
  simp [runCalls, List.foldl_append]

/-- Every call of a run is made in a state where `P` allows it. -/
def Admits (svc : Service σ) (P : Manager σ → Call → Prop) : Manager σ → List Call → Prop
  | _, [] => True
  | m, c :: cs => P m c ∧ Admits svc P (step svc m c) cs

theorem Admits.invariant {svc : Service σ} {P : Manager σ → Call → Prop}
    {I : Manager σ → Prop} (keeps : ∀ m c, I m → P m c → I (step svc m c))
    {m : Manager σ} {cs : List Call} (hI : I m) (h : Admits svc P m cs) :
    I (runCalls svc m cs) := by
  induction cs generalizing m with
  | nil => exact hI
  | cons c cs ih => exact ih (keeps m c hI h.1) h.2

/-- What every call of a run keeps holds after the run. -/
theorem runCalls_invariant {svc : Service σ} {I : Manager σ → Prop} {cs : List Call}
    (keeps : ∀ m, ∀ c ∈ cs, I m → I (step svc m c)) {m : Manager σ} (hI : I m) :
    I (runCalls svc m cs) := by
  induction cs generalizing m with
  | nil => exact hI
  | cons c cs ih =>
      exact ih (fun m' c' hc' => keeps m' c' (List.mem_cons_of_mem c hc'))
        (keeps m c List.mem_cons_self hI)

section Positions

variable {svc : Service σ} {P : Manager σ → Call → Prop} {m : Manager σ}

theorem Admits.call {u v : List Call} {c : Call} (h : Admits svc P m (u ++ c :: v)) :
    P (runCalls svc m u) c := by
  induction u generalizing m with
  | nil => exact h.1
  | cons c' u ih => exact ih h.2

theorem Admits.of_calls {cs : List Call}
    (h : ∀ u c v, cs = u ++ c :: v → P (runCalls svc m u) c) : Admits svc P m cs := by
  induction cs generalizing m with
  | nil => trivial
  | cons c cs ih =>
      refine ⟨h [] c cs rfl, ih fun u c' v split => ?_⟩
      exact h (c :: u) c' v (by rw [split, List.cons_append])

theorem Admits.take {u v : List Call} (h : Admits svc P m (u ++ v)) : Admits svc P m u := by
  induction u generalizing m with
  | nil => trivial
  | cons c u ih => exact ⟨h.1, ih h.2⟩

theorem Admits.drop {u v : List Call} (h : Admits svc P m (u ++ v)) :
    Admits svc P (runCalls svc m u) v := by
  induction u generalizing m with
  | nil => exact h
  | cons c u ih => exact ih h.2

/-- A property of states that fails before a run and holds after it starts to hold at one of
its calls. -/
theorem runCalls_first {Q : Manager σ → Prop} {cs : List Call} (before : ¬Q m)
    (after : Q (runCalls svc m cs)) :
    ∃ u c v, cs = u ++ c :: v ∧ ¬Q (runCalls svc m u) ∧ Q (runCalls svc m (u ++ [c])) := by
  induction cs generalizing m with
  | nil => exact absurd after before
  | cons c cs ih =>
      by_cases now : Q (step svc m c)
      · exact ⟨[], c, cs, rfl, before, now⟩
      · obtain ⟨u, c', v, split, notYet, holds⟩ := ih now after
        exact ⟨c :: u, c', v, by rw [split, List.cons_append], notYet, holds⟩

end Positions

theorem create_eq {cfg : Json} {svc₀ : σ} {m : Manager σ} (h : create cfg svc₀ = .ok m) :
    m.sessions = [] ∧ m.queue = [] ∧ m.captures = [] ∧ m.events = [] := by
  unfold create at h
  cases hn : Settings.normalize cfg with
  | error f =>
      simp only [hn] at h
      cases h
  | ok st =>
      simp only [hn] at h
      cases h
      exact ⟨rfl, rfl, rfl, rfl⟩

end Manager

end PhpCompletion
