import PhpCompletion.Client

/-!
# Completion services

What the completion manager needs of a service: an immediate query, a background request that
is numbered and answered later (or at once), the cancellation of a background request, new
settings, and stopping. `Service σ` bundles these over the service's own state `σ`.

Two services are given. `Scripted` answers every query with a set answer and keeps every
background request until it is answered by hand; it is the service an editor's tests drive.
`Linked` runs the client against its host and answers every background request at once.
-/

namespace PhpCompletion

/-- How a background request was taken: its number and, if it was answered at once, the
answer. -/
structure Handover where
  ticket : Nat
  answer : Option (Except Fault (List Suggestion))

/-- The operations of a completion service with state `σ`. -/
structure Service (σ : Type) where
  /-- Ask now, with some places of the call stack free: the suggestions at an offset of a
  source text. -/
  query : Nat → Text → Int → σ → Except Fault (List Suggestion) × σ
  /-- Ask in the background. -/
  submit : Text → Int → σ → Except Fault Handover × σ
  /-- Cancel a background request. -/
  cancel : Nat → σ → σ
  /-- Take new settings. -/
  configure : Settings → σ → σ
  /-- Stop. -/
  stop : σ → σ

structure ScriptedRequest where
  source : Text
  offset : Int
  cancelled : Bool
  deriving DecidableEq, Repr

/-- A service that answers queries with a set answer and keeps background requests until they
are answered by hand. Every query and request is recorded. -/
structure Scripted where
  answer : Except Fault (List Suggestion)
  requests : List ScriptedRequest
  stopped : Bool
  calls : List (Text × Int)

namespace Scripted

def initial : Scripted := ⟨.ok [], [], false, []⟩

def service : Service Scripted where
  query _ src off s := (s.answer, { s with calls := s.calls ++ [(src, off)] })
  submit src off s :=
    (.ok ⟨s.requests.length, none⟩,
      { s with requests := s.requests ++ [⟨src, off, false⟩], calls := s.calls ++ [(src, off)] })
  cancel t s := { s with requests := s.requests.modify t fun r => { r with cancelled := true } }
  configure _ s := s
  stop s := { s with stopped := true }

end Scripted

/-- A service that runs the client in its host; a background request runs at once. -/
structure Linked where
  client : Client
  host : Host
  issued : Nat

namespace Linked

def service : Service Linked where
  query room src off s :=
    let (r, h) := s.client.query room s.host src (.int off)
    (r, { s with host := h })
  submit src off s :=
    let (r, h) := s.client.queryLater s.host src (.int off)
    match r with
    | .error f => (.error f, { s with host := h })
    | .ok d => (.ok ⟨s.issued, some d.result⟩, { s with host := h, issued := s.issued + 1 })
  cancel _ s := s
  configure st s := { s with client := s.client.applySettings st }
  stop s := { s with client := s.client.stop }

end Linked

end PhpCompletion
