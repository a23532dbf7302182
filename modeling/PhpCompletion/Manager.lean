import PhpCompletion.Service
import PhpCompletion.PrefixCache
import PhpCompletion.Candidate

/-!
# The completion manager

The manager answers the completion requests of an editor's buffers, from each buffer's prefix
cache or from the completion service. Every open buffer has a *session*: its cache, the
failures it has reported, and a counter of requests, the *token*. Each lookup takes a new
token, so a background answer counts only while its token is still the latest of its
session; an answer that came too late is kept in the cache under its own prefix (when that
prefix is not cached yet) but reaches no one.

A prefix is kept as the value it was asked with, and events show it so; the cache files it
under its plain text. Whether a late answer's prefix is cached yet is asked with the value
itself, so a prefix that is no text is never found there, and one that is a list or an object
fails the question, which drops that answer.

A session reads its buffer through a *view*: the text and the cursor as the editor holds them.
The cursor is read as an integer only when the service is asked, after the cache missed.

Background answers wait in a queue until the editor drains it. Answers are routed by the
buffer's name, so an answer may reach a later session of the same buffer.

Events are recorded in the order they happen: a list became ready, a status message was
shown, a list was handed to a receiver. A receiver may break after taking its list; while
draining, that stops the handling of that one answer only.

Operations run in `Step σ`, which keeps every change made before a failure, as the editor sees
it.
-/

namespace PhpCompletion

/-- A receiver of candidate lists: the value that names it, and the message it breaks with
after taking a list, if it breaks. -/
structure Listener where
  name : Json
  breaksWith : Option Text

/-- What a background request remembers to route its answer: the buffer's name, the prefix as
it was asked, the token and the receiver. -/
structure Capture where
  buffer : Text
  query : Json
  token : Nat
  listener : Listener

/-- A background answer waiting in the queue. -/
structure Answer where
  capture : Capture
  result : Except Fault (List Suggestion)

/-- Something the manager did that the editor can see. -/
inductive Event where
  /-- A list became ready for a buffer's prefix, as it was asked, under a token. -/
  | ready (buffer : Text) (query : Json) (token : Nat) (items : List Candidate)
  /-- A status message. -/
  | status (message : Text)
  /-- A list was handed to the receiver of that name. -/
  | delivered (listener : Json) (items : List Candidate)

/-- The completion state of one open buffer. -/
structure Session where
  buffer : Text
  /-- Which opening made this session: the manager counts them. -/
  serial : Nat
  cache : PrefixCache
  token : Nat
  /-- The kinds of failure reported so far. -/
  reported : List Text
  closed : Bool
  /-- The background request of the latest lookup, if one is running. -/
  pending : Option Nat
  deriving DecidableEq, Repr

namespace Session

def fresh (buffer : Text) (serial : Nat) : Session :=
  ⟨buffer, serial, PrefixCache.empty, 0, [], false, none⟩

def isCurrent (s : Session) (token : Nat) : Bool := !s.closed && token == s.token

/-- The source and offset of a buffer as the editor shows it: its text, and its cursor read
as an integer. -/
def readView (view : Text × Json) : Except Fault (Text × Int) :=
  match view.2.toInteger with
  | .ok n => .ok (view.1, n)
  | .error e => .error (.integer e)

end Session

/-- The state of a completion manager over a service with state `σ`. -/
structure Manager (σ : Type) where
  settings : Settings
  service : σ
  sessions : List Session
  queue : List Answer
  captures : List (Nat × Capture)
  opened : Nat
  events : List Event

abbrev Step (σ : Type) := EStateM Fault (Manager σ)

namespace Manager

variable {σ : Type}

def create (cfg : Json) (service : σ) : Except Fault (Manager σ) := do
  let s ← Settings.normalize cfg
  pure ⟨s, service, [], [], [], 0, []⟩

def statusOf (f : Fault) : Text := Text.ofString "phpactor completion unavailable: " ++ f.message

def liftExcept {α : Type} : Except Fault α → Step σ α
  | .ok a => pure a
  | .error f => throw f

def emit (e : Event) : Step σ Unit := modify fun m => { m with events := m.events ++ [e] }

def session? (m : Manager σ) (b : Text) : Option Session := m.sessions.find? fun s => s.buffer == b

def updateSession (b : Text) (f : Session → Session) : Step σ Unit :=
  modify fun m => { m with sessions := m.sessions.map fun s => if s.buffer == b then f s else s }

def requireSession (b literal : Text) : Step σ Session := do
  match (← get).session? b with
  | some s => pure s
  | none => throw (.noSession literal)

def dropPending (svc : Service σ) (b : Text) : Step σ Unit := do
  match ((← get).session? b).bind Session.pending with
  | some t =>
      modify fun m => { m with service := svc.cancel t m.service }
      updateSession b fun s => { s with pending := none }
  | none => pure ()

def bumpToken (b : Text) : Step σ Unit := updateSession b fun s => { s with token := s.token + 1 }

def deliver (l : Listener) (items : List Candidate) : Step σ Unit := do
  emit (.delivered l.name items)
  match l.breaksWith with
  | some msg => throw (.crashed msg)
  | none => pure ()

/-- Report a failure for a session: a status message the first time its kind is seen. -/
def report (b : Text) (f : Fault) : Step σ Unit := do
  match (← get).session? b with
  | none => pure ()
  | some s =>
      let k := f.reportKind
      if s.reported.contains k then pure ()
      else
        updateSession b fun s => { s with reported := s.reported ++ [k] }
        emit (.status (statusOf f))

def store (b : Text) (q : Json) (items : List Candidate) : Step σ Unit :=
  updateSession b fun s => { s with cache := (s.cache.put q.display items true).1 }

/-- Close a session: it stops counting, its request is cancelled and its cache emptied. -/
def closeSession (svc : Service σ) (b : Text) : Step σ Unit := do
  updateSession b fun s => { s with closed := true }
  dropPending svc b
  updateSession b fun s => { s with cache := PrefixCache.empty }

def closeBuffer (svc : Service σ) (b : Text) : Step σ Unit := do
  if ((← get).session? b).isSome then
    closeSession svc b
    modify fun m => { m with sessions := m.sessions.filter fun s => s.buffer != b }

/-- Open a buffer: a session it had before is closed, and a fresh one takes its place. -/
def openBuffer (svc : Service σ) (b : Text) : Step σ Unit := do
  closeBuffer svc b
  modify fun m => { m with sessions := m.sessions ++ [Session.fresh b m.opened],
                           opened := m.opened + 1 }

/-- Look a prefix up in the cache only, by its plain text. The lookup takes a new token and
cancels the session's background request. -/
def cached (svc : Service σ) (b literal : Text) (q : Json) :
    Step σ (Option (List Candidate)) := do
  let _ ← requireSession b literal
  bumpToken b
  dropPending svc b
  let s ← requireSession b literal
  let (c, e) := s.cache.get q.display
  updateSession b fun s => { s with cache := c }
  pure (e.map CacheEntry.candidates)

/-- The candidates for a prefix now: from the cache, else from the service, asked with the
buffer as the editor shows it, whose answer is then cached, announced and returned. A failed
query reports the failure and gives no candidates; with completion off there are none
either. `room` is the number of places of the call stack free when it is called; it takes one
for itself. -/
def candidates (svc : Service σ) (room : Nat) (b literal : Text) (q : Json)
    (view : Text × Json) : Step σ (List Candidate) := do
  let _ ← requireSession b literal
  if !(← get).settings.enabled then return []
  match ← cached svc b literal q with
  | some hit => pure hit
  | none =>
      let state ← liftExcept (Session.readView view)
      let m ← get
      let (r, sv) := svc.query (room - 1) state.1 state.2 m.service
      set { m with service := sv }
      match r with
      | .error f =>
          if f.isQueryFailure then
            report b f
            pure []
          else throw f
      | .ok ss =>
          let items := Candidate.ofSuggestions ss
          store b q items
          let s ← requireSession b literal
          emit (.ready s.buffer q s.token items)
          pure items

/-- The candidates for a prefix, handed to a receiver: at once from the cache (or none with
completion off), else later, from a background request whose answer waits in the queue. -/
def candidatesLater (svc : Service σ) (b literal : Text) (q : Json) (l : Listener)
    (view : Text × Json) : Step σ Unit := do
  let _ ← requireSession b literal
  if !(← get).settings.enabled then
    deliver l []
    return
  match ← cached svc b literal q with
  | some hit => deliver l hit
  | none =>
      let s ← requireSession b literal
      let state ← liftExcept (Session.readView view)
      let cap : Capture := ⟨s.buffer, q, s.token, l⟩
      let m ← get
      let (r, sv) := svc.submit state.1 state.2 m.service
      set { m with service := sv }
      match r with
      | .error f =>
          if f.isValueFault then
            report b f
            deliver l []
          else throw f
      | .ok h =>
          modify fun m => { m with captures := m.captures ++ [(h.ticket, cap)] }
          match h.answer with
          | some a => modify fun m => { m with queue := m.queue ++ [⟨cap, a⟩] }
          | none => pure ()
          dropPending svc b
          updateSession b fun s => { s with pending := some h.ticket }

/-- A request: in the background when the settings say so, else now, handed to the
receiver. `room` is the number of places of the call stack free when it is called. -/
def request (svc : Service σ) (room : Nat) (b literal : Text) (q : Json) (l : Listener)
    (view : Text × Json) : Step σ Unit := do
  if (← get).settings.background then candidatesLater svc b literal q l view
  else
    let items ← candidates svc (room - 1) b literal q view
    deliver l items

def answer (t : Nat) (r : Except Fault (List Suggestion)) : Step σ Unit := do
  match ((← get).captures.find? fun c => c.1 == t) with
  | some (_, cap) => modify fun m => { m with queue := m.queue ++ [⟨cap, r⟩] }
  | none => pure ()

def applyAnswer (a : Answer) : Step σ Unit := do
  match (← get).session? a.capture.buffer with
  | none => pure ()
  | some s =>
      if s.closed then return
      match a.result with
      | .error f =>
          if f.isCancellation then return
          let current := s.isCurrent a.capture.token
          report s.buffer f
          if current then
            deliver a.capture.listener []
            emit (.ready s.buffer a.capture.query a.capture.token [])
      | .ok ss =>
          let items := Candidate.ofSuggestions ss
          if s.isCurrent a.capture.token then
            store s.buffer a.capture.query items
            deliver a.capture.listener items
            emit (.ready s.buffer a.capture.query a.capture.token items)
          else if !(← liftExcept (s.cache.holds a.capture.query)) then
            store s.buffer a.capture.query items

/-- Apply answers in order; one that breaks stops only itself. -/
def applyAll : List Answer → Step σ Unit
  | [] => pure ()
  | a :: rest => do
      tryCatch (applyAnswer a) fun _ => pure ()
      applyAll rest

def drain : Step σ Unit := do
  let q := (← get).queue
  modify fun m => { m with queue := [] }
  applyAll q

/-- Take new settings, given as a value. Turning completion off supersedes every session's
latest request. -/
def updateSettings (svc : Service σ) (cfg : Json) : Step σ Settings := do
  let s ← match Settings.normalize cfg with
    | .ok s => pure s
    | .error f => throw f
  modify fun m => { m with settings := s, service := svc.configure s m.service }
  if !s.enabled then
    for x in (← get).sessions do
      bumpToken x.buffer
      dropPending svc x.buffer
  pure s

def shutdown (svc : Service σ) : Step σ Unit := do
  for x in (← get).sessions do
    closeSession svc x.buffer
  modify fun m => { m with sessions := [], service := svc.stop m.service }

end Manager

end PhpCompletion
