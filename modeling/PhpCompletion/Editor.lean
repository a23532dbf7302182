import PhpCompletion.Manager
import PhpCompletion.Text.Alnum
import PhpCompletion.Json.Key

/-!
# An editor around the manager

An editor holds buffers (a text and a cursor each), a completion manager, the completion
backends of some buffers and the handles of candidate lists still to be fetched. It runs
`Command`s, one at a time: each gives a `Reply` (or a failure) and shows the events the manager
recorded and the service calls made while it ran.

A buffer is named by a value. The editor's tables take that value as a key (`KeyTable`), so
`1`, `1.0` and `true` name one buffer of the editor; the manager names a buffer by the plain
text of the value, so `1` and `1.0` are two sessions there, and `"1"` is the session of `1`.

Buffers are kept apart from the table that names them, so that two holders can share one: a
session opened by `openBuffer` reads whatever buffer its key names at the time, while a backend
reads the buffer it was made with, even after another buffer is stored under its key.

A cursor is kept as the value it was given and read as each operation reads it: the manager
reads it as an integer when it asks the service, typing cuts the text at it, which takes only
an integer, a truth value or nothing (the whole text on either side).

The service is `Link`: a scripted one, whose background requests are answered by the
`resolve` and `fail` commands, or one linked to the client, which answers at once.
-/

namespace PhpCompletion

/-- The text and cursor of a buffer. -/
structure Buffer where
  text : Text
  cursor : Json

namespace Buffer

/-- A buffer with a text and a cursor; no cursor (null) means the end of the text. -/
def make (text : Text) (cursor : Json) : Buffer :=
  ⟨text, match cursor with
    | .null => .int text.length
    | c => c⟩

/-- Split a text at a cursor; a negative cursor counts from the end. -/
def splitAt (t : Text) (i : Int) : Text × Text :=
  let j := if i < 0 then (t.length + i).toNat else i.toNat
  (t.take j, t.drop j)

/-- Type characters at the cursor and move the cursor past them. A cursor that is no integer
cuts nothing, so with no cursor the text is put on both sides of the characters, after which
moving the cursor fails; a cursor of any other kind fails before anything changes. -/
def typeAt (b : Buffer) (chars : Text) : Buffer × Option Fault :=
  let typed := fun (n : Int) =>
    let (l, r) := splitAt b.text n
    (⟨l ++ chars ++ r, .int (n + chars.length)⟩, none)
  match b.cursor with
  | .int n => typed n
  | .bool f => typed (if f then 1 else 0)
  | .null => (⟨b.text ++ chars ++ b.text, .null⟩,
      some (.unsupportedOperands "+=" "NoneType" "int"))
  | _ => (b, some .badSliceIndex)

end Buffer

/-- What a session reads its buffer from. -/
inductive View where
  /-- The buffer stored under a key when it is read. -/
  | entry (k : Key)
  /-- One buffer, by its number. -/
  | fixed (i : Nat)

/-- A completion backend: the manager's name of its buffer and the number of the buffer it
shows. -/
structure Backend where
  name : Text
  buffer : Nat

structure Fetch where
  name : Text
  query : Json

/-- An edit that completing a candidate asks of the editor. -/
inductive Edit where
  | importClass (name : Text)
  | insertParens
  deriving DecidableEq, Repr

/-- The service behind an editor's manager. -/
inductive Link where
  | scripted (s : Scripted)
  | linked (l : Linked)

inductive CallTrace where
  /-- A query or request of a scripted service: the source and offset. -/
  | asked (source : Text) (offset : Int)
  /-- A run of the service's executable. -/
  | ran (c : Call)
  deriving DecidableEq, Repr

namespace Link

def calls : Link → List CallTrace
  | .scripted s => s.calls.map fun (src, off) => .asked src off
  | .linked l => l.host.runner.calls.map .ran

def service : Service Link where
  query room src off
    | .scripted s => let (r, s') := Scripted.service.query room src off s; (r, .scripted s')
    | .linked l => let (r, l') := Linked.service.query room src off l; (r, .linked l')
  submit src off
    | .scripted s => let (r, s') := Scripted.service.submit src off s; (r, .scripted s')
    | .linked l => let (r, l') := Linked.service.submit src off l; (r, .linked l')
  cancel t
    | .scripted s => .scripted (Scripted.service.cancel t s)
    | .linked l => .linked (Linked.service.cancel t l)
  configure st
    | .scripted s => .scripted (Scripted.service.configure st s)
    | .linked l => .linked (Linked.service.configure st l)
  stop
    | .scripted s => .scripted (Scripted.service.stop s)
    | .linked l => .linked (Linked.service.stop l)

end Link

/-- A command to the editor. Buffers, prefixes and handles are named by values. -/
inductive Command where
  /-- Open a buffer with a text and a cursor (null for the end of the text). -/
  | openBuffer (b : Json) (text : Text) (cursor : Json)
  | closeBuffer (b : Json)
  /-- Set a buffer's text and cursor; no cursor given means the end of the text. -/
  | setText (b : Json) (text : Text) (cursor : Option Json)
  | type (b : Json) (chars : Text)
  | cached (b : Json) (query : Json)
  | candidates (b : Json) (query : Json)
  | candidatesLater (b : Json) (query : Json) (l : Listener)
  | request (b : Json) (query : Json) (l : Listener)
  | script (answer : Except Fault (List Suggestion))
  | resolve (index : Json) (suggestions : List Suggestion)
  /-- Answer a background request with a failure, or with nothing when none is given. -/
  | fail (index : Json) (f : Option Fault)
  | drain
  | updateSettings (cfg : Json)
  | showSettings
  | putCache (b : Json) (query : Json) (items : List Candidate) (complete : Bool)
  | getCache (b : Json) (query : Json)
  | showSession (b : Json)
  | showPending
  | shutdown
  | metadata (c : Candidate)
  /-- Make a backend over a new buffer with a text and a cursor (null for the end). -/
  | backendNew (b : Json) (text : Text) (cursor : Json)
  | backendInfo (b : Json)
  | backendPrefix (b : Json)
  | backendCandidates (b : Json) (query : Json) (handle : Json)
  | backendFetch (handle : Json) (l : Listener)
  | postCompletion (b : Json) (c : Candidate)
  | detailOf (b : Json) (c : Candidate)
  | summaryOf (b : Json) (c : Candidate)
  | docBuffer (b : Json) (c : Candidate)
  | backendClose (b : Json)

/-- What a command answers. -/
inductive Reply where
  | nothing
  | candidates (items : Option (List Candidate))
  | entry (e : Option CacheEntry)
  | settings (s : Settings)
  | settingsView (s : Settings)
  | session (s : Option Session)
  | pending (cancelled : List Bool)
  | stopped (flag : Option Bool)
  | metadata (detail kind : Text) (target : Option Text)
  | later
  | backendInfo (name : Text)
  | symbol (s : Option Text)
  | edits (es : List Edit)
  | text (t : Text)
  | doc (title body : Text)

/-- An editor: its buffers by number and the table that names them, the manager, backends and
handles of lists to fetch by key, and what each session (by the manager's name) reads. -/
structure Editor where
  store : List Buffer
  buffers : KeyTable Nat
  manager : Manager Link
  backends : KeyTable Backend
  handles : KeyTable Fetch
  views : List (Text × View)

/-- What a command did: its reply or failure, the events recorded and the calls made. -/
structure Outcome where
  reply : Except Fault Reply
  events : List Event
  calls : List CallTrace

namespace Editor

def ofManager (m : Manager Link) : Editor := ⟨[], KeyTable.empty, m, KeyTable.empty, KeyTable.empty, []⟩

def nameOf (b : Json) : Text := b.display

def setView (vs : List (Text × View)) (n : Text) (v : View) : List (Text × View) :=
  if vs.any (fun e => e.1 == n) then vs.map fun e => if e.1 == n then (n, v) else e
  else vs ++ [(n, v)]

def bufferAt (e : Editor) (i : Nat) : Buffer := e.store.getD i ⟨Text.empty, .int 0⟩

def addBuffer (e : Editor) (b : Buffer) : Editor × Nat :=
  ({ e with store := e.store ++ [b] }, e.store.length)

def setBuffer (e : Editor) (i : Nat) (b : Buffer) : Editor := { e with store := e.store.set i b }

def viewOf (e : Editor) (name : Text) : Text × Json :=
  let read := fun (i : Nat) => let b := e.bufferAt i; (b.text, b.cursor)
  match (e.views.find? fun v => v.1 == name).map Prod.snd with
  | some (.entry k) =>
      match e.buffers.find? k with
      | some i => read i
      | none => (Text.empty, .int 0)
  | some (.fixed i) => read i
  | none => (Text.empty, .int 0)

def onManager {α : Type} (e : Editor) (act : Step Link α) : Except Fault α × Editor :=
  match act.run e.manager with
  | .ok a m => (.ok a, { e with manager := m })
  | .error f m => (.error f, { e with manager := m })

def scripted? (e : Editor) : Option Scripted :=
  match e.manager.service with
  | .scripted s => some s
  | .linked _ => none

def setScripted (e : Editor) (s : Scripted) : Editor :=
  { e with manager := { e.manager with service := .scripted s } }

def storeBuffer (e : Editor) (b : Json) (text : Text) (cursor : Json) :
    Except Fault (Editor × Nat × Key) := do
  let k ← b.key?
  let (e, i) := e.addBuffer (Buffer.make text cursor)
  pure ({ e with buffers := e.buffers.insert k i }, i, k)

/-- Open a buffer in the editor and a session for it in the manager that reads whatever
buffer the key names. -/
def openWith (e : Editor) (b : Json) (text : Text) (cursor : Json) :
    Except Fault Reply × Editor :=
  match e.storeBuffer b text cursor with
  | .error f => (.error f, e)
  | .ok (e, _, k) =>
      let e := { e with views := setView e.views (nameOf b) (.entry k) }
      let (r, e) := e.onManager (Manager.openBuffer Link.service (nameOf b))
      (r.map fun _ => .nothing, e)

def newBackend (e : Editor) (b : Json) (text : Text) (cursor : Json) :
    Except Fault Reply × Editor :=
  match e.storeBuffer b text cursor with
  | .error f => (.error f, e)
  | .ok (e, i, k) =>
      let e := { e with views := setView e.views (nameOf b) (.fixed i) }
      let (r, e) := e.onManager (Manager.openBuffer Link.service (nameOf b))
      (r.map fun _ => .nothing, { e with backends := e.backends.insert k ⟨nameOf b, i⟩ })

/-- The edits of completing a candidate: its import, then parentheses for a callable. -/
def editsFor (c : Candidate) : List Edit :=
  (match c.classImport with
    | some t => if t.isEmpty then [] else [.importClass t]
    | none => []) ++ (if c.isCallable then [.insertParens] else [])

/-- The position an index picks among `n` requests: the index modulo `n`, a truth value
counting as `0` or `1`. A number with a fraction gives a number with a fraction, which picks no
position; a text is a template filled with `n`, which fails or gives a text, which picks none
either; other values have no remainder. -/
def pickIndex (index : Json) (n : Nat) : Except Fault Nat :=
  match index with
  | .int i => .ok (i % (n : Int)).toNat
  | .bool f => .ok ((if f then 1 else 0) % n)
  | .float _ => .error (.badListIndex "float")
  | .str t =>
      match Template.fillOne t with
      | .error e => .error (.template e)
      | .ok () => .error (.badListIndex "str")
  | v => .error (.unsupportedOperands "%" v.typeName "int")

def answerScripted (e : Editor) (index : Json) (r : Except Fault (List Suggestion)) :
    Except Fault Reply × Editor :=
  match e.scripted? with
  | some s =>
      if s.requests.isEmpty then (.error .noPending, e)
      else
        match pickIndex index s.requests.length with
        | .error f => (.error f, e)
        | .ok t =>
            let (res, e) := e.onManager (Manager.answer t r)
            (res.map fun _ => .nothing, e)
  | none => (.error (.noAttribute "NoneType" "pending"), e)

def onCache {α : Type} (e : Editor) (b : Json) (f : PrefixCache → PrefixCache × α) :
    Except Fault α × Editor :=
  match e.manager.session? (nameOf b) with
  | none => (.error (.noAttribute "NoneType" "cache"), e)
  | some s =>
      let (c, a) := f s.cache
      let (r, e) := e.onManager (Manager.updateSession (σ := Link) (nameOf b) fun s =>
        { s with cache := c })
      (r.map fun _ => a, e)

def withBackend (e : Editor) (b : Json) (f : Backend → Except Fault Reply × Editor) :
    Except Fault Reply × Editor :=
  match e.backends.get b with
  | .ok be => f be
  | .error x => (.error x, e)

/-- Run one command, with `room` places of the call stack free; the command takes one for
itself, and a backend one more. -/
def exec (e : Editor) (room : Nat) : Command → Except Fault Reply × Editor
  | .openBuffer b text cursor => e.openWith b text cursor
  | .closeBuffer b =>
      let (r, e) := e.onManager (Manager.closeBuffer Link.service (nameOf b))
      (r.map fun _ => .nothing, e)
  | .setText b text cursor =>
      match e.buffers.get b with
      | .error f => (.error f, e)
      | .ok i => (.ok .nothing, e.setBuffer i ⟨text, cursor.getD (.int text.length)⟩)
  | .type b chars =>
      match e.buffers.get b with
      | .error f => (.error f, e)
      | .ok i =>
          let (buf, f) := (e.bufferAt i).typeAt chars
          (match f with
            | some f => .error f
            | none => .ok .nothing, e.setBuffer i buf)
  | .cached b q =>
      let (r, e) := e.onManager (Manager.cached Link.service (nameOf b) b.literal q)
      (r.map .candidates, e)
  | .candidates b q =>
      let (r, e) := e.onManager
        (Manager.candidates Link.service (room - 1) (nameOf b) b.literal q (e.viewOf (nameOf b)))
      (r.map fun xs => .candidates (some xs), e)
  | .candidatesLater b q l =>
      let (r, e) := e.onManager
        (Manager.candidatesLater Link.service (nameOf b) b.literal q l (e.viewOf (nameOf b)))
      (r.map fun _ => .nothing, e)
  | .request b q l =>
      let (r, e) := e.onManager
        (Manager.request Link.service (room - 1) (nameOf b) b.literal q l (e.viewOf (nameOf b)))
      (r.map fun _ => .nothing, e)
  | .script a =>
      match e.scripted? with
      | some s => (.ok .nothing, e.setScripted { s with answer := a })
      | none => (.error (.noAttribute "NoneType" "suggestions"), e)
  | .resolve i ss => e.answerScripted i (.ok ss)
  | .fail i f => e.answerScripted i (match f with
      | some f => .error f
      | none => .ok [])
  | .drain =>
      let (r, e) := e.onManager (Manager.drain (σ := Link))
      (r.map fun _ => .nothing, e)
  | .updateSettings cfg =>
      let (r, e) := e.onManager (Manager.updateSettings Link.service cfg)
      (r.map .settings, e)
  | .showSettings => (.ok (.settingsView e.manager.settings), e)
  | .putCache b q items complete =>
      let (r, e) := e.onCache b fun c => ((c.put q.display items complete).1, ())
      (r.map fun _ => .nothing, e)
  | .getCache b q =>
      let (r, e) := e.onCache b fun c => c.get q.display
      (r.map .entry, e)
  | .showSession b => (.ok (.session (e.manager.session? (nameOf b))), e)
  | .showPending =>
      match e.scripted? with
      | some s => (.ok (.pending (s.requests.map (·.cancelled))), e)
      | none => (.error (.noAttribute "NoneType" "pending"), e)
  | .shutdown =>
      let (r, e) := e.onManager (Manager.shutdown Link.service)
      (r.map fun _ => .stopped (e.scripted?.map fun s => s.stopped), e)
  | .metadata c => (.ok (.metadata c.detail c.kind c.classImport), e)
  | .backendNew b text cursor => e.newBackend b text cursor
  | .backendInfo b => e.withBackend b fun be => (.ok (.backendInfo be.name), e)
  | .backendPrefix b => e.withBackend b fun be =>
      if !e.manager.settings.enabled then (.ok (.symbol none), e)
      else
        let buf := e.bufferAt be.buffer
        match buf.cursor.toInteger with
        | .ok n => (.ok (.symbol (Symbol.atCursor buf.text n)), e)
        | .error f => (.error (.integer f), e)
  | .backendCandidates b q handle => e.withBackend b fun be =>
      let n := be.name
      if !e.manager.settings.background then
        let (r, e) := e.onManager
          (Manager.candidates Link.service (room - 2) n n.quoted q (e.viewOf n))
        (r.map fun xs => .candidates (some xs), e)
      else if !e.manager.settings.enabled then (.ok (.candidates (some [])), e)
      else
        let (r, e) := e.onManager (Manager.cached Link.service n n.quoted q)
        match r with
        | .error f => (.error f, e)
        | .ok (some hit) => (.ok (.candidates (some hit)), e)
        | .ok none =>
            match e.handles.set handle ⟨n, q⟩ with
            | .ok hs => (.ok .later, { e with handles := hs })
            | .error f => (.error f, e)
  | .backendFetch handle l =>
      match e.handles.get handle with
      | .error f => (.error f, e)
      | .ok fe =>
          let (r, e) := e.onManager
            (Manager.candidatesLater Link.service fe.name fe.name.quoted fe.query l
              (e.viewOf fe.name))
          (r.map fun _ => .nothing, e)
  | .postCompletion b c => e.withBackend b fun _ => (.ok (.edits (editsFor c)), e)
  | .detailOf b c | .summaryOf b c => e.withBackend b fun _ => (.ok (.text c.detail), e)
  | .docBuffer b c => e.withBackend b fun _ =>
      (.ok (.doc c.text (Text.join (Text.ofString "\n") c.docLines)), e)
  | .backendClose b => e.withBackend b fun be =>
      let (r, e) := e.onManager (Manager.closeBuffer Link.service be.name)
      (r.map fun _ => .nothing, e)

def step (e : Editor) (room : Nat) (c : Command) : Outcome × Editor :=
  let events0 := e.manager.events.length
  let calls0 := (Link.calls e.manager.service).length
  let (r, e') := e.exec room c
  (⟨r, e'.manager.events.drop events0, (Link.calls e'.manager.service).drop calls0⟩, e')

def runAll (e : Editor) (room : Nat) : List Command → List Outcome
  | [] => []
  | c :: rest => let (o, e') := e.step room c; o :: runAll e' room rest

end Editor

end PhpCompletion
