import PhpCompletion.Envelope
import PhpCompletion.Settings
import PhpCompletion.Disk
import PhpCompletion.Candidate
import PhpCompletion.Decimal.Nearest
import PhpCompletion.Text.Alnum

/-!
# The completion client

The client asks the completion service for suggestions by running its executable once per
request: `EXECUTABLE rpc --working-dir=DIR`, the request on standard input and the reply on
standard output. The directory is the configured working directory when it is one, else the
current directory. A run that outlasts the timeout, an executable that does not start, and a
nonzero exit with a blank reply are failures of the service; any other reply is read as an
envelope whose value must hold a `suggestions` list.

Runs are taken from a `Runner`, which answers each run with the next scripted outcome, and the
working directory's tree is a `Disk`; together they are the client's `Host`. The system hands
the executable over as bytes, as it does a path (`Disk.check`): an executable with a NUL or a
surrogate without a byte form is refused before anything starts, and the query fails with that
value failure. A runner that stands in for the system in a test may take any executable.

The editor counts a cursor offset in code points, the service in bytes of UTF-8. `utf8Units`
converts: the byte length of the text before the offset (clamped to the text), where a lone
surrogate counts three bytes. An offset given as a value is first read as an integer; an offset
outside the text is refused before any request is made.
-/

namespace PhpCompletion

namespace Offset

def utf8Before (t : Text) (i : Int) : Nat := (t.take (Symbol.clampOffset i t.length)).utf8Length

/-- The UTF-8 length before an offset given as a value; an empty text gives zero whatever
the offset. -/
def utf8Units (t : Text) (index : Json) : Except Fault Nat :=
  if t.isEmpty then .ok 0
  else match index.toInteger with
    | .ok i => .ok (utf8Before t i)
    | .error e => .error (.integer e)

def check (t : Text) (offset : Json) : Except Fault Nat :=
  match offset.toInteger with
  | .error e => .error (.integer e)
  | .ok i => if i < 0 ∨ (t.length : Int) < i then .error (.offsetOutside i t.length)
      else .ok i.toNat

end Offset

/-- What one run of the service's executable came to. -/
inductive RunOutcome where
  /-- The process ended with an exit code and what it wrote. -/
  | exited (code : Int) (stdout : Text) (stderr : Text)
  /-- The process outlasted the timeout. -/
  | timedOut
  /-- The executable could not be started. -/
  | notStarted
  /-- The executable has no byte form, so nothing was started. -/
  | refused (f : PathFault)
  deriving DecidableEq, Repr

/-- One run of the service's executable, as it was started. -/
structure Call where
  executable : Text
  /-- The directory it ran in: the working directory, or `none` for the current one. -/
  directory : Option Text
  timeout : Binary64
  input : Text
  deriving DecidableEq, Repr

namespace Call

def command (c : Call) (here : Text) : List Text :=
  [c.executable, Text.ofString "rpc", Text.ofString "--working-dir=" ++ c.directory.getD here]

end Call

/-- Scripted runs: the outcomes in the order runs are made, the outcome once they are used up,
the runs asked for so far, and whether an executable is first checked for a byte form, as the
system checks it. -/
structure Runner where
  outcomes : List RunOutcome
  fallback : RunOutcome
  calls : List Call
  checksArguments : Bool

namespace Runner

def takes (r : Runner) (executable : Text) : Except PathFault Unit :=
  if r.checksArguments then Disk.check executable else .ok ()

/-- Ask for a run: record it; refuse it if the runner does not take its executable, else take
the next outcome. -/
def run (r : Runner) (c : Call) : RunOutcome × Runner :=
  let asked := { r with calls := r.calls ++ [c] }
  match r.takes c.executable with
  | .error f => (.refused f, asked)
  | .ok () =>
      match r.outcomes with
      | o :: rest => (o, { asked with outcomes := rest })
      | [] => (r.fallback, asked)

theorem calls_run (r : Runner) (c : Call) : (r.run c).2.calls = r.calls ++ [c] := by
  unfold run
  split
  · rfl
  · split <;> rfl

theorem run_of_refused {r : Runner} {c : Call} {f : PathFault}
    (hf : r.takes c.executable = .error f) :
    r.run c = (.refused f, { r with calls := r.calls ++ [c] }) := by
  simp [run, hf]

/-- A checking runner refuses exactly the executables without a byte form. -/
theorem takes_eq_error_iff {r : Runner} {executable : Text} {f : PathFault} :
    r.takes executable = .error f ↔
      r.checksArguments = true ∧ Disk.check executable = .error f := by
  unfold takes
  cases r.checksArguments <;> simp

end Runner

/-- What the client works in: the directory tree and the runner of its processes. -/
structure Host where
  disk : Disk
  runner : Runner

namespace ServiceFault

def timedOut (seconds : Binary64) : ServiceFault :=
  .unavailable (.str (Text.ofString "timeout"))
    (Text.ofString ("phpactor did not answer within " ++ Decimal.fixed 1 seconds ++ "s."))

def notInstalled (executable : Text) : ServiceFault :=
  .unavailable (.str (Text.ofString "not_installed"))
    (Text.ofString "Could not start phpactor (" ++ executable ++ Text.ofString ").")

def exited (code : Int) (detail : Text) : ServiceFault :=
  .unavailable (.str (Text.ofString "process_failed"))
    (Text.ofString ("phpactor exited with status " ++ toString code ++ ": ") ++ detail)

def workerStopped : ServiceFault :=
  .unavailable (.str (Text.ofString "process_failed")) (Text.ofString
    "Completion worker is not running: cannot schedule new futures after shutdown")

def noSuggestions : ServiceFault :=
  .malformed (Text.ofString "Response value has no 'suggestions' list.")

end ServiceFault

/-- A client of the completion service. -/
structure Client where
  executable : Text
  workingDir : Text
  /-- How long a run may take, in seconds. -/
  timeout : Binary64
  /-- How many requests run in the background at once. -/
  workers : Nat
  /-- Whether background requests are still taken. -/
  accepting : Bool
  deriving DecidableEq, Repr

namespace Client

def minSeconds : Binary64 := ⟨0x3FB999999999999A⟩

def secondsOf (ms : Int) : Except Fault Binary64 :=
  match Decimal.ofInt? ms with
  | none => .error .tooLargeForFloat
  | some x =>
      let q := Decimal.quotient x 1000
      .ok (if minSeconds.lt q then q else minSeconds)

def timeoutOf (v : Json) : Except Fault Binary64 :=
  match v.toInteger with
  | .ok ms => secondsOf ms
  | .error e => .error (.integer e)

/-- A client from its parts, each given as a value: the executable (trimmed, `phpactor` when
empty), the working directory (trimmed), the timeout in milliseconds and the number of
background workers (at least one). -/
def create (executable workingDir timeoutMs workers : Json) : Except Fault Client := do
  let t ← timeoutOf timeoutMs
  let w ← match workers.toInteger with
    | .ok n => pure (max 1 n).toNat
    | .error e => throw (.integer e)
  pure ⟨Settings.executableOf executable, workingDir.displayOrEmpty.trim, t, w, true⟩

/-- The client with new settings, given as an object: a missing executable falls back to
`phpactor`, a missing or false timeout to 2000 milliseconds. -/
def configure (c : Client) (cfg : Json) : Except Fault Client :=
  match cfg with
  | .obj fields => do
      let get := fun (k : Text) => (Json.lookup fields k).getD .null
      let t ← timeoutOf (Json.orElse (get Settings.keyTimeout) (.int 2000))
      pure { c with executable := Settings.executableOf (get Settings.keyExecutable)
                    workingDir := (get Settings.keyWorkingDir).displayOrEmpty.trim
                    timeout := t }
  | v => .error (.noAttribute v.typeName "get")

def applySettings (c : Client) (s : Settings) : Client :=
  match c.configure s.toJson with
  | .ok c' => c'
  | .error _ => c

def ofSettings (s : Settings) : Client :=
  match create (.str s.executable) (.str s.workingDir) (.int s.timeoutMs) (.int 2) with
  | .ok c => c
  | .error _ => ⟨s.executable, s.workingDir, minSeconds, 2, true⟩

def stop (c : Client) : Client := { c with accepting := false }

def callFor (c : Client) (h : Host) (input : Text) : Call :=
  let dir := if !c.workingDir.isEmpty && h.disk.isDir c.workingDir then some c.workingDir
    else none
  ⟨c.executable, dir, c.timeout, input⟩

def replyOf (c : Client) : RunOutcome → Except Fault Text
  | .timedOut => .error (.service (.timedOut c.timeout))
  | .notStarted => .error (.service (.notInstalled c.executable))
  | .refused f => .error f.toFault
  | .exited code out err =>
      if code ≠ 0 ∧ out.trim.isEmpty then
        .error (.service
          (.exited code ((err.trim.lines.getLast?).getD (Text.ofString "no output"))))
      else .ok out

def run (c : Client) (h : Host) (input : Text) : Except Fault Text × Host :=
  let (o, r) := h.runner.run (c.callFor h input)
  (c.replyOf o, { h with runner := r })

def request (source : Text) (offset : Nat) : Text :=
  Envelope.encode (.str (Text.ofString "complete"))
    (.obj [(Text.ofString "source", .str source),
      (Text.ofString "offset", .int (Offset.utf8Before source offset))])

def suggestionsOf (room : Nat) (reply : Text) : Except Fault (List Suggestion) := do
  let value ← Envelope.decode room reply
  match Json.lookup value (Text.ofString "suggestions") with
  | some (.arr items) => pure (Suggestion.ofItems items)
  | _ => throw (.service .noSuggestions)

/-- Ask for the suggestions at an offset of a source text, with `room` places of the call
stack free; the query takes one for itself. An offset outside the text fails before any run. -/
def query (c : Client) (room : Nat) (h : Host) (source : Text) (offset : Json) :
    Except Fault (List Suggestion) × Host :=
  match Offset.check source offset with
  | .error f => (.error f, h)
  | .ok n =>
      let (reply, h') := c.run h (request source n)
      match reply with
      | .error f => (.error f, h')
      | .ok out =>
          (suggestionsOf (room - 1) out, h')

/-- The places of the call stack free when a background worker runs a request: a worker's
thread starts with the whole stack, and the worker's own calls take six places. -/
def workerRoom : Nat := Json.stackLimit - 6

/-- How a background request ended: what its receiver was given, and whether the request
counts as failed. -/
structure Delivery where
  result : Except Fault (List Suggestion)
  failed : Bool

/-- A background request: the offset is checked at once (a bad one fails the call itself);
a stopped client answers at once with a failure; otherwise the request runs and its receiver is
given the outcome. The request runs on a worker, with the worker's room on the call stack. -/
def queryLater (c : Client) (h : Host) (source : Text) (offset : Json) :
    Except Fault Delivery × Host :=
  match Offset.check source offset with
  | .error f => (.error f, h)
  | .ok _ =>
      if !c.accepting then (.ok ⟨.error (.service .workerStopped), true⟩, h)
      else
        let (r, h') := c.query workerRoom h source offset
        (.ok ⟨r, match r with | .ok _ => false | .error _ => true⟩, h')

end Client

end PhpCompletion
