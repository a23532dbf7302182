import PhpCompletion.Json.Display
import PhpCompletion.Json.Integer
import PhpCompletion.Text.Blank
import PhpCompletion.Disk
import PhpCompletion.Json.Reader

/-!
# Completion settings

The settings of completion: whether it is on, whether candidates are fetched in the background,
the service's executable, its working directory and how long to wait for it. `normalize`
turns any JSON value into settings: a value that is not an object counts as an empty object,
a missing key takes its default, the switches take the truth of their value, the texts are
trimmed (an empty executable falls back to `phpactor`), and the wait is read as an integer of
milliseconds (2000 when it is none) and clamped to 100..30000. Only an infinite wait fails.
-/

namespace PhpCompletion

/-- Settings of completion. -/
structure Settings where
  enabled : Bool
  background : Bool
  executable : Text
  workingDir : Text
  timeoutMs : Int
  deriving DecidableEq, Repr, Inhabited

namespace Settings

def defaultExecutable : Text := Text.ofString "phpactor"

def defaults : Settings := ⟨true, true, defaultExecutable, Text.empty, 2000⟩

/-- The least and greatest wait, in milliseconds. -/
def minTimeout : Int := 100
def maxTimeout : Int := 30000

def keyEnabled : Text := Text.ofString "enabled"
def keyBackground : Text := Text.ofString "request_async"
def keyExecutable : Text := Text.ofString "phpactor_path"
def keyWorkingDir : Text := Text.ofString "working_dir"
def keyTimeout : Text := Text.ofString "timeout_ms"

def toJson (s : Settings) : Json :=
  .obj [(keyEnabled, .bool s.enabled), (keyBackground, .bool s.background),
    (keyExecutable, .str s.executable), (keyWorkingDir, .str s.workingDir),
    (keyTimeout, .int s.timeoutMs)]

/-- An executable as given: trimmed plain text, the default when that is empty. -/
def executableOf (v : Json) : Text :=
  let t := v.displayOrEmpty.trim
  if t.isEmpty then defaultExecutable else t

/-- A wait as given: the integer of the value, 2000 when it has none, clamped. An infinite
value fails. -/
def timeoutOf (v : Json) : Except Fault Int :=
  match v.toInteger with
  | .ok n => .ok (max minTimeout (min maxTimeout n))
  | .error .infinite => .error (.integer .infinite)
  | .error _ => .ok (max minTimeout (min maxTimeout 2000))

/-- The settings a JSON value describes. -/
def normalize (cfg : Json) : Except Fault Settings := do
  let fields := match cfg with
    | .obj fs => fs
    | _ => []
  let field := fun (k : Text) (d : Json) => (Json.lookup fields k).getD d
  let timeout ← timeoutOf (field keyTimeout (.int 2000))
  pure { enabled := (field keyEnabled (.bool true)).truthy
         background := (field keyBackground (.bool true)).truthy
         executable := executableOf (field keyExecutable (.str defaultExecutable))
         workingDir := (field keyWorkingDir (.str Text.empty)).displayOrEmpty.trim
         timeoutMs := timeout }

theorem timeoutOf_bounds (v : Json) (n : Int) (h : timeoutOf v = .ok n) :
    minTimeout ≤ n ∧ n ≤ maxTimeout := by
  unfold timeoutOf at h
  split at h
  · cases h; simp only [minTimeout, maxTimeout]; omega
  · cases h
  · cases h; simp only [minTimeout, maxTimeout]; omega

end Settings

/-! ## The settings file

Settings are read from the `completion` object of a JSON settings file; the file may hold
other settings, which are ignored. A missing file gives the defaults and no complaint. A file
that cannot be read, is not UTF-8 or not JSON, whose root is not an object, or whose
`completion` is not an object, gives the defaults and a complaint that says why. An infinite
wait in the section, a path name too long for the system and a file nested too deep to be read
fail the reading. A path without a byte form names no file.
-/

/-- What reading the settings file gives. -/
structure SettingsFile where
  /-- The section as read: empty unless it was an object. -/
  completion : List (Text × Json)
  /-- Why the file was not used, if it was not. -/
  complaint : Option Text
  /-- The settings of the section. -/
  settings : Settings

namespace SettingsFile

/-- The section and complaint of the file at a path, read with `room` places of the call stack
free; reading takes one for itself. A name too long for the system, and a file nested too deep
for the room left, fail the reading. -/
def sectionAt (room : Nat) (d : Disk) (p : Text) :
    Except Fault (List (Text × Json) × Option Text) := do
  let shown := Disk.normal p
  if !(← d.exists? p) then return ([], none)
  match d.readText p with
  | .error (.unopened e) => pure ([], some (e.message shown))
  | .error (.undecodable e) => pure ([], some e.message)
  | .error (.unnamable f) => throw f.toFault
  | .ok text =>
      match Json.read (room - 1) text with
      | .error (.tooDeep c) => throw (.tooDeep c)
      | .error e => pure ([], some (Text.ofString (e.message text)))
      | .ok (.obj fields) =>
          match Json.lookup fields (Text.ofString "completion") with
          | none => pure ([], none)
          | some (.obj sec) => pure (sec, none)
          | some _ => pure ([], some (Text.ofString "'completion' in '" ++ shown ++
              Text.ofString "' must be a JSON object."))
      | .ok v => pure ([], some (Text.ofString "Settings root in '" ++ shown ++
          Text.ofString ("' must be a JSON object, found " ++ v.typeName ++ ".")))

def load (room : Nat) (d : Disk) (p : Text) : Except Fault SettingsFile := do
  let (sec, complaint) ← sectionAt room d p
  let s ← Settings.normalize (.obj sec)
  pure ⟨sec, complaint, s⟩

end SettingsFile

end PhpCompletion
