import PhpCompletion.Manager
import PhpCompletion.Settings
import PhpCompletion.Text.Alnum

/-!
# The command-line program

`FILE OFFSET [--prefix TEXT] [--settings PATH] [--verbose]` prints the candidates at a cursor
offset of a source file, one line each: the text, the kind and the detail, separated by
tabs. The prefix is the one given, else the symbol at the cursor. Completion runs in the
foreground; a failure of the service shows as a status line on the error stream, and then no
candidates are printed.

Exit codes: 2 for a bad command line or an offset outside the file, 1 for a file that cannot
be opened, 0 otherwise. A source file that is not UTF-8 or whose path has no byte form, a home
directory that is not known, a settings path too long for the system, a reply or settings file
nested too deep and an infinite wait in the settings file end the program with that failure
instead.

The command line is scanned left to right: `-v` and `--verbose` set verbose output, `--prefix`
and `--settings` take the next argument whatever it is (a later one wins), and every other
argument is positional. An option that takes a value but comes last is refused.
-/

namespace PhpCompletion

/-- The arguments of a command line, sorted. -/
structure Arguments where
  positional : List Text
  completionPrefix : Option Text
  settingsPath : Option Text
  verbose : Bool
  deriving DecidableEq, Repr

namespace Arguments

def none : Arguments := ⟨[], Option.none, Option.none, false⟩

/-- Scan arguments into `acc`; the positional ones are gathered in reverse. -/
def scan : List Text → Arguments → Except Fault Arguments
  | [], acc => .ok { acc with positional := acc.positional.reverse }
  | a :: rest, acc =>
      if a = Text.ofString "-v" ∨ a = Text.ofString "--verbose" then
        scan rest { acc with verbose := true }
      else if a = Text.ofString "--prefix" then
        match rest with
        | v :: more => scan more { acc with completionPrefix := some v }
        | [] => .error (.missingValue a)
      else if a = Text.ofString "--settings" then
        match rest with
        | v :: more => scan more { acc with settingsPath := some v }
        | [] => .error (.missingValue a)
      else scan rest { acc with positional := a :: acc.positional }

def ofList (argv : List Text) : Except Fault Arguments := scan argv none

/-- The file and the offset text: exactly two positional arguments. -/
def fileAndOffset (a : Arguments) : Except Fault (Text × Text) :=
  match a.positional with
  | [f, o] => .ok (f, o)
  | [] => .error (.tooFewArguments 0)
  | [_] => .error (.tooFewArguments 1)
  | _ => .error .tooManyArguments

end Arguments


namespace Program

def usage : Text :=
  Text.ofString "usage: main.py FILE OFFSET [--prefix TEXT] [--settings PATH] [--verbose]"

def tag : Text := Text.ofString "[phpactor-complete] "

/-- How a run of the program ended, with what it wrote and the runs of the service it made. -/
structure Run where
  exit : Except Fault Nat
  out : Text
  err : Text
  host : Host

def line (t : Text) : Text := t ++ Text.ofString "\n"

def candidateLine (c : Candidate) : Text :=
  line (c.text ++ Text.ofString "\t" ++ c.kind ++ Text.ofString "\t" ++ c.detail)

def parse (argv : List Text) : Except Fault (Arguments × Text × Int) := do
  let a ← Arguments.ofList argv
  let (file, offText) ← a.fileAndOffset
  match offText.toInteger with
  | .ok n => pure (a, file, n)
  | .error e => throw (.integer e)

/-- The settings a settings path gives, and the complaint to print, read with `room` places of
the call stack free; it takes one for itself. A leading `~` names the home directory. -/
def settingsFrom (room : Nat) (d : Disk) : Option Text → Except Fault (Json × Option Text)
  | none => .ok (.obj [], none)
  | some p =>
      if p.isEmpty then .ok (.obj [], none)
      else do
        let f ← SettingsFile.load (room - 1) d (← Disk.expandHome p)
        pure (f.settings.toJson, f.complaint)

def foreground (cfg : Json) : Json :=
  match cfg with
  | .obj fs => .obj (Json.setField fs Settings.keyBackground (.bool false))
  | v => v

/-- The completion step: the source is opened as a buffer under its file name, the candidates
for a prefix at the cursor are asked for at once, with `room` places of the call stack free, and
the manager is shut down. -/
def complete (room : Nat) (file q source : Text) (offset : Int) : Step Linked (List Candidate) := do
  Manager.openBuffer Linked.service file
  let items ← Manager.candidates Linked.service room file file.quoted (.str q) (source, .int offset)
  Manager.shutdown Linked.service
  pure items

/-- Run the program on a command line in a host, with `room` places of the call stack free;
the program takes one for itself. -/
def run (room : Nat) (argv : List Text) (h : Host) : Run :=
  match parse argv with
  | .error f => ⟨.ok 2, Text.empty, line (usage ++ Text.ofString "\n" ++ f.message), h⟩
  | .ok (args, file, offset) =>
      match h.disk.readText file with
      | .error (.unopened e) =>
          ⟨.ok 1, Text.empty, line (Text.ofString "Cannot read " ++ file ++ Text.ofString ": " ++
            e.message (Disk.normal file)), h⟩
      | .error (.undecodable e) => ⟨.error (.undecodable e), Text.empty, Text.empty, h⟩
      | .error (.unnamable f) => ⟨.error f.toFault, Text.empty, Text.empty, h⟩
      | .ok source =>
          if offset < 0 ∨ (source.length : Int) < offset then
            ⟨.ok 2, Text.empty, line (Text.ofString ("Offset " ++ toString offset ++ " is outside ")
              ++ file ++ Text.ofString (" (length " ++ toString source.length ++ ").")), h⟩
          else
            match settingsFrom (room - 1) h.disk args.settingsPath with
            | .error f => ⟨.error f, Text.empty, Text.empty, h⟩
            | .ok (cfg, complaint) =>
                let err0 := match complaint with
                  | some c => line (tag ++ Text.ofString "Ignoring settings file: " ++ c)
                  | none => Text.empty
                let cfg := foreground cfg
                let settings := (Settings.normalize cfg).toOption.getD Settings.defaults
                let svc : Linked := ⟨Client.ofSettings settings, h, 0⟩
                match Manager.create cfg svc with
                | .error f => ⟨.error f, Text.empty, err0, h⟩
                | .ok m =>
                    let q := args.completionPrefix.getD
                      ((Symbol.atCursor source offset).getD Text.empty)
                    let (res, m') := match (complete (room - 1) file q source offset).run m with
                      | .ok items m' => (Except.ok items, m')
                      | .error f m' => (Except.error f, m')
                    let statuses := m'.events.filterMap fun
                      | .status t => some (line (tag ++ t))
                      | _ => none
                    let err := statuses.foldl (· ++ ·) err0
                    match res with
                    | .ok items =>
                        ⟨.ok 0, (items.map candidateLine).foldl (· ++ ·) Text.empty, err,
                          m'.service.host⟩
                    | .error f => ⟨.error f, Text.empty, err, m'.service.host⟩

end Program

end PhpCompletion
