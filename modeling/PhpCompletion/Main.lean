import PhpCompletion.Program

/-!
# The executable

The outer layer of the command-line program: it reads the command line and the two files it
may name (the source file and the settings file) into a `Disk`, runs `Program.run` on them and
writes what the program printed. A file that cannot be read is left out of the disk, so the
program reports it as missing.

The service's executable is not started from here: every run of it counts as one that did not
start, so completion is reported unavailable and no candidates are printed. An executable
without a byte form is refused first, as the system refuses it.
-/

namespace PhpCompletion

namespace Executable

/-- A text as a string. Texts here come from the command line, so every code point is a
character; `Char.ofNat` would turn a surrogate into NUL. -/
def asString (t : Text) : String := String.ofList (t.points.map Char.ofNat)

def bytesOf (t : Text) : ByteArray := ⟨(Text.encodeUtf8 t).toArray.map Nat.toUInt8⟩

def namedFiles (argv : List Text) : List Text :=
  match Arguments.ofList argv with
  | .ok a =>
      (match a.fileAndOffset with
        | .ok (file, _) => [file]
        | .error _ => []) ++ a.settingsPath.toList
  | .error _ => []

def addFile (d : Disk) (path : Text) : IO Disk := do
  try
    let bs ← IO.FS.readBinFile (asString path)
    pure (d.withFile path (bs.toList.map UInt8.toNat))
  catch _ =>
    pure d

def diskFor (argv : List Text) : IO Disk :=
  (namedFiles argv).foldlM addFile Disk.empty

/-- The runner of this executable: no run of the service starts. -/
def runner : Runner := ⟨[], .notStarted, [], true⟩

/-- The places of the call stack free when the program runs: the program's start takes two. -/
def room : Nat := Json.stackLimit - 2

end Executable

end PhpCompletion

open PhpCompletion in
/-- Run the program on the command line and write its output; a failure it ends with is
written last, with its type, and exits with status 1. -/
def main (args : List String) : IO UInt32 := do
  let argv := args.map Text.ofString
  let disk ← Executable.diskFor argv
  let r := Program.run Executable.room argv ⟨disk, Executable.runner⟩
  let out ← IO.getStdout
  let err ← IO.getStderr
  out.write (Executable.bytesOf r.out)
  out.flush
  err.write (Executable.bytesOf r.err)
  match r.exit with
  | .ok code => pure code.toUInt32
  | .error f =>
      err.write (Executable.bytesOf (Text.ofString (f.typeName ++ ": ") ++ f.message ++
        Text.ofString "\n"))
      pure 1
