import PhpCompletion.Text.Utf8
import PhpCompletion.Text.Printable
import PhpCompletion.Fault

/-!
# Files and paths

The files the program may read: a tree of files (byte contents) and directories under the
working directory, inside the system's tree.

A path is found the way the system finds it: from the root for a path that starts with `/`,
else from the working directory, one part after another. Empty parts and `.` stay where they
are, `..` goes up (the root is its own parent), and any other name is looked up in the
directory reached so far; a file ends the walk, so a part after a file fails, even `..`. A link
leads on to its directory, and a `..` after it goes up from there. A name longer than 255 bytes
is refused by a directory of a stored tree, while the views of processes and of the kernel
under `/proc` and `/sys` look it up and find nothing; a path of 4096 bytes or more is refused
before any walk. Before that, a path must
have a byte form: surrogates from `0xDC80` to `0xDCFF` stand for single bytes, any other
surrogate has none, and a NUL is refused.

The working directory is a directory of `/tmp` under a name no path can know. Of the rest of the
system's tree the usual directories are known (`systemDirs`), two files, the empty `/dev/null`
and the accounts file `/etc/passwd`, and three links (`systemLinks`): the process's own working
directory `/proc/self/cwd`, its root `/proc/self/root`, and `/dev/fd` to the directory of its
open files. The home directory is `/root`, and the accounts file names the homes of the other
users.

Paths handed over as path objects are first put in normal form: repeated `/`, `.` parts and a
trailing `/` dropped, exactly two leading slashes kept, `.` for an empty path.

Files are read as text in UTF-8, with every carriage return (alone or before a line feed) read
as a line feed.
-/

namespace PhpCompletion

/-- What a path names. -/
inductive Node where
  | file (bytes : List Nat)
  | dir
  deriving DecidableEq, Repr

/-- A directory a walk along a path has reached. -/
inductive Place where
  /-- A directory of the system's tree, by its parts from the root. -/
  | system (parts : List Text)
  /-- A directory under the working directory, by its parts from there. -/
  | work (parts : List Text)
  deriving DecidableEq, Repr

def Place.parent : Place → Place
  | .work [] => .system [Text.ofString "tmp"]
  | .work ps => .work ps.dropLast
  | .system ps => .system ps.dropLast

/-- Whether a directory refuses a name that is too long: the views under `/proc` and `/sys`
do not, they find nothing under it. -/
def Place.checksNames : Place → Bool
  | .system (first :: _) => first != Text.ofString "proc" && first != Text.ofString "sys"
  | _ => true

/-- Why a path cannot be handed to the system at all. -/
inductive PathFault where
  /-- The path holds a NUL. -/
  | nullByte
  /-- The path holds surrogates without a byte form: from `start` to before `stop`, the
  first of them `first`. -/
  | unencodable (first start stop : Nat)
  deriving DecidableEq, Repr

def PathFault.toFault : PathFault → Fault
  | .nullByte => .refused (Text.ofString "embedded null byte")
  | .unencodable c a b => .unencodable c a b

@[simp] theorem PathFault.isQueryFailure_toFault (f : PathFault) :
    f.toFault.isQueryFailure = true := by
  cases f <;> rfl

/-- The files and directories under the working directory, by their parts from there. -/
structure Disk where
  entries : List (List Text × Node)
  deriving Inhabited

namespace Disk

def split (p : Text) : List Text :=
  let rec go : List Nat → List Nat → List Text
    | [], cur => [⟨cur.reverse⟩]
    | 47 :: rest, cur => ⟨cur.reverse⟩ :: go rest []
    | c :: rest, cur => go rest (c :: cur)
  go p.points []

def parts (p : Text) : List Text :=
  (split p).filter fun t => !t.isEmpty && t != Text.ofString "."

def rootOf (p : Text) : Text :=
  match p.points with
  | 47 :: 47 :: 47 :: _ => Text.ofString "/"
  | 47 :: 47 :: _ => Text.ofString "//"
  | 47 :: _ => Text.ofString "/"
  | _ => Text.empty

/-- The normal form of a path: its root, then its parts joined by `/`; `.` for an empty
relative path. -/
def normal (p : Text) : Text :=
  let root := rootOf p
  let body := Text.join (Text.ofString "/") (parts p)
  if root.isEmpty && body.isEmpty then Text.ofString "." else root ++ body

def isSurrogate (c : Nat) : Bool := 0xD800 ≤ c && c ≤ 0xDFFF

def isByteEscape (c : Nat) : Bool := 0xDC80 ≤ c && c ≤ 0xDCFF

def pointWidth (c : Nat) : Nat := if isByteEscape c then 1 else Text.utf8Width c

def byteLength (t : Text) : Nat := t.points.foldr (fun c n => pointWidth c + n) 0

/-- The first run of surrogates, from offset `i` on, that holds one without a byte form: the
fault names that surrogate, where it stands and where the run ends. -/
def unencodable? : List Nat → Nat → Option PathFault
  | [], _ => none
  | c :: rest, i =>
      let run := (c :: rest).takeWhile isSurrogate
      let escapes := (run.takeWhile isByteEscape).length
      if escapes < run.length then
        some (.unencodable (run.getD escapes 0) (i + escapes) (i + run.length))
      else unencodable? rest (i + 1)

/-- Whether a path has a byte form without a NUL. -/
def check (p : Text) : Except PathFault Unit :=
  match unencodable? p.points 0 with
  | some f => .error f
  | none => if p.points.contains 0 then .error .nullByte else .ok ()

def nameMax : Nat := 255

def pathMax : Nat := 4096

def systemDirs : List (List String) :=
  [["bin"], ["boot"], ["dev"], ["dev", "pts"], ["dev", "shm"], ["etc"], ["home"], ["lib"],
    ["lib64"], ["media"], ["mnt"], ["opt"], ["proc"], ["proc", "bus"], ["proc", "driver"],
    ["proc", "fs"], ["proc", "irq"], ["proc", "self"], ["proc", "self", "attr"],
    ["proc", "self", "fd"], ["proc", "self", "fdinfo"], ["proc", "self", "net"],
    ["proc", "self", "ns"], ["proc", "self", "task"], ["proc", "sys"], ["proc", "sys", "fs"],
    ["proc", "sys", "kernel"], ["proc", "sys", "net"], ["proc", "sys", "vm"], ["proc", "tty"],
    ["root"], ["run"], ["sbin"], ["srv"], ["sys"], ["sys", "block"], ["sys", "bus"],
    ["sys", "class"], ["sys", "dev"], ["sys", "devices"], ["sys", "firmware"], ["sys", "fs"],
    ["sys", "kernel"], ["sys", "module"], ["sys", "power"], ["tmp"], ["usr"], ["usr", "bin"], ["usr", "games"],
    ["usr", "include"], ["usr", "lib"], ["usr", "libexec"], ["usr", "local"],
    ["usr", "local", "bin"], ["usr", "local", "etc"], ["usr", "local", "games"],
    ["usr", "local", "include"], ["usr", "local", "lib"], ["usr", "local", "man"],
    ["usr", "local", "sbin"], ["usr", "local", "share"], ["usr", "local", "src"], ["usr", "sbin"],
    ["usr", "share"], ["usr", "src"], ["var"], ["var", "backups"], ["var", "cache"],
    ["var", "lib"], ["var", "local"], ["var", "lock"], ["var", "log"], ["var", "mail"],
    ["var", "opt"], ["var", "run"], ["var", "spool"], ["var", "tmp"]]

def accounts : String :=
  "root:x:0:0:root:/root:/bin/bash\n" ++
  "daemon:x:1:1:daemon:/usr/sbin:/usr/sbin/nologin\n" ++
  "bin:x:2:2:bin:/bin:/usr/sbin/nologin\n" ++
  "sys:x:3:3:sys:/dev:/usr/sbin/nologin\n" ++
  "sync:x:4:65534:sync:/bin:/bin/sync\n" ++
  "games:x:5:60:games:/usr/games:/usr/sbin/nologin\n" ++
  "man:x:6:12:man:/var/cache/man:/usr/sbin/nologin\n" ++
  "lp:x:7:7:lp:/var/spool/lpd:/usr/sbin/nologin\n" ++
  "mail:x:8:8:mail:/var/mail:/usr/sbin/nologin\n" ++
  "news:x:9:9:news:/var/spool/news:/usr/sbin/nologin\n" ++
  "uucp:x:10:10:uucp:/var/spool/uucp:/usr/sbin/nologin\n" ++
  "proxy:x:13:13:proxy:/bin:/usr/sbin/nologin\n" ++
  "www-data:x:33:33:www-data:/var/www:/usr/sbin/nologin\n" ++
  "backup:x:34:34:backup:/var/backups:/usr/sbin/nologin\n" ++
  "list:x:38:38:Mailing List Manager:/var/list:/usr/sbin/nologin\n" ++
  "irc:x:39:39:ircd:/run/ircd:/usr/sbin/nologin\n" ++
  "_apt:x:42:65534::/nonexistent:/usr/sbin/nologin\n" ++
  "nobody:x:65534:65534:nobody:/nonexistent:/usr/sbin/nologin\n"

def systemFiles : List (List String × String) :=
  [(["dev", "null"], ""), (["etc", "passwd"], accounts)]

def systemLinks : List (List String × Place) :=
  [(["proc", "self", "cwd"], .work []), (["proc", "self", "root"], .system []),
    (["dev", "fd"], .system (["proc", "self", "fd"].map Text.ofString))]

def home : Text := Text.ofString "/root"

def named (q : List Text) (names : List String) : Bool := q == names.map Text.ofString

def child (d : Disk) : Place → Text → Option (Place ⊕ List Nat)
  | .work ps, n =>
      let q := ps ++ [n]
      match d.entries.find? (fun e => e.1 = q) with
      | some (_, .file bs) => some (.inr bs)
      | some (_, .dir) => some (.inl (.work q))
      | none => if d.entries.any (fun e => q.isPrefixOf e.1) then some (.inl (.work q)) else none
  | .system ps, n =>
      let q := ps ++ [n]
      match systemLinks.find? (fun l => named q l.1) with
      | some (_, pl) => some (.inl pl)
      | none =>
          match systemFiles.find? (fun f => named q f.1) with
          | some (_, text) => some (.inr (Text.encodeUtf8 (Text.ofString text)))
          | none => if systemDirs.any (named q) then some (.inl (.system q)) else none

def walk (d : Disk) : Place → List Text → Except OsError Node
  | _, [] => .ok .dir
  | pl, n :: rest =>
      if n.isEmpty || n = Text.ofString "." then walk d pl rest
      else if n = Text.ofString ".." then walk d pl.parent rest
      else if pl.checksNames && nameMax < byteLength n then .error .nameTooLong
      else match d.child pl n with
        | none => .error .notFound
        | some (.inl pl') => walk d pl' rest
        | some (.inr bs) => if rest.isEmpty then .ok (.file bs) else .error .notDirectory

/-- What a path names, found as the system finds it; a path without a byte form is not handed
over. -/
def find (d : Disk) (p : Text) : Except PathFault (Except OsError Node) := do
  check p
  if p.isEmpty then return .error .notFound
  if pathMax ≤ byteLength p then return .error .nameTooLong
  let start := if p.points.head? = some 47 then Place.system [] else .work []
  return d.walk start (split p)

def isDir (d : Disk) (p : Text) : Bool :=
  match d.find p with
  | .ok (.ok .dir) => true
  | _ => false

/-- Whether a path, in normal form, names anything. A path without a byte form, a missing
part and a file met on the way mean it names nothing; a name too long fails. -/
def exists? (d : Disk) (p : Text) : Except Fault Bool :=
  let q := normal p
  match d.find q with
  | .error _ => .ok false
  | .ok (.ok _) => .ok true
  | .ok (.error .nameTooLong) => .error (.system .nameTooLong q)
  | .ok (.error _) => .ok false

/-- Why a file cannot be read as text. -/
inductive ReadFault where
  /-- The system refused the path. -/
  | unopened (e : OsError)
  /-- The file is not UTF-8. -/
  | undecodable (e : Text.Utf8Error)
  /-- The path has no byte form. -/
  | unnamable (e : PathFault)
  deriving DecidableEq, Repr

/-- The text of the file at a path in normal form, read as UTF-8 with line ends made line
feeds. -/
def readText (d : Disk) (p : Text) : Except ReadFault Text :=
  match d.find (normal p) with
  | .error f => .error (.unnamable f)
  | .ok (.error e) => .error (.unopened e)
  | .ok (.ok .dir) => .error (.unopened .isDirectory)
  | .ok (.ok (.file bs)) =>
      match Text.decodeStrict bs with
      | .ok t => .ok ⟨Text.normalizeLineEnds t.points⟩
      | .error e => .error (.undecodable e)

def accountFields : List (List String) :=
  ((accounts.splitOn "\n").filter fun l => !l.isEmpty).map fun l => l.splitOn ":"

def userHome (name : Text) : Option Text :=
  (accountFields.find? fun fs => Text.ofString (fs.getD 0 "") = name).map
    fun fs => Text.ofString (fs.getD 5 "")

def homeOf (name : Text) : Option Text :=
  let h := if name.isEmpty then some home else userHome name
  h.map fun h =>
    let kept := (h.points.reverse.dropWhile (· == 47)).reverse
    if kept.isEmpty then Text.ofString "/" else ⟨kept⟩

/-- A path with a leading `~` part made a home directory, in normal form: `~` is the own home,
`~name` the home of a user of the accounts file. A user's name is looked up in its byte form,
so a name without one fails first; a user the file does not name has no known home. -/
def expandHome (p : Text) : Except Fault Text :=
  let q := normal p
  match parts q with
  | first :: rest =>
      if !(rootOf q).isEmpty || first.get? 0 != some 126 then .ok q
      else
        let name := first.drop 1
        match check name with
        | .error f => .error f.toFault
        | .ok () =>
            match homeOf name with
            | some h => .ok (normal (Text.join (Text.ofString "/") (h :: rest)))
            | none => .error (.crashed (Text.ofString "Could not determine home directory."))
  | [] => .ok q

def withFile (d : Disk) (p : Text) (bytes : List Nat) : Disk :=
  ⟨d.entries ++ [(parts p, .file bytes)]⟩

def withDir (d : Disk) (p : Text) : Disk := ⟨d.entries ++ [(parts p, .dir)]⟩

def empty : Disk := ⟨[]⟩

end Disk

end PhpCompletion
