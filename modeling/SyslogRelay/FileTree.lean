import SyslogRelay.IoError

namespace SyslogRelay

/-- A directory with named entries, a file with what reading it gives, or the
standard input of the run. -/
inductive FileTree
  | file (contents : Except IoError String)
  | input
  | dir (entries : List (String × FileTree))
  deriving Inhabited

namespace FileTree

/-- The entry of a name, if the tree is a directory that has one. -/
def child? : FileTree → String → Option FileTree
  | .dir entries, name => (entries.find? (·.1 = name)).map Prod.snd
  | _, _ => none

/-- Look up components from `here`, whose enclosing directories are `above`,
nearest first. -/
def walk (here : FileTree) (above : List FileTree) : List String → Except IoError FileTree
  | [] => .ok here
  | name :: rest =>
    match here with
    | .file _ | .input => .error (.os 20)
    | .dir _ =>
      if name = "" ∨ name = "." then walk here above rest
      else if name = ".." then
        match above with
        | up :: higher => walk up higher rest
        | [] => walk here [] rest
      else
        match here.child? name with
        | some next => walk next (here :: above) rest
        | none => .error (.os 2)

/-- The components of a path between its slashes. -/
def components (path : String) : List String := path.splitOn "/"

/-- The entry a path names, relative paths starting at `cwd` (components from
the root). -/
def locate (root : FileTree) (cwd : List String) (path : String) : Except IoError FileTree :=
  if path.isEmpty then .error (.os 2)
  else if path.startsWith "/" then walk root [] (components path)
  else walk root [] (cwd ++ components path)

/-- Read a whole file by its path; `input` is the run's standard input. -/
def read (root : FileTree) (cwd : List String) (input path : String) : Except IoError String :=
  match root.locate cwd path with
  | .ok (.file contents) => contents
  | .ok .input => .ok input
  | .ok (.dir _) => .error (.os 21)
  | .error e => .error e

/-- Whether a path names the standard input. -/
def isInput (root : FileTree) (cwd : List String) (path : String) : Bool :=
  match root.locate cwd path with
  | .ok .input => true
  | _ => false

/-- Put an entry at the given components, making the directories on the way. -/
def insert (t : FileTree) (entry : FileTree) : List String → FileTree
  | [] => entry
  | name :: rest =>
    let inner := ((t.child? name).getD (.dir [])).insert entry rest
    match t with
    | .dir entries => .dir (entries.filter (·.1 ≠ name) ++ [(name, inner)])
    | _ => .dir [(name, inner)]

/-- Put a file with the given text at an absolute path. -/
def withFile (t : FileTree) (path : String) (text : String) : FileTree :=
  t.insert (.file (.ok text)) ((components path).filter (· ≠ ""))

/-- A directory of empty directories. -/
def dirs (names : List String) : FileTree := .dir (names.map fun n => (n, .dir []))

/-- The open files of the run by number: the standard input is 0. -/
def descriptors : FileTree := .dir [("0", .input)]

/-- Device files: reading the null device gives nothing, the standard input
device gives the run's input, and the other devices never end, which a read of
the whole file cannot survive. -/
def devices : FileTree :=
  .dir ([("null", .file (.ok "")), ("stdin", .input), ("fd", descriptors)] ++
    ["zero", "full", "random", "urandom"].map (·, .file (.error (.simple .outOfMemory))) ++
    [("shm", .dir []), ("pts", .dir [])])

/-- The account tables, which always start with the superuser. -/
def accounts : List (String × FileTree) :=
  [("passwd", .file (.ok "root:x:0:0:root:/root:/bin/sh\n")), ("group", .file (.ok "root:x:0:\n"))]

/-- The directories of a standard root file system, with the usual ones under
`/usr` and `/var`. -/
def standard : FileTree :=
  .dir (["bin", "boot", "home", "lib", "lib64", "media", "mnt", "opt", "root", "run", "sbin",
      "srv", "sys", "tmp"].map (·, .dir []) ++
    [("dev", devices),
     ("etc", .dir accounts),
     ("proc", .dir [("self", .dir [("fd", descriptors)])]),
     ("usr", dirs ["bin", "include", "lib", "lib64", "libexec", "local", "sbin", "share", "src"]),
     ("var", dirs ["backups", "cache", "lib", "local", "lock", "log", "mail", "opt", "run", "spool",
       "tmp"])])

end FileTree

end SyslogRelay
