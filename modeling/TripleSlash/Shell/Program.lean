import TripleSlash.Child
import TripleSlash.Machine
import TripleSlash.Shell.Runner
import TripleSlash.Shell.State
import TripleSlash.Shell.Tool.Edit
import TripleSlash.Shell.Tool.Lines
import TripleSlash.Shell.Tool.Search
import TripleSlash.Shell.Tool.Values

/-! What the programs of a machine are. A program is one of the tools that every machine has,
or a file that may be executed and whose first line names the program that reads it. -/
namespace TripleSlash.Shell

namespace Tool

/-- The tools that run no other programs. -/
def all : List (String × (List Text → Tool Unit)) :=
  [("true", fun _ => finish 0), ("false", fun _ => finish 1), ("echo", echo), ("cat", cat),
    ("cp", cp), ("mv", mv), ("rm", rm), ("rmdir", rmdir), ("mkdir", mkdir), ("touch", touch),
    ("ln", ln), ("chmod", chmod), ("ls", ls), ("readlink", readlink), ("realpath", realpath),
    ("mktemp", mktemp), ("tee", tee), ("cmp", cmp), ("find", find), ("head", head),
    ("tail", tail), ("wc", wc), ("sort", sort), ("uniq", uniq), ("tr", tr), ("cut", cut),
    ("tac", tac), ("rev", rev), ("nl", nl), ("paste", paste), ("fold", fold), ("seq", seq),
    ("grep", grep), ("egrep", grepWith "-E"), ("fgrep", grepWith "-F"), ("sed", sed),
    ("printf", printf),
    ("test", test false), ("[", test true), ("basename", basename), ("dirname", dirname),
    ("expr", expr), ("printenv", printenv), ("pwd", pwd), ("id", id), ("uname", uname),
    ("sleep", sleep), ("sync", sync), ("whoami", whoami)]

/-- The tools that run scripts. -/
def shells : List String := ["sh", "dash", "bash"]

def isTool (name : String) : Bool :=
  (all.lookup name).isSome || shells.contains name || (Runner.ofName? name).isSome

end Tool

/-- The directories that the tools are in. -/
def toolDirectories : List Path := [.ofString "/usr/bin", .ofString "/bin"]

/-- The directories that every machine has. -/
def standardDirectories : List String :=
  ["/bin", "/boot", "/dev", "/etc", "/home", "/lib", "/media", "/mnt", "/opt", "/proc", "/root",
    "/run", "/sbin", "/srv", "/sys", "/tmp", "/usr", "/usr/bin", "/usr/lib", "/usr/local",
    "/usr/local/bin", "/usr/sbin", "/usr/share", "/var", "/var/log", "/var/tmp"]

/-- What the file of a tool holds, which is no text. -/
def toolBytes : Bytes := [0x7F, 0x45, 0x4C, 0x46, 0x02, 0x01, 0xFF]

/-- The files of a machine on which nothing was done yet: the tools, the directories that every
machine has, and the devices that are always empty. -/
def standardTree : FileTree :=
  let names := Tool.all.map (·.1) ++ Tool.shells ++ Runner.named.map (·.1)
  let dirs := standardDirectories.map fun p => (FileTree.steps p.toList, Entry.directory)
  let tools := ["/usr/bin", "/bin"].flatMap fun dir => names.map fun name =>
    (FileTree.steps dir.toList ++ [name.toList], Entry.file toolBytes true)
  let devices := ["/dev/null", "/dev/stdin", "/dev/stdout", "/dev/stderr"].map fun p =>
    (FileTree.steps p.toList, Entry.void)
  ⟨dirs ++ devices ++ tools⟩

/-- The tool at a path. -/
def toolAt? (p : Path) : Option String := do
  if toolDirectories.any fun dir => decide (Path.Same dir p.dir) then
    let name := String.ofList (← p.fileName?)
    if Tool.isTool name then some name else none
  else none

/-- What can be started. -/
inductive Program where
  | tool (name : String)
  /-- A file without a line that names its reader. -/
  | unmarked
deriving DecidableEq, Repr

/-- The reader that the first line of a file names and the one argument it may give. -/
def reader? (bytes : Bytes) : Option (Option (Text × List Text)) :=
  match Octets.ofBytes bytes with
  | '#' :: '!' :: rest =>
    let isGap (c : Char) : Bool := c == ' ' || c == '\t'
    let l := (rest.takeWhile (· ≠ '\n')).dropWhile isGap
    let l := (l.reverse.dropWhile isGap).reverse
    let name := l.takeWhile fun c => !isGap c
    let argument := (l.drop name.length).dropWhile isGap
    some (if name = [] then none
      else some (name, if argument = [] then [] else [argument]))
  | _ => none

/-- How many readers may read one another. -/
def mostReaders : Nat := 5

/-- A program to start: the name that it was called by and its arguments. -/
structure Start where
  program : Program
  name : Text
  arguments : List Text
deriving DecidableEq, Repr

/-- What is started for a path that was called by a name with some arguments. A file that names
its reader is read by it, which may itself be read by another. -/
def programAt (m : Machine) : Nat → Text → Text → List Text → Except IoError Start
  | 0, _, _, _ => .error .tooManyLinks
  | fuel + 1, p, name, arguments =>
    match m.tree.entry m.cwd (State.path p), toolAt? (State.path p) with
    | .ok (.file bytes true), tool =>
      if bytes = toolBytes then
        match tool with
        | some tool => .ok ⟨.tool tool, name, arguments⟩
        | none => .error .formatNotExecutable
      else match reader? bytes with
        | none | some none => .ok ⟨.unmarked, name, arguments⟩
        | some (some (reader, more)) =>
          match programAt m fuel reader reader (more ++ p :: arguments) with
          | .ok ⟨.unmarked, _, _⟩ => .error .formatNotExecutable
          | found => found
    | .ok _, _ => .error .permissionDenied
    | .error cause, _ => .error cause

/-- Whether something can be started for a path. -/
def canStart (m : Machine) (p : Text) : Except IoError Unit := do
  let _ ← programAt m mostReaders p p []

/-- The path that a name stands for: the first in some directories that can be started. -/
def search (m : Machine) (directories : List Text) (name : Text) : Except IoError Text :=
  let step (found : Except IoError Text) (dir : Text) : Except IoError Text :=
    let p := if dir = [] then name else Tool.joined dir name
    match found, canStart m p with
    | .ok p, _ => .ok p
    | _, .ok _ => .ok p
    | .error _, .error .permissionDenied => .error .permissionDenied
    | .error cause, .error _ => .error cause
  if name = [] then .error .notFound
  else if '/' ∈ name then .ok name
  else directories.foldl step (.error .notFound)

end TripleSlash.Shell
