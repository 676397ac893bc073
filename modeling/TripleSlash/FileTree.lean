import TripleSlash.IoError
import TripleSlash.Path
import TripleSlash.Text.Utf8

/-! A tree of files, directories and symbolic links, and how a path text is followed
through it. A name is looked up in a directory only, a link stands for its target, and at
most forty links are followed on the way. -/
namespace TripleSlash

inductive Entry where
  | file (bytes : Bytes) (executable : Bool)
  | directory
  | link (target : Text)
  /-- A device that is always empty and keeps nothing of what is written to it, as far as the
  tree goes. -/
  | void
deriving DecidableEq, Repr

/-- The names on the way down from the root. -/
abbrev Location := List Text

structure FileTree where
  entries : List (Location × Entry)
deriving Repr

/-- Where a path leads: to an entry, or to a free name in a directory. -/
inductive Spot where
  | taken (place : Location)
  | free (dir : Location) (name : Text)
deriving DecidableEq, Repr

namespace FileTree

def empty : FileTree := ⟨[]⟩

/-- The root is always a directory. -/
def find? (tree : FileTree) (place : Location) : Option Entry :=
  if place = [] then some .directory else tree.entries.lookup place

def put (tree : FileTree) (place : Location) (entry : Entry) : FileTree :=
  ⟨tree.entries.filter (fun e => e.1 ≠ place) ++ [(place, entry)]⟩

/-- Takes away an entry and all that is below it. -/
def erase (tree : FileTree) (place : Location) : FileTree :=
  ⟨tree.entries.filter fun e => !place.isPrefixOf e.1⟩

def longestName : Nat := 255

def longestPath : Nat := 4095

def mostLinks : Nat := 40

/-- The segments that are looked up, with a dot for a slash at the end. -/
def steps (text : Text) : List Text :=
  let named := (Text.splitAt '/' text).filter (· ≠ [])
  if text.getLast? = some '/' then named ++ [['.']] else named

def start (cwd : Location) (text : Text) : Location :=
  if text.head? = some '/' then [] else cwd

/-- Follows segments from a directory. `links` is how many links may still be met. In a
directory that was taken away no name is found or free. -/
def follow (tree : FileTree) (links : Nat) (here : Location) :
    List Text → Except IoError Spot
  | [] => .ok (.taken here)
  | name :: rest =>
    if name = ['.'] then follow tree links here rest
    else if name = ['.', '.'] then follow tree links here.dropLast rest
    else if tree.find? here = none then .error .notFound
    else if longestName < Text.size name then .error .nameTooLong
    else match tree.find? (here ++ [name]) with
      | none => if rest = [] then .ok (.free here name) else .error .notFound
      | some (.file ..) | some .void =>
        if rest = [] then .ok (.taken (here ++ [name])) else .error .notDirectory
      | some .directory => follow tree links (here ++ [name]) rest
      | some (.link target) =>
        match links with
        | 0 => .error .tooManyLinks
        | links + 1 => follow tree links (start here target) (steps target ++ rest)
termination_by segments => (links, segments.length)

/-- Refuses the texts that no file can be named by. -/
def check (text : Text) : Except IoError Unit :=
  if '\x00' ∈ text then .error .nulInFileName
  else if text = [] then .error .notFound
  else if longestPath < Text.size text then .error .nameTooLong
  else .ok ()

/-- Where a path leads with all its links followed. -/
def spot (tree : FileTree) (cwd : Location) (p : Path) : Except IoError Spot := do
  check p.text
  follow tree mostLinks (start cwd p.text) (steps p.text)

/-- The directory of the last name of a path and that name. There is none where the path
ends in a dot or a slash alone. -/
def spotOfName (tree : FileTree) (cwd : Location) (p : Path) :
    Except IoError (Option (Location × Text)) := do
  check p.text
  let named := (Text.splitAt '/' p.text).filter (· ≠ [])
  match ← follow tree mostLinks (start cwd p.text) (named.dropLast ++ [['.']]) with
  | .free .. => .error .notFound
  | .taken dir =>
    match named.getLast? with
    | none => .ok none
    | some name =>
      if name = ['.'] ∨ name = ['.', '.'] then .ok none
      else if longestName < Text.size name then .error .nameTooLong
      else .ok (some (dir, name))

def present (tree : FileTree) (cwd : Location) (p : Path) : Bool :=
  match spot tree cwd p with
  | .ok (.taken _) => true
  | _ => false

/-- The entry that a path leads to. A directory that was taken away is still one for those
who stand in it. -/
def entry (tree : FileTree) (cwd : Location) (p : Path) : Except IoError Entry := do
  match ← spot tree cwd p with
  | .free .. => .error .notFound
  | .taken place => .ok ((tree.find? place).getD .directory)

def isFile (tree : FileTree) (cwd : Location) (p : Path) : Bool :=
  match entry tree cwd p with
  | .ok (.file ..) => true
  | _ => false

def isDirectory (tree : FileTree) (cwd : Location) (p : Path) : Bool :=
  match entry tree cwd p with
  | .ok .directory => true
  | _ => false

def readBytes (tree : FileTree) (cwd : Location) (p : Path) : Except IoError Bytes := do
  match ← entry tree cwd p with
  | .file bytes _ => .ok bytes
  | .void => .ok []
  | _ => .error .isDirectory

def readText (tree : FileTree) (cwd : Location) (p : Path) : Except IoError Text := do
  match Utf8.decode? (← readBytes tree cwd p) with
  | some text => .ok text
  | none => .error .invalidUtf8

/-- Where a write to a path goes. A path that ends in a slash or a dot names no file. -/
def spotToWrite (tree : FileTree) (cwd : Location) (p : Path) : Except IoError Location := do
  let named ← spotOfName tree cwd p
  if named.isNone ∨ p.text.getLast? = some '/' then .error .isDirectory
  else match ← spot tree cwd p with
    | .free dir name => .ok (dir ++ [name])
    | .taken place =>
      match tree.find? place with
      | some (.file ..) | some .void => .ok place
      | _ => .error .isDirectory

/-- Replaces the bytes of a file, which is made if it is not there. -/
def write (tree : FileTree) (cwd : Location) (p : Path) (bytes : Bytes) :
    Except IoError FileTree := do
  let place ← spotToWrite tree cwd p
  match tree.find? place with
  | some (.file _ executable) => .ok (tree.put place (.file bytes executable))
  | some .void => .ok tree
  | _ => .ok (tree.put place (.file bytes false))

/-- Makes a directory, and says where it is. -/
def makeDirectoryAt (tree : FileTree) (cwd : Location) (p : Path) :
    Except IoError (Location × FileTree) := do
  match ← spotOfName tree cwd p with
  | none => .error .alreadyExists
  | some (dir, name) =>
    match tree.find? (dir ++ [name]) with
    | some _ => .error .alreadyExists
    | none => .ok (dir ++ [name], tree.put (dir ++ [name]) .directory)

def makeDirectory (tree : FileTree) (cwd : Location) (p : Path) : Except IoError FileTree :=
  (makeDirectoryAt tree cwd p).map Prod.snd

/-- A path and the ancestors that its text names, the lowest first. -/
def lineage (p : Path) : List Path :=
  let named := (Text.splitAt '/' p.text).filter (· ≠ [])
  (List.range named.length).reverse.map fun n =>
    let text := Text.joinWith '/' (named.take (n + 1))
    ⟨if p.isAbsolute then '/' :: text else text⟩

/-- Makes the first of some directories. The ones behind it are made before, but only if
it cannot be made without them. -/
def makeLowest (tree : FileTree) (cwd : Location) : List Path → Except IoError FileTree
  | [] => .ok tree
  | p :: above =>
    let settle (tree : FileTree) : Except IoError FileTree :=
      match makeDirectory tree cwd p with
      | .ok tree => .ok tree
      | .error cause => if isDirectory tree cwd p then .ok tree else .error cause
    match makeDirectory tree cwd p with
    | .error .notFound => do settle (← makeLowest tree cwd above)
    | _ => settle tree

/-- Makes a directory and those above it. A path that is a directory already is fine. -/
def makeDirectories (tree : FileTree) (cwd : Location) (p : Path) : Except IoError FileTree :=
  makeLowest tree cwd (lineage p)

def makeLink (tree : FileTree) (cwd : Location) (p : Path) (target : Text) :
    Except IoError FileTree := do
  if target = [] then .error .notFound
  else match ← spotOfName tree cwd p with
    | none => .error .alreadyExists
    | some (dir, name) =>
      match tree.find? (dir ++ [name]) with
      | some _ => .error .alreadyExists
      | none => .ok (tree.put (dir ++ [name]) (.link target))

/-- Takes away what a path names, without following a link at its end. -/
def remove (tree : FileTree) (cwd : Location) (p : Path) : Except IoError FileTree := do
  match ← spotOfName tree cwd p with
  | none => .error .isDirectory
  | some (dir, name) =>
    match tree.find? (dir ++ [name]) with
    | none => .error .notFound
    | some _ => .ok (tree.erase (dir ++ [name]))

def setExecutable (tree : FileTree) (cwd : Location) (p : Path) (executable : Bool) :
    Except IoError FileTree := do
  match ← spot tree cwd p with
  | .free .. => .error .notFound
  | .taken place =>
    match tree.find? place with
    | some (.file bytes _) => .ok (tree.put place (.file bytes executable))
    | _ => .ok tree

/-- What can be put somewhere. -/
inductive Item where
  | file (bytes : Bytes) (executable : Bool)
  | directory
  | link (target : Text)
deriving Repr

/-- Puts an item at a path and makes the directories above it first. -/
def deposit (tree : FileTree) (cwd : Location) (p : Path) (item : Item) :
    Except IoError FileTree := do
  let above := (lineage p).tail
  match item with
  | .directory => makeDirectories tree cwd p
  | .link target =>
    let tree ← makeLowest tree cwd above
    makeLink tree cwd p target
  | .file bytes executable =>
    let tree ← makeLowest tree cwd above
    let tree ← write tree cwd p bytes
    setExecutable tree cwd p executable

end FileTree
end TripleSlash
