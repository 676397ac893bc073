import TripleSlash.CommandLine
import TripleSlash.Shell.Run

/-! The program. All that a run looks at is read into a machine first, for as long as the
run would look at something new; then the run is made, and what it wrote is put back. -/
namespace TripleSlash.Main

open CommandLine

/-- The paths that a request looks at, as far as the files at hand tell. -/
def needs (env : Environment) (files : Files) (request : Request) : List Path :=
  let programs (p : Path) : List Path :=
    (env.compiler.map Path.mk).toList
      ++ (Compiler.Tsc.ancestry p.text.length (searchDir p)).map Compiler.Tsc.localProgram
  let reached (p : Path) : List Path :=
    p :: ((Discovery.discover files p none .empty).failure.map ReferenceError.path).toList
  request.output?.toList ++
    match request with
    | .compile input .. => programs input ++ reached input
    | .project manifest .. =>
      let built := (Manifest.read files manifest).toOption.map Manifest.outFile
      programs manifest ++ manifest :: built.toList
    | .deps entry _ => reached entry
    | .anchor input => [input]

/-- What stands at a path. A file that names its interpreter may be executed. -/
def itemAt? (p : Path) : IO (Option FileTree.Item) := do
  try
    let bytes := (← IO.FS.readBinFile (String.ofList p.text)).data.toList
    return some (.file bytes ([35, 33].isPrefixOf bytes))
  catch
    | .inappropriateType none _ _ => return some .directory
    | _ => return none

/-- Puts what stands at a path, and above it, into a machine. -/
def load (m : Machine) (p : Path) : IO Machine := do
  let mut m := m
  for part in (FileTree.lineage ((Machine.place m.cwd).join p)).reverse do
    if (m.tree.entry m.cwd part).toOption ≠ some .void then
      if let some item ← itemAt? part then
        m := (m.deposit part item).2
  return m

partial def gather (env : Environment) (request : Request) (loaded : List Path) (m : Machine) :
    IO Machine := do
  match (needs env m.files request).find? fun p => !loaded.contains p with
  | none => return m
  | some p => gather env request (p :: loaded) (← load m p)

/-- Puts back what differs between two trees. -/
def store (before after : FileTree) : IO Unit := do
  for (place, entry) in after.entries do
    if before.find? place ≠ some entry then
      let name := String.ofList (Machine.place place).text
      match entry with
      | .file bytes _ => IO.FS.writeBinFile name ⟨bytes.toArray⟩
      | .directory => IO.FS.createDirAll name
      | .link _ | .void => pure ()
  for (place, entry) in before.entries do
    if after.find? place = none then
      let name := String.ofList (Machine.place place).text
      match entry with
      | .directory => IO.FS.removeDirAll name
      | _ => IO.FS.removeFile name

def environment : IO Environment := do
  let text (name : String) : IO (Option Text) := return (← IO.getEnv name).map String.toList
  return ⟨← text "TSASSET_LOG", ← text "RUST_LOG", ← text "TSASSET_TSC"⟩

/-- A machine with what every machine has, and the current directory. -/
def start : IO Machine := do
  let here := FileTree.steps (toString (← IO.currentDir)).toList
  let temporary : Location := ["tmp".toList]
  let path := ((← IO.getEnv "PATH").map String.toList).getD Shell.State.standardPath
  load ⟨Shell.standardTree, here, temporary, 0, [("PATH".toList, path)]⟩ ⟨['.']⟩

end TripleSlash.Main

def main (args : List String) : IO UInt32 := do
  let args := args.map String.toList
  let env ← TripleSlash.Main.environment
  let m ← TripleSlash.Main.start
  let m ← match TripleSlash.CommandLine.parse args with
    | .ok request => TripleSlash.Main.gather env request [] m
    | .error _ => pure m
  let compilerFor := TripleSlash.Compiler.Tsc.compiler TripleSlash.Shell.launch
  let (done, after) := TripleSlash.CommandLine.execute compilerFor env args m
  TripleSlash.Main.store m.tree after.tree
  (← IO.getStdout).putStr (String.ofList done.stdout)
  (← IO.getStderr).putStr (String.ofList done.stderr)
  return UInt32.ofNat done.code
