import TripleSlash.Child
import TripleSlash.Compiler
import TripleSlash.Machine

/-! The command line compiler, run as a child. A source is handed over in a scratch
directory of its own, in which the output is left as well. -/
namespace TripleSlash.Compiler.Tsc

def program : Text := "tsc".toList

def inputName : Path := .ofString "input.ts"

def outputName : Path := .ofString "output.js"

/-- The arguments for one source. -/
def arguments (options : List Text) (input output : Path) : List Text :=
  options ++ ["--outFile".toList, output.text, input.text]

/-- What a child that failed has to say: its output and its error output, or how it ended if
they are blank. -/
def complaint (program : Path) (child : ChildOutput) : Text :=
  let said := Utf8.decodeLossy child.stdout ++ Utf8.decodeLossy child.stderr
  if said.all Text.isBlank then
    program.text ++ " exited with status: ".toList ++ child.status.text
  else said

/-- Compiles one source in an empty scratch directory. -/
def compileSourceIn (launch : Launcher Machine) (program scratch : Path) (source : Text)
    (options : List Text) : Action Machine Text Text := do
  let input := scratch.join inputName
  let output := scratch.join outputName
  (Action.change fun m => m.write input source).mapError fun cause =>
    "Failed to write ".toList ++ input.text ++ ": ".toList ++ cause.message
  Action.emit [.started program options]
  let child ← (Action.change (launch program (arguments options input output))).mapError
    fun cause => "Failed to run ".toList ++ program.text ++ ": ".toList ++ cause.message
  if !child.status.success then Action.fail (complaint program child)
  else
    Action.ofExcept (((← Action.files).read output).mapError fun cause =>
      "Compiler produced no output at ".toList ++ output.text ++ ": ".toList ++ cause.message)

def compileSource (launch : Launcher Machine) (program : Path) (source : Text)
    (options : List Text) : Action Machine Text Text := do
  let scratch ← (Action.change Machine.makeScratch).mapError fun cause =>
    "Failed to create scratch directory: ".toList ++ cause.message
  (compileSourceIn launch program scratch.path source options).ending
    fun m => m.removeScratch scratch

def buildProject (launch : Launcher Machine) (program manifest : Path) :
    Action Machine IoError BuildOutput := do
  Action.emit [.startedProject program manifest]
  let child ← Action.change (launch program ["--project".toList, manifest.text])
  pure ⟨Utf8.decodeLossy child.stdout, Utf8.decodeLossy child.stderr, child.status.success⟩

theorem compileSourceIn_events (launch : Launcher Machine) (program scratch : Path)
    (source : Text) (options : List Text) :
    (compileSourceIn launch program scratch source options).EmitsOnly Event.isStart := by
  refine .bind (.mapError (.change _) _) fun _ => .bind (.emit (by simp [Event.isStart])) fun _ =>
    .bind (.mapError (.change _) _) fun child => ?_
  split
  · exact .fail _
  · exact .bind .files fun _ => .ofExcept _

theorem compileSource_events (launch : Launcher Machine) (program : Path) (source : Text)
    (options : List Text) : (compileSource launch program source options).EmitsOnly Event.isStart :=
  .bind (.mapError (.change _) _) fun scratch =>
    .ending (compileSourceIn_events launch program scratch.path source options) _

theorem buildProject_events (launch : Launcher Machine) (program manifest : Path) :
    (buildProject launch program manifest).EmitsOnly Event.isStart :=
  .bind (.emit (by simp [Event.isStart])) fun _ => .bind (.change _) fun _ => .pure _

def compiler (launch : Launcher Machine) (program : Path) : Compiler Machine where
  compileSource := compileSource launch program
  buildProject := buildProject launch program
  source_events := compileSource_events launch program
  project_events := buildProject_events launch program

/-- Where a package manager puts the compiler below a directory. -/
def localProgram (dir : Path) : Path :=
  ((dir.join (.ofString "node_modules")).join (.ofString ".bin")).join ⟨program⟩

/-- A path and its ancestors as its text has them, the nearest first. -/
def ancestry : Nat → Path → List Path
  | 0, p => [p]
  | n + 1, p => p :: (p.parent?.map (ancestry n)).getD []

/-- The program to run for files in `start`: the one that the environment names, if it is
there, else the nearest local one, else whatever is on the search path. -/
def locate (files : Files) (named : Option Text) (start : Path) : Path :=
  match named.filter fun text => files.present ⟨text⟩ with
  | some text => ⟨text⟩
  | none =>
    (((ancestry start.text.length start).map localProgram).find? files.isFile).getD ⟨program⟩

end TripleSlash.Compiler.Tsc
