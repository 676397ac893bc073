import TripleSlash.Builder
import TripleSlash.CommandLine.Arguments
import TripleSlash.CommandLine.Help
import TripleSlash.Compiler.Tsc
import TripleSlash.Log
import TripleSlash.Report

/-! What the command line does. Each command is an action that either fails or comes to a
product; only then is the product written, to a file or to the standard output. So a run
that fails leaves the standard output empty and the output file as it was. -/
namespace TripleSlash.CommandLine

/-- A world in which files can be written. -/
class Workspace (W : Type) extends HasFiles W where
  write : W → Path → Text → Except IoError Unit × W
  /-- The stream of the program that a path stands for. -/
  stream? : W → Path → Option Stream

instance : Workspace Machine where
  write := Machine.write
  stream? := Machine.stream?

/-- What the environment says about a run. -/
structure Environment where
  /-- The log filter of this program. -/
  log : Option Text
  /-- The log filter of all programs, which the own one overrides. -/
  commonLog : Option Text
  /-- The compiler to use. -/
  compiler : Option Text
deriving DecidableEq, Repr

def Environment.filter (env : Environment) (verbose : Bool) : Text :=
  match env.log, env.commonLog with
  | some own, _ => own
  | none, some common => common
  | none, none => if verbose then "debug".toList else "info".toList

/-- How to run the compiler program with a given name. -/
abbrev CompilerFor (W : Type) := Path → Compiler W

inductive Failure where
  /-- The source to anchor could not be read. -/
  | input (cause : IoError)
  | build (error : BuildError)
deriving DecidableEq, Repr

/-- What is said about an error over references: where the directive stands, if there is one
and its file can be read. -/
def referenceReport (files : Files) (error : ReferenceError) : Text :=
  let plain := "Error: ".toList ++ error.message ++ ['\n']
  match error.origin? with
  | none => plain
  | some origin =>
    match files.read origin.file with
    | .error _ => plain
    | .ok source => Report.text origin.file.text source origin.span error.message

def Failure.report (files : Files) : Failure → Text
  | input cause => "Error reading file: ".toList ++ cause.message ++ ['\n']
  | build (.references error) => referenceReport files error
  | build error => "Error: ".toList ++ error.message ++ ['\n']

/-- What a command came to: the text to hand out, if there is one, and what else to say. -/
structure Product where
  payload : Option Text
  notes : Text
deriving DecidableEq, Repr

/-- The directory to look for a compiler from. -/
def searchDir (p : Path) : Path :=
  match p.parent? with
  | none => .ofString "."
  | some dir => if dir.text = [] then .ofString "." else dir

/-- One path a line, behind a label. -/
def pathLines (label : String) (paths : List Path) : Text :=
  paths.flatMap fun p => label.toList ++ p.text ++ ['\n']

def withoutOutput (inputs : Nat) : Text :=
  "Build succeeded but produced no output file (".toList ++ Text.ofNat inputs
    ++ " inputs)\n".toList

variable {W : Type}

section Commands

variable [HasFiles W] (compilerFor : CompilerFor W) (env : Environment)

/-- A builder that runs the compiler found for a file. -/
def builderFor (p : Path) (options : CompilerOptions) : Action W Failure (Builder W) := do
  let program := Compiler.Tsc.locate (← Action.files) env.compiler (searchDir p)
  pure ⟨compilerFor program, options⟩

def compile (input : Path) (defaults : CompilerOptions) (options : List Text) (listing : Bool) :
    Action W Failure Product := do
  let builder ← builderFor compilerFor env input defaults
  let compiled ← (builder.compileWithDependencies input options).mapError .build
  let notes := if listing then pathLines "depends on: " compiled.dependencies.toList else []
  pure ⟨some compiled.js, notes⟩

def project (manifest : Path) : Action W Failure Product := do
  let builder ← builderFor compilerFor env manifest .standard
  let (js, events) ← ((builder.compileProject manifest).mapError Failure.build).listen
  let inputs := (Dependencies.empty.addAll (Event.dependencies events)).size
  pure ⟨js, if js.isSome then [] else withoutOutput inputs⟩

def deps (entry : Path) : Action W Failure Product := do
  let walk := Discovery.discover (← Action.files) entry none .empty
  Action.emit (walk.steps.map .walked)
  match walk.failure with
  | some error => Action.fail (.build (.references error))
  | none => pure ⟨some (pathLines "" walk.found), []⟩

def anchor (input : Path) : Action W Failure Product := do
  let source ← Action.ofExcept (((← Action.files).read input).mapError .input)
  let anchored ← (Builder.anchorReferences input source).mapError .build
  pure ⟨some anchored, []⟩

def perform : Request → Action W Failure Product
  | .compile input _ defaults options listing _ =>
    compile compilerFor env input defaults options listing
  | .project manifest _ _ => project compilerFor env manifest
  | .deps entry _ => deps entry
  | .anchor input => anchor input

end Commands

/-- What a run leaves besides files. -/
structure Completion where
  code : Nat
  stdout : Text
  stderr : Text
deriving DecidableEq, Repr

variable [Workspace W]

/-- Hands out a product, to a file if there is one to take it. A file that stands for a stream
of the program passes it on. -/
def deliver (output : Option Path) (product : Product) (w : W) : Completion × W :=
  match product.payload, output with
  | none, _ => (⟨0, [], product.notes⟩, w)
  | some text, none => (⟨0, text, product.notes⟩, w)
  | some text, some file =>
    match Workspace.stream? w file, Workspace.write w file text with
    | some .output, _ => (⟨0, text, product.notes⟩, w)
    | some .complaints, _ => (⟨0, [], product.notes ++ text⟩, w)
    | none, (.ok (), w) => (⟨0, [], product.notes⟩, w)
    | none, (.error cause, w) =>
      (⟨1, [], product.notes ++ "Error writing output: ".toList ++ cause.message ++ ['\n']⟩, w)

def conclude (output : Option Path) (outcome : Outcome W Failure Product) : Completion × W :=
  match outcome.result with
  | .error failure => (⟨1, [], failure.report (HasFiles.files outcome.world)⟩, outcome.world)
  | .ok product => deliver output product outcome.world

/-- Performs a request. The lines of the log come first in the error output. -/
def run (compilerFor : CompilerFor W) (env : Environment) (request : Request) (w : W) :
    Completion × W :=
  let outcome := perform compilerFor env request w
  let log := Log.lines (env.filter request.verbose) request.verbose outcome.events
  let (completion, w) := conclude request.output? outcome
  ({ completion with stderr := log ++ completion.stderr }, w)

/-- How a run ends whose arguments make no request. -/
def Ending.completion : Ending → Completion
  | help topic => ⟨0, CommandLine.help topic, []⟩
  | version => ⟨0, programName ++ ' ' :: CommandLine.version ++ ['\n'], []⟩
  | misuse cause => ⟨2, [], "error: ".toList ++ cause.message ++ ['\n']⟩

def execute (compilerFor : CompilerFor W) (env : Environment) (args : List Text) (w : W) :
    Completion × W :=
  match parse args with
  | .error ending => (ending.completion, w)
  | .ok request => run compilerFor env request w

end TripleSlash.CommandLine
