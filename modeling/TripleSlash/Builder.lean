import TripleSlash.AssetKind
import TripleSlash.Compiler
import TripleSlash.CompilerOptions
import TripleSlash.Dependencies
import TripleSlash.Manifest

/-! Compiling assets. The dependencies of a single source are the files that its reference
directives reach, and its anchored text is compiled. The dependencies of a project are the
files of its manifest; the compiler builds the project and its output file is read back. -/
namespace TripleSlash

/-- The outcome of a project build. -/
structure ProjectResult where
  success : Bool
  /-- The text of the output file, if the build left one. -/
  js : Option Text
  stdout : Text
  stderr : Text
deriving DecidableEq, Repr

/-- An output and all it was built from. -/
structure Compiled where
  js : Text
  dependencies : Dependencies
deriving DecidableEq, Repr

structure Builder (W : Type) where
  compiler : Compiler W
  options : CompilerOptions

namespace Builder

variable {W : Type} [HasFiles W]

def readFile (p : Path) : Action W BuildError Text := do
  Action.ofExcept (((← Action.files).read p).mapError (.io p))

theorem readFile_eq (p : Path) (w : W) :
    readFile p w = ⟨((HasFiles.files w).read p).mapError (.io p), [], w⟩ :=
  Action.files_bind _ w

/-- Reports every file that a source of `path` reaches. -/
def followReferences (path : Path) (source : Text) : Action W BuildError Unit := do
  let walk := Discovery.discover (← Action.files) path (some source) .empty
  Action.emit (walk.steps.map .walked)
  match walk.failure with
  | some error => Action.fail (.references error)
  | none => pure ()

def anchorReferences (path : Path) (source : Text) : Action W BuildError Text := do
  let file ← Action.ofExcept (((← Action.files).absolute path).mapError .references)
  Action.emit ((Anchoring.changesIn file.dir.text source).map (.anchored file))
  pure (Anchoring.anchorIn file.dir.text source)

/-- Compiles one source. With `track` its dependencies are reported first. -/
def compile (b : Builder W) (path : Path) (source : Text) (track : Bool) (options : List Text) :
    Action W BuildError Text := do
  if track then followReferences path source
  let anchored ← anchorReferences path source
  let args := b.options.merged options
  Action.emit [.compiling path args, .compilingText anchored args]
  (b.compiler.compileSource anchored args).mapError (.compile path)

def compileWithDependencies (b : Builder W) (path : Path) (options : List Text) :
    Action W BuildError Compiled := do
  let source ← readFile path
  let (js, events) ← (b.compile path source true options).listen
  pure ⟨js, Dependencies.empty.addAll (Event.dependencies events)⟩

/-- Builds a project; a build that failed is still a result. -/
def compileProjectFile (b : Builder W) (path : Path) : Action W BuildError ProjectResult := do
  let manifest ← Action.ofExcept (Manifest.read (← Action.files) path)
  Action.emit ((PathSet.empty.insertAll manifest.files).toList.map .listed)
  Action.emit [.building path]
  let output ← (b.compiler.buildProject path).mapError .launch
  if (← Action.files).present manifest.outFile then
    let js ← readFile manifest.outFile
    pure ⟨output.success, some js, output.stdout, output.stderr⟩
  else pure ⟨output.success, none, output.stdout, output.stderr⟩

/-- Builds a project and returns its output, if it left one. -/
def compileProject (b : Builder W) (path : Path) : Action W BuildError (Option Text) := do
  Action.emit [.projectStarted path]
  let result ← b.compileProjectFile path
  if !result.success then Action.fail (.projectBuild (result.stderr ++ result.stdout))
  else
    if result.js.isNone then Action.emit [.projectWithoutOutput path]
    pure result.js

/-- Compiles whatever the name of the path says it is. -/
def process (b : Builder W) (path : Path) : Action W BuildError (Option Text) := do
  match AssetKind.ofPath? path with
  | some .script =>
    let source ← readFile path
    let js ← b.compile path source true []
    pure (some js)
  | some .project => b.compileProject path
  | none => Action.fail (.unknownAsset path)

end Builder
end TripleSlash
