import TripleSlash.CommandLine
import TripleSlash.Proofs.ProjectBuilds
import TripleSlash.Proofs.Tracking
import TripleSlash.Proofs.ScratchDirectories

/-! What a run of the command line comes to. It asks the library one thing, and hands the answer
out only when there is one: a failure leaves the standard output empty and the world as the
library left it, and so does an answer without a text. A text goes to the standard output or to a
file, as a whole and to nothing else. -/
namespace TripleSlash

namespace Builder
variable {W : Type} [HasFiles W] {b : Builder W} {w : W} {left : W → Prop} {path : Path}

end Builder

namespace CommandLine

section Answers
variable {W : Type} [HasFiles W]

/-- The builder with the compiler that is found for a path. -/
def builderAt (compilerFor : CompilerFor W) (env : Environment) (p : Path)
    (options : CompilerOptions) (w : W) : Builder W :=
  ⟨compilerFor (Compiler.Tsc.locate (HasFiles.files w) env.compiler (searchDir p)), options⟩

def unfollowed (error : ReferenceError) : Failure := .build (.references error)

/-- The source of a file with its references made absolute. -/
def anchoredFile (files : Files) (input : Path) : Except Failure Text := do
  let source ← (files.read input).mapError .input
  (Anchoring.anchor files input source).mapError unfollowed

/-- What the library says to a request, and what it leaves: the text to hand out, if there is
one. -/
def answer (compilerFor : CompilerFor W) (env : Environment) (w : W) :
    Request → Except Failure (Option Text) × W
  | .compile input _ defaults options _ _ =>
    let builder := builderAt compilerFor env input defaults w
    let compiled := builder.compileWithDependencies input options w
    ((compiled.result.mapError .build).map fun c => some c.js, compiled.world)
  | .project manifest _ _ =>
    let builder := builderAt compilerFor env manifest .standard w
    let built := builder.compileProject manifest w
    (built.result.mapError .build, built.world)
  | .deps entry _ =>
    let found := Discovery.collect (HasFiles.files w) entry none
    ((found.mapError unfollowed).map fun paths => some (pathLines "" paths), w)
  | .anchor input => ((anchoredFile (HasFiles.files w) input).map some, w)

variable {compilerFor : CompilerFor W} {env : Environment} {w : W}

end Answers

section Runs
open Machine

variable {compilerFor : CompilerFor Machine} {launch : Launcher Machine} {env : Environment}
  {m : Machine} {output : Option Path} {product : Product}

namespace AllOrNothing
variable {done : Completion × Machine} {text : Text} {file : Path}

end AllOrNothing

/-- An environment in which nothing is logged. -/
def quiet : Environment := ⟨some "off".toList, none, none⟩

end Runs
end CommandLine
end TripleSlash
