import TripleSlash.BuildError
import TripleSlash.Manifest.Shape

/-! Project manifests. Their paths are relative to the directory of the manifest. -/
namespace TripleSlash

structure Manifest where
  path : Path
  /-- The output that all inputs are combined in. -/
  outFile : Path
  /-- The inputs in the order of the manifest. -/
  files : List Path
deriving DecidableEq, Repr

namespace Manifest

def ofWritten (path : Path) (written : Written) : Manifest where
  path
  outFile := path.dir.resolve ⟨written.outFile⟩
  files := written.files.map fun file => path.dir.resolve ⟨file⟩

/-- The manifest with this content at this path. -/
def parse (files : Files) (p : Path) (content : Text) : Except BuildError Manifest := do
  let path ← (files.absolute p).mapError .references
  let written ← (Written.ofText content).mapError fun fault =>
    .manifestParse path (fault.located content)
  .ok (ofWritten path written)

def read (files : Files) (p : Path) : Except BuildError Manifest := do
  let content ← (files.read p).mapError (.manifestRead p)
  parse files p content

end Manifest
end TripleSlash
