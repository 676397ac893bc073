import TripleSlash.Discovery
import TripleSlash.Json.Fault

/-! Why an asset was not compiled, and the words for it. -/
namespace TripleSlash

inductive BuildError where
  | references (error : ReferenceError)
  /-- The compiler rejected a source. -/
  | compile (path : Path) (message : Text)
  /-- A project build failed; its error output and then its output. -/
  | projectBuild (output : Text)
  | manifestRead (path : Path) (cause : IoError)
  | manifestParse (path : Path) (complaint : Json.Complaint)
  | launch (cause : IoError)
  | io (path : Path) (cause : IoError)
  | unknownAsset (path : Path)
deriving DecidableEq, Repr

def BuildError.message : BuildError → Text
  | references error => error.message
  | compile path message =>
    "Typescript error in file '".toList ++ path.text ++ "':\n".toList ++ message
  | projectBuild output => output
  | manifestRead path cause =>
    "failed to read manifest '".toList ++ path.text ++ "': ".toList ++ cause.message
  | manifestParse path complaint =>
    "invalid manifest '".toList ++ path.text ++ "': ".toList ++ complaint.message
  | launch cause => "failed to launch compiler: ".toList ++ cause.message
  | io path cause => "failed to read '".toList ++ path.text ++ "': ".toList ++ cause.message
  | unknownAsset path => "no compile step for '".toList ++ path.text ++ ['\'']

end TripleSlash
