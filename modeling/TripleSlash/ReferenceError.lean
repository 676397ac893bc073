import TripleSlash.Directive
import TripleSlash.IoError

/-! Why references could not be followed, and the words for it. -/
namespace TripleSlash

/-- Where the directive stands that named a file. -/
structure Origin where
  file : Path
  line : Nat
  span : Span
deriving DecidableEq, Repr

inductive ReferenceError where
  /-- A file could not be read; the entry file has no origin. -/
  | fileRead (path : Path) (origin : Option Origin) (cause : IoError)
  /-- A relative path has no current directory to start from. -/
  | currentDir (path : Path) (cause : IoError)
deriving DecidableEq, Repr

namespace ReferenceError

def message : ReferenceError → Text
  | fileRead path _ cause =>
    "failed to read '".toList ++ path.text ++ "': ".toList ++ cause.message
  | currentDir path cause =>
    "cannot resolve '".toList ++ path.text ++ "' against the current directory: ".toList
      ++ cause.message

def path : ReferenceError → Path
  | fileRead path _ _ => path
  | currentDir path _ => path

def origin? : ReferenceError → Option Origin
  | fileRead _ origin _ => origin
  | currentDir _ _ => none

end ReferenceError

end TripleSlash
