import TripleSlash.Path

/-! The normal form of a path: dots are folded by the text alone, without a look at any
file. A `..` takes back the name before it, stays put at the root, and is kept where a
relative path begins. -/
namespace TripleSlash

namespace Part

/-- Puts one part on a stack of folded parts, whose top is the head. -/
def push : List Part → Part → List Part
  | stack, .here => stack
  | .name _ :: stack, .up => stack
  | .root :: stack, .up => .root :: stack
  | stack, part => part :: stack

def text : Part → Text
  | .root => ['/']
  | .here => ['.']
  | .up => ['.', '.']
  | .name t => t

end Part

namespace Path

def ofParts : List Part → Path
  | [] => ⟨['.']⟩
  | .root :: more => ⟨'/' :: Text.joinWith '/' (more.map Part.text)⟩
  | parts => ⟨Text.joinWith '/' (parts.map Part.text)⟩

def folded (parts : List Part) : List Part := (parts.foldl Part.push []).reverse

def normalize (p : Path) : Path := ofParts (folded p.parts)

/-- The normal form of `p` seen from the directory `base`. -/
def resolve (base p : Path) : Path := (base.join p).normalize

end Path
end TripleSlash
