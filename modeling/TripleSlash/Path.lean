import TripleSlash.Text

/-! Unix path texts and the parts they are read as. Empty segments never count, `.` counts
only as the very first segment of a relative path, and a leading slash is the root. Two
paths are the same when their parts are, however they are spelled. -/
namespace TripleSlash

inductive Part where
  | root
  | here
  | up
  | name (text : Text)
deriving DecidableEq, Repr

structure Path where
  text : Text
deriving DecidableEq, Repr

namespace Path

def ofString (s : String) : Path := ⟨s.toList⟩

def isAbsolute (p : Path) : Bool := p.text.head? == some '/'

/-- A segment behind a slash; an empty one and a dot are not seen. -/
def inner? (segment : Text) : Option Part :=
  if segment = [] ∨ segment = ['.'] then none
  else if segment = ['.', '.'] then some .up
  else some (.name segment)

def parts (p : Path) : List Part :=
  match Text.splitAt '/' p.text with
  | [] => []
  | first :: more =>
    let inside := more.filterMap inner?
    if p.isAbsolute then .root :: inside
    else if first = ['.'] then .here :: inside
    else (inner? first).toList ++ inside

def Same (p q : Path) : Prop := p.parts = q.parts

instance (p q : Path) : Decidable (Same p q) := inferInstanceAs (Decidable (_ = _))

theorem Same.refl (p : Path) : Same p p := rfl

theorem Same.symm {p q : Path} (h : Same p q) : Same q p := Eq.symm h

theorem Same.trans {p q r : Path} (h : Same p q) (k : Same q r) : Same p r := Eq.trans h k

/-- `q` seen from `p`: an absolute `q` stands for itself. -/
def join (p q : Path) : Path :=
  if q.isAbsolute then q
  else if p.text = [] ∨ p.text.getLast? = some '/' then ⟨p.text ++ q.text⟩
  else ⟨p.text ++ '/' :: q.text⟩

/-- Drops the segments at the end that are not seen. -/
def trimEnd (segments : List Text) : List Text :=
  (segments.reverse.dropWhile fun segment => (inner? segment).isNone).reverse

/-- The text in front of the last part. The root and the empty path have no parent. -/
def parent? (p : Path) : Option Path :=
  match Text.splitAt '/' p.text with
  | [] => none
  | first :: more =>
    match trimEnd more with
    | [] => if first = [] then none else some ⟨[]⟩
    | seen =>
      let text := Text.joinWith '/' (first :: trimEnd seen.dropLast)
      some ⟨if text = [] ∧ p.isAbsolute then ['/'] else text⟩

/-- The last part, if it is a name. -/
def fileName? (p : Path) : Option Text :=
  match p.parts.getLast? with
  | some (.name text) => some text
  | _ => none

/-- What follows the last dot of a file name. A dot in front of the name does not count. -/
def extension? (p : Path) : Option Text :=
  p.fileName?.bind fun name =>
    match (Text.splitAt '.' name).reverse with
    | _ :: [] => none
    | _ :: [[]] => none
    | last :: _ => some last
    | [] => none

/-- The directory that holds the file: its parent, or the path itself if it has none. -/
def dir (p : Path) : Path := p.parent?.getD p

end Path
end TripleSlash
