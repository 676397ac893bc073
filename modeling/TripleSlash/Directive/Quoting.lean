import TripleSlash.Text

/-! Path texts between quotes. A body is a run of units, each a plain character or a
backslash with the character behind it; escaping puts a backslash before the quote and
before every backslash, and decoding takes just those backslashes away. -/
namespace TripleSlash

inductive Quote where
  | double
  | single
deriving DecidableEq, Repr

namespace Quote

def char : Quote → Char
  | double => '"'
  | single => '\''

def ofChar? (c : Char) : Option Quote :=
  if c = '"' then some double else if c = '\'' then some single else none

theorem ofChar?_eq_some_iff {c : Char} {q : Quote} : ofChar? c = some q ↔ c = q.char := by
  unfold ofChar?
  split
  · subst c; cases q <;> simp [char]
  · split
    · subst c; cases q <;> simp [char]
    · cases q <;> simp_all [char]

def escape (q : Quote) : Text → Text
  | [] => []
  | c :: rest => if c = q.char ∨ c = '\\' then '\\' :: c :: escape q rest else c :: escape q rest

/-- A backslash before any other character than these two is an ordinary one. -/
def decode (q : Quote) : Text → Text
  | '\\' :: c :: rest =>
    if c = q.char ∨ c = '\\' then c :: decode q rest else '\\' :: c :: decode q rest
  | c :: rest => c :: decode q rest
  | [] => []

/-- Splits at the first quote that no backslash guards. A backslash guards any character
but a line feed, in front of which there is no body at all. -/
def takeBody (q : Quote) : Text → Option (Text × Text)
  | '\\' :: c :: rest =>
    if c = '\n' then none
    else (takeBody q rest).map fun (body, tail) => ('\\' :: c :: body, tail)
  | c :: rest =>
    if c = q.char then some ([], rest)
    else if c = '\\' then none
    else (takeBody q rest).map fun (body, tail) => (c :: body, tail)
  | [] => none

end Quote
end TripleSlash
