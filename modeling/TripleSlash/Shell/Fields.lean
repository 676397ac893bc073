import TripleSlash.Shell.Pattern

/-! Fields, which words of a script are cut into once everything in them is put in place.
Only what was put in place without quotes is cut, at the separators that the script chose,
and each value of a list is a field of its own. -/
namespace TripleSlash.Shell

/-- A part of a word with everything put in place. -/
inductive Bit where
  | char (c : Char) (quoted splits : Bool)
  /-- The border between two values, and what stands there where no fields are made. -/
  | border (glue : Text)
  /-- Quotes, which make a field even around nothing. -/
  | quotes
deriving DecidableEq, Repr

namespace Bit

def ofText (t : Text) (quoted splits : Bool) : List Bit := t.map fun c => char c quoted splits

/-- The values of a list with borders between them. -/
def ofTexts (quoted : Bool) (glue : Text) : List Text → List Bit
  | [] => []
  | [t] => if quoted then .quotes :: ofText t true false else ofText t false true
  | t :: more =>
    (if quoted then .quotes :: ofText t true false else ofText t false true)
      ++ .border glue :: ofTexts quoted glue more

/-- The characters of a word that is not cut. -/
def marked (bits : List Bit) : Marked :=
  bits.flatMap fun bit => match bit with
    | .char c quoted _ => [(c, quoted)]
    | .border glue => glue.map fun c => (c, true)
    | .quotes => []

def text (bits : List Bit) : Text := (marked bits).map (·.1)

end Bit

/-- Fields in the making: the finished ones, the last first, and the one that is begun.
`cut` is set behind a field that a blank separator ended. -/
structure Fields where
  done : List Marked
  begun : Option Marked
  cut : Bool

namespace Fields

def finish (f : Fields) : Fields :=
  match f.begun with
  | none => f
  | some t => ⟨t.reverse :: f.done, none, true⟩

def add (f : Fields) (t : Marked) : Fields :=
  ⟨f.done, some (t ++ f.begun.getD []), false⟩

def isBlank (c : Char) : Bool := c == ' ' || c == '\t' || c == '\n'

/-- Separates at a character. Blank ones count together with one other between them. -/
def separate (f : Fields) (c : Char) : Fields :=
  if isBlank c then f.finish
  else if f.begun.isSome then { f.finish with cut := false }
  else if f.cut then { f with cut := false }
  else ⟨[] :: f.done, none, false⟩

def step (separators : Text) (f : Fields) : Bit → Fields
  | .char c quoted splits =>
    if splits && !quoted && separators.contains c then f.separate c else f.add [(c, quoted)]
  | .border _ => { f.finish with cut := false }
  | .quotes => f.add []

def ofBits (separators : Text) (bits : List Bit) : List Marked :=
  (bits.foldl (step separators) ⟨[], none, false⟩).finish.done.reverse

/-- The parts of a read line for a number of variables, the last of which takes all that is
left. A quoted character separates nothing. -/
def parts (separators : Text) : Nat → Marked → List Text
  | 0, _ => []
  | 1, t =>
    let isGap : Char × Bool → Bool := fun (c, quoted) =>
      !quoted && isBlank c && separators.contains c
    let rest := ((t.dropWhile isGap).reverse.dropWhile isGap).reverse
    let fields := ofBits separators (rest.map fun (c, quoted) => .char c quoted true)
    match fields with
    | [field] => [field.map (·.1)]
    | _ => [rest.map (·.1)]
  | n + 2, t =>
    let isGap : Char × Bool → Bool := fun (c, quoted) =>
      !quoted && isBlank c && separators.contains c
    let rest := t.dropWhile isGap
    let field := rest.takeWhile fun (c, quoted) => quoted || !separators.contains c
    let after := (rest.drop field.length).dropWhile isGap
    let after := match after with
      | (c, false) :: more => if separators.contains c && !isBlank c then more else after
      | _ => after
    field.map (·.1) :: parts separators (n + 1) after

end Fields
end TripleSlash.Shell
