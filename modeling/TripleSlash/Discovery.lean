import TripleSlash.Files

/-! Every file that is reachable through reference directives, found depth first and in the
order of the directives. The walk keeps a stack of open files; each step closes the top
file, passes over a directive whose target is known, or reads the target and opens it. It
ends because a target that is opened is one of finitely many readable paths and is known
from then on. -/
namespace TripleSlash

namespace Discovery

/-- An open file and its directives that are still to be followed. -/
structure Frame where
  file : Path
  pending : List Directive
deriving DecidableEq, Repr

def Frame.ofSource (file : Path) (source : Text) : Frame := ⟨file, Directive.scan source⟩

def Frame.target (frame : Frame) (d : Directive) : Path := d.target frame.file.dir

def Frame.origin (frame : Frame) (d : Directive) : Origin := ⟨frame.file, d.line, d.sourceSpan⟩

/-- One turn of the walk. -/
inductive Step where
  | closed (file : Path)
  | known (target : Path)
  | found (target file : Path) (line : Nat)
deriving DecidableEq, Repr

def Step.found? : Step → Option Path
  | found target _ _ => some target
  | _ => none

/-- What a walk did, what it has seen at its end and, if it broke off, why. -/
structure Walk where
  steps : List Step
  visited : PathSet
  failure : Option ReferenceError

namespace Walk

def found (w : Walk) : List Path := w.steps.filterMap Step.found?

def after (step : Step) (w : Walk) : Walk := { w with steps := step :: w.steps }

end Walk

/-- The turns that a stack of open files still takes if nothing new is found. -/
def turns : List Frame → Nat
  | [] => 0
  | frame :: stack => frame.pending.length + 1 + turns stack

def walk (files : Files) (visited : PathSet) : List Frame → Walk
  | [] => ⟨[], visited, none⟩
  | ⟨file, []⟩ :: stack => (walk files visited stack).after (.closed file)
  | ⟨file, d :: pending⟩ :: stack =>
    let target := d.target file.dir
    if _ : visited.contains target = true then
      (walk files visited (⟨file, pending⟩ :: stack)).after (.known target)
    else
      match _ : files.read target with
      | .error cause =>
        ⟨[], visited, some (.fileRead target (some ⟨file, d.line, d.sourceSpan⟩) cause)⟩
      | .ok source =>
        (walk files (visited.insert target)
          (.ofSource target source :: ⟨file, pending⟩ :: stack)).after
            (.found target file d.line)
termination_by stack => (files.unread visited, turns stack)
decreasing_by
  · exact Prod.Lex.right _ (by simp [turns])
  · exact Prod.Lex.right _ (by simp [turns])
  · exact Prod.Lex.left _ _ (Files.unread_insert_lt
      (by simpa using ‹¬ visited.contains target = true›) ‹files.read target = _›)

section Turns
variable {files : Files} {visited : PathSet} {file : Path} {d : Directive}
  {pending : List Directive} {stack : List Frame}

theorem walk_nil : walk files visited [] = ⟨[], visited, none⟩ := by
  rw [walk]

theorem walk_closed :
    walk files visited (⟨file, []⟩ :: stack) = (walk files visited stack).after (.closed file) := by
  rw [walk]

theorem walk_known (known : visited.contains (d.target file.dir) = true) :
    walk files visited (⟨file, d :: pending⟩ :: stack) =
      (walk files visited (⟨file, pending⟩ :: stack)).after (.known (d.target file.dir)) := by
  rw [walk]
  simp only [known, dif_pos]

theorem walk_unreadable {cause : IoError} (fresh : visited.contains (d.target file.dir) = false)
    (failed : files.read (d.target file.dir) = .error cause) :
    walk files visited (⟨file, d :: pending⟩ :: stack) =
      ⟨[], visited, some (.fileRead (d.target file.dir)
        (some ⟨file, d.line, d.sourceSpan⟩) cause)⟩ := by
  rw [walk]
  simp only [fresh, Bool.false_eq_true, dif_neg, not_false_eq_true]
  split
  · simp_all
  · simp_all

theorem walk_found {source : Text} (fresh : visited.contains (d.target file.dir) = false)
    (readable : files.read (d.target file.dir) = .ok source) :
    walk files visited (⟨file, d :: pending⟩ :: stack) =
      (walk files (visited.insert (d.target file.dir))
        (.ofSource (d.target file.dir) source :: ⟨file, pending⟩ :: stack)).after
          (.found (d.target file.dir) file d.line) := by
  rw [walk]
  simp only [fresh, Bool.false_eq_true, dif_neg, not_false_eq_true]
  split
  · simp_all
  · simp_all

end Turns

/-- Walks from an entry file, which is marked as visited but is not a find. Its text is
`source`, or what is read if there is none. -/
def discover (files : Files) (entry : Path) (source : Option Text) (visited : PathSet) : Walk :=
  match files.absolute entry with
  | .error error => ⟨[], visited, some error⟩
  | .ok file =>
    let visited := visited.insert file
    match source.elim (files.read file) .ok with
    | .error cause => ⟨[], visited, some (.fileRead file none cause)⟩
    | .ok text => walk files visited [.ofSource file text]

section Entries
variable {files : Files} {entry file : Path} (source : Option Text) {visited : PathSet}

theorem discover_lost {error : ReferenceError} (lost : files.absolute entry = .error error) :
    discover files entry source visited = ⟨[], visited, some error⟩ := by
  simp only [discover, lost]

theorem discover_unreadable {cause : IoError} (located : files.absolute entry = .ok file)
    (failed : source.elim (files.read file) .ok = .error cause) :
    discover files entry source visited =
      ⟨[], visited.insert file, some (.fileRead file none cause)⟩ := by
  simp only [discover, located, failed]

theorem discover_opened {text : Text} (located : files.absolute entry = .ok file)
    (opened : source.elim (files.read file) .ok = .ok text) :
    discover files entry source visited =
      walk files (visited.insert file) [.ofSource file text] := by
  simp only [discover, located, opened]

/-- A walk fails before it finds anything, or it has opened its entry. -/
theorem discover_cases (files : Files) (entry : Path) (visited : PathSet) :
    (∃ error, (discover files entry source visited).failure = some error ∧
      (discover files entry source visited).found = []) ∨
    ∃ file text, files.absolute entry = .ok file ∧
      source.elim (files.read file) .ok = .ok text ∧
      discover files entry source visited =
        walk files (visited.insert file) [.ofSource file text] := by
  cases located : files.absolute entry with
  | error error =>
    rw [discover_lost source located]
    exact Or.inl ⟨error, rfl, rfl⟩
  | ok file =>
    cases opened : source.elim (files.read file) .ok with
    | error cause =>
      rw [discover_unreadable source located opened]
      exact Or.inl ⟨_, rfl, rfl⟩
    | ok text => exact Or.inr ⟨file, text, rfl, opened, discover_opened source located opened⟩

end Entries

/-- The files reachable from an entry, without it, in the order of their discovery. -/
def collect (files : Files) (entry : Path) (source : Option Text) :
    Except ReferenceError (List Path) :=
  let w := discover files entry source .empty
  match w.failure with
  | none => .ok w.found
  | some error => .error error

end Discovery
end TripleSlash
