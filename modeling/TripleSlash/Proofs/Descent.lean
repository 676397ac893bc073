import TripleSlash.Discovery

/-! The walk over references as a recursion. A file is passed through directive by directive,
and a target that is new is read, marked, reported and passed through before the next
directive of the file. The walk with its stack of open files does the same, since each open
file on the stack stands for a recursion that is still pending. -/
namespace TripleSlash.Discovery

/-- What a walk found, what it has seen at its end and, if it broke off, why. -/
structure Descent where
  found : List Path
  visited : PathSet
  failure : Option ReferenceError
deriving DecidableEq, Repr

namespace Descent

def report (target : Path) (d : Descent) : Descent := { d with found := target :: d.found }

/-- What comes of going on with `next`, unless the first part broke off. -/
def andThen (first next : Descent) : Descent :=
  match first.failure with
  | none => ⟨first.found ++ next.found, next.visited, next.failure⟩
  | some _ => first

theorem andThen_of_done {first : Descent} (done : first.failure = none) (next : Descent) :
    first.andThen next = ⟨first.found ++ next.found, next.visited, next.failure⟩ := by
  simp [andThen, done]

theorem andThen_of_broken {first : Descent} {error : ReferenceError}
    (broken : first.failure = some error) (next : Descent) : first.andThen next = first := by
  simp [andThen, broken]

theorem andThen_assoc (a b c : Descent) : (a.andThen b).andThen c = a.andThen (b.andThen c) := by
  cases ha : a.failure with
  | some error => simp only [andThen_of_broken ha]
  | none =>
    cases hb : b.failure with
    | some error => simp only [andThen, ha, hb]
    | none => simp only [andThen, ha, hb, List.append_assoc]

theorem report_andThen (target : Path) (a b : Descent) :
    (a.report target).andThen b = (a.andThen b).report target := by
  cases ha : a.failure <;> simp [andThen, report, ha]

end Descent

def Walk.outcome (w : Walk) : Descent := ⟨w.found, w.visited, w.failure⟩

section Outcome
variable (w : Walk) (file target : Path) (line : Nat)

theorem outcome_closed : (w.after (.closed file)).outcome = w.outcome := rfl

theorem outcome_known : (w.after (.known target)).outcome = w.outcome := rfl

theorem outcome_found : (w.after (.found target file line)).outcome = w.outcome.report target := rfl

end Outcome

/-- The recursion through the directives `pending` of `file`, in order. -/
inductive Descends (files : Files) : PathSet → Path → List Directive → Descent → Prop where
  | done {visited file} : Descends files visited file [] ⟨[], visited, none⟩
  | known {visited file d pending outcome} : visited.contains (d.target file.dir) = true →
      Descends files visited file pending outcome →
      Descends files visited file (d :: pending) outcome
  | unreadable {visited file d pending cause} : visited.contains (d.target file.dir) = false →
      files.read (d.target file.dir) = .error cause →
      Descends files visited file (d :: pending) ⟨[], visited,
        some (.fileRead (d.target file.dir) (some ⟨file, d.line, d.sourceSpan⟩) cause)⟩
  | broken {visited file d pending source inside error} :
      visited.contains (d.target file.dir) = false →
      files.read (d.target file.dir) = .ok source →
      Descends files (visited.insert (d.target file.dir)) (d.target file.dir)
        (Directive.scan source) inside →
      inside.failure = some error →
      Descends files visited file (d :: pending) (inside.report (d.target file.dir))
  | entered {visited file d pending source inside rest} :
      visited.contains (d.target file.dir) = false →
      files.read (d.target file.dir) = .ok source →
      Descends files (visited.insert (d.target file.dir)) (d.target file.dir)
        (Directive.scan source) inside →
      inside.failure = none →
      Descends files inside.visited file pending rest →
      Descends files visited file (d :: pending)
        ((inside.andThen rest).report (d.target file.dir))

namespace Descends
variable {files : Files} {visited : PathSet} {file : Path} {pending : List Directive}
  {outcome : Descent}

/-- The set of visited files grows by the finds, in their order. -/
theorem visited_eq (h : Descends files visited file pending outcome) :
    outcome.visited.toList = visited.toList ++ outcome.found := by
  induction h with
  | done | unreadable => simp only [List.append_nil]
  | known _ _ ih => exact ih
  | broken fresh _ _ _ ih =>
    simp only [Descent.report, ih, PathSet.toList_insert fresh, List.append_assoc,
      List.singleton_append]
  | entered fresh _ _ done _ inside later =>
    simp only [Descent.report, Descent.andThen_of_done done, later, inside,
      PathSet.toList_insert fresh, List.append_assoc, List.cons_append, List.nil_append]

theorem mem_visited (h : Descends files visited file pending outcome) (p : Path) :
    PathSet.Mem p outcome.visited ↔ PathSet.Mem p visited ∨ ∃ q ∈ outcome.found, Path.Same q p := by
  simp only [PathSet.Mem, h.visited_eq, List.mem_append, or_and_right, exists_or]

theorem grows (h : Descends files visited file pending outcome) (p : Path)
    (seen : PathSet.Mem p visited) : PathSet.Mem p outcome.visited :=
  (h.mem_visited p).mpr (Or.inl seen)

/-- Every open file of the stack is a recursion that is still to be done: the walk does the
one on top and goes on with the stack below it. -/
theorem outcome_walk (h : Descends files visited file pending outcome) (stack : List Frame) :
    (walk files visited (⟨file, pending⟩ :: stack)).outcome =
      outcome.andThen (walk files outcome.visited stack).outcome := by
  induction h generalizing stack with
  | done => rw [walk_closed, outcome_closed]; rfl
  | known seen _ ih => rw [walk_known seen, outcome_known, ih]
  | unreadable fresh failed => rw [walk_unreadable fresh failed]; rfl
  | broken fresh readable _ broken ih =>
    rw [walk_found fresh readable, outcome_found, Frame.ofSource, ih,
      Descent.andThen_of_broken broken, Descent.andThen_of_broken]
    exact broken
  | @entered visited file d pending source inside rest fresh readable _ done _ first later =>
    have last : ((inside.andThen rest).report (d.target file.dir)).visited = rest.visited := by
      rw [Descent.report, Descent.andThen_of_done done]
    rw [walk_found fresh readable, outcome_found, Frame.ofSource, first, later,
      Descent.report_andThen, Descent.andThen_assoc, last]

/-- With nothing below it, the walk is the recursion. -/
theorem outcome_eq (h : Descends files visited file pending outcome) :
    (walk files visited [⟨file, pending⟩]).outcome = outcome := by
  rw [h.outcome_walk, walk_nil]
  cases failed : outcome.failure with
  | none => simp [Descent.andThen_of_done failed, Walk.outcome, Walk.found, ← failed]
  | some error => rw [Descent.andThen_of_broken failed]

/-- The recursion ends: a target that it goes into is readable and new. -/
theorem exists_outcome (files : Files) (visited : PathSet) (file : Path) :
    ∀ pending, ∃ outcome, Descends files visited file pending outcome
  | [] => ⟨_, .done⟩
  | d :: pending => by
    cases seen : visited.contains (d.target file.dir) with
    | true =>
      obtain ⟨outcome, h⟩ := exists_outcome files visited file pending
      exact ⟨outcome, .known seen h⟩
    | false =>
      cases result : files.read (d.target file.dir) with
      | error cause => exact ⟨_, .unreadable seen result⟩
      | ok source =>
        have fewer := Files.unread_insert_lt seen result
        obtain ⟨inside, hi⟩ := exists_outcome files (visited.insert (d.target file.dir))
          (d.target file.dir) (Directive.scan source)
        cases failed : inside.failure with
        | some error => exact ⟨_, .broken seen result hi failed⟩
        | none =>
          have less : files.unread inside.visited < files.unread visited :=
            Nat.lt_of_le_of_lt (Files.unread_le hi.grows) fewer
          obtain ⟨rest, hr⟩ := exists_outcome files inside.visited file pending
          exact ⟨_, .entered seen result hi failed hr⟩
termination_by pending => (files.unread visited, pending.length)

theorem iff_outcome : Descends files visited file pending outcome ↔
    outcome = (walk files visited [⟨file, pending⟩]).outcome := by
  constructor
  · exact fun h => h.outcome_eq.symm
  · rintro rfl
    obtain ⟨outcome, h⟩ := exists_outcome files visited file pending
    rwa [h.outcome_eq]

end Descends

/-- The recursion from an entry file, which is marked but not reported. -/
inductive DescendsFrom (files : Files) (entry : Path) (source : Option Text)
    (visited : PathSet) : Descent → Prop where
  | lost {error} : files.absolute entry = .error error →
      DescendsFrom files entry source visited ⟨[], visited, some error⟩
  | unread {file cause} : files.absolute entry = .ok file → source = none →
      files.read file = .error cause →
      DescendsFrom files entry source visited
        ⟨[], visited.insert file, some (.fileRead file none cause)⟩
  | given {file text outcome} : files.absolute entry = .ok file → source = some text →
      Descends files (visited.insert file) file (Directive.scan text) outcome →
      DescendsFrom files entry source visited outcome
  | read {file text outcome} : files.absolute entry = .ok file → source = none →
      files.read file = .ok text →
      Descends files (visited.insert file) file (Directive.scan text) outcome →
      DescendsFrom files entry source visited outcome

/-- The walk with its stack has the finds, the visited files and the failure of the recursion,
from every entry and with anything visited before. -/
theorem descendsFrom_iff (files : Files) (entry : Path) (source : Option Text)
    (visited : PathSet) (outcome : Descent) :
    DescendsFrom files entry source visited outcome ↔
      outcome = (discover files entry source visited).outcome := by
  constructor
  · intro h
    cases h with
    | lost located => rw [discover_lost source located]; rfl
    | unread located absent failed =>
      subst absent
      rw [discover_unreadable none located failed]
      rfl
    | given located supplied descent =>
      subst supplied
      rw [discover_opened (some _) located rfl]
      exact Descends.iff_outcome.mp descent
    | read located absent readable descent =>
      subst absent
      rw [discover_opened none located readable]
      exact Descends.iff_outcome.mp descent
  · rintro rfl
    cases located : files.absolute entry with
    | error error => rw [discover_lost source located]; exact .lost located
    | ok file =>
      cases source with
      | some text =>
        rw [discover_opened (some _) located rfl]
        exact .given located rfl (Descends.iff_outcome.mpr rfl)
      | none =>
        cases readable : files.read file with
        | error cause =>
          rw [discover_unreadable none located readable]
          exact .unread located rfl readable
        | ok text =>
          rw [discover_opened none located readable]
          exact .read located rfl readable (Descends.iff_outcome.mpr rfl)

end TripleSlash.Discovery
