import Mathlib.Algebra.GroupWithZero.Nat
import Mathlib.Order.WellFounded
import TripleSlash.Proofs.Passes

/-! The loop of a walk, turn by turn, with the reads of each turn. It cannot turn for ever, since
each turn opens a file that was not visited, or leaves fewer directives on the stack. Whatever is
read is new, so nothing is read twice, and a walk that ends has taken as many turns as the files
that it opened have directives, and one more for each file. -/
namespace TripleSlash.Discovery

/-- One read and what came of it. -/
structure Look where
  path : Path
  result : Except IoError Text

/-- Where the loop of a walk stands. -/
structure Loop where
  visited : PathSet
  stack : List Frame

/-- A turn after which the loop goes on, with what it read. -/
inductive Turn (files : Files) : Loop → Step → List Look → Loop → Prop where
  | closed {visited file stack} :
      Turn files ⟨visited, ⟨file, []⟩ :: stack⟩ (.closed file) [] ⟨visited, stack⟩
  | known {visited file d pending stack} : visited.contains (d.target file.dir) = true →
      Turn files ⟨visited, ⟨file, d :: pending⟩ :: stack⟩ (.known (d.target file.dir)) []
        ⟨visited, ⟨file, pending⟩ :: stack⟩
  | found {visited file d pending stack source} :
      visited.contains (d.target file.dir) = false →
      files.read (d.target file.dir) = .ok source →
      Turn files ⟨visited, ⟨file, d :: pending⟩ :: stack⟩
        (.found (d.target file.dir) file d.line) [⟨d.target file.dir, .ok source⟩]
        ⟨visited.insert (d.target file.dir),
          .ofSource (d.target file.dir) source :: ⟨file, pending⟩ :: stack⟩

/-- The loop stops: no file is open any more, or a read fails. -/
inductive Halts (files : Files) : Loop → List Look → Option ReferenceError → Prop where
  | done {visited} : Halts files ⟨visited, []⟩ [] none
  | unreadable {visited file d pending stack cause} :
      visited.contains (d.target file.dir) = false →
      files.read (d.target file.dir) = .error cause →
      Halts files ⟨visited, ⟨file, d :: pending⟩ :: stack⟩ [⟨d.target file.dir, .error cause⟩]
        (some (.fileRead (d.target file.dir) (some ⟨file, d.line, d.sourceSpan⟩) cause))

/-- Turns from where the loop stands to where it stops, with all they read. -/
inductive Run (files : Files) : Loop → List Look → Walk → Prop where
  | halts {loop looks failure} : Halts files loop looks failure →
      Run files loop looks ⟨[], loop.visited, failure⟩
  | goes {loop next step looks later walk} : Turn files loop step looks next →
      Run files next later walk → Run files loop (looks ++ later) (walk.after step)

/-- What is read of the entry before the loop begins. -/
def entryLooks (files : Files) (entry : Path) : Option Text → List Look
  | some _ => []
  | none => [⟨entry, files.read entry⟩]

/-- A whole walk from an entry, with all it reads. -/
inductive Course (files : Files) (path : Path) (source : Option Text) (seen : PathSet) :
    List Look → Walk → Prop where
  | lost {error} : files.absolute path = .error error →
      Course files path source seen [] ⟨[], seen, some error⟩
  | unreadable {entry cause} : files.absolute path = .ok entry →
      source.elim (files.read entry) .ok = .error cause →
      Course files path source seen (entryLooks files entry source)
        ⟨[], seen.insert entry, some (.fileRead entry none cause)⟩
  | opened {entry text looks walk} : files.absolute path = .ok entry →
      source.elim (files.read entry) .ok = .ok text →
      Run files ⟨seen.insert entry, [.ofSource entry text]⟩ looks walk →
      Course files path source seen (entryLooks files entry source ++ looks) walk

section Ending
variable {files : Files} {loop next : Loop} {step : Step} {looks : List Look}

/-- The unread files count first, and then the turns that the open files still take. -/
noncomputable def Loop.left (files : Files) (loop : Loop) : Nat × Nat :=
  (files.unread loop.visited, turns loop.stack)

/-- Each turn leaves fewer files to read, or as many and fewer turns to take. -/
theorem Turn.left_falls (turn : Turn files loop step looks next) :
    Prod.Lex (· < ·) (· < ·) (next.left files) (loop.left files) := by
  cases turn with
  | closed =>
    apply Prod.Lex.right
    simp only [turns, List.length_nil]
    omega
  | known seen =>
    apply Prod.Lex.right
    simp only [turns, List.length_cons]
    omega
  | found fresh readable => exact Prod.Lex.left _ _ (Files.unread_insert_lt fresh readable)

theorem left_wellFounded (files : Files) :
    WellFounded fun next loop : Loop =>
      Prod.Lex (· < ·) (· < ·) (next.left files) (loop.left files) :=
  InvImage.wf (Loop.left files) (Prod.lex Nat.lt_wfRel Nat.lt_wfRel).wf

/-- The loop cannot go on turning. -/
theorem no_endless_turns (files : Files) (loops : Nat → Loop) :
    ¬ ∀ n, ∃ step looks, Turn files (loops n) step looks (loops (n + 1)) := by
  intro endless
  have chains := wellFounded_iff_isEmpty_descending_chain.mp (left_wellFounded files)
  refine chains.false ⟨loops, fun n => ?_⟩
  obtain ⟨step, looks, turn⟩ := endless n
  exact turn.left_falls

/-- Wherever the loop stands, it stops or it turns. -/
theorem Loop.halts_or_turns (files : Files) (loop : Loop) :
    (∃ looks failure, Halts files loop looks failure) ∨
      ∃ step looks next, Turn files loop step looks next := by
  obtain ⟨visited, _ | ⟨⟨file, _ | ⟨d, pending⟩⟩, stack⟩⟩ := loop
  · exact Or.inl ⟨_, _, .done⟩
  · exact Or.inr ⟨_, _, _, .closed⟩
  · cases seen : visited.contains (d.target file.dir) with
    | true => exact Or.inr ⟨_, _, _, .known seen⟩
    | false =>
      cases read : files.read (d.target file.dir) with
      | error cause => exact Or.inl ⟨_, _, .unreadable seen read⟩
      | ok source => exact Or.inr ⟨_, _, _, .found seen read⟩

/-- From wherever the loop stands, it comes to its end. -/
theorem exists_run (files : Files) (loop : Loop) : ∃ looks walk, Run files loop looks walk := by
  induction loop using (left_wellFounded files).induction with
  | h loop ih =>
    rcases loop.halts_or_turns files with ⟨looks, failure, halted⟩ | ⟨step, looks, next, turn⟩
    · exact ⟨looks, _, .halts halted⟩
    · obtain ⟨later, walk, run⟩ := ih next turn.left_falls
      exact ⟨looks ++ later, walk.after step, .goes turn run⟩

end Ending

section Reading
variable {files : Files} {loop next : Loop} {step : Step} {looks : List Look} {w : Walk}

/-- Nothing is read, or one file that was not visited. -/
inductive ReadsFresh (visited : PathSet) : List Look → Prop where
  | nothing : ReadsFresh visited []
  | one {look} : visited.contains look.path = false → ReadsFresh visited [look]

theorem ReadsFresh.fresh {visited : PathSet} (reads : ReadsFresh visited looks) :
    ∀ look ∈ looks, ¬ PathSet.Mem look.path visited := by
  cases reads with
  | nothing => exact fun look h => absurd h List.not_mem_nil
  | one fresh =>
    intro look member
    rw [List.mem_singleton.mp member]
    exact PathSet.not_mem_of_contains fresh

theorem ReadsFresh.single {visited : PathSet} (reads : ReadsFresh visited looks) :
    looks.Pairwise fun a b => ¬ Path.Same a.path b.path := by
  cases reads with
  | nothing => exact .nil
  | one _ => exact List.pairwise_singleton _ _

theorem Turn.reads (turn : Turn files loop step looks next) : ReadsFresh loop.visited looks := by
  cases turn with
  | closed | known => exact .nothing
  | found fresh _ => exact .one fresh

theorem Halts.reads {failure : Option ReferenceError} (halted : Halts files loop looks failure) :
    ReadsFresh loop.visited looks := by
  cases halted with
  | done => exact .nothing
  | unreadable fresh _ => exact .one fresh

/-- Whatever was visited stays so, and what a turn reads is visited from then on. -/
theorem Turn.grows (turn : Turn files loop step looks next) {p : Path}
    (seen : PathSet.Mem p loop.visited ∨ ∃ look ∈ looks, Path.Same look.path p) :
    PathSet.Mem p next.visited := by
  cases turn with
  | closed | known => simpa using seen
  | found _ _ =>
    refine PathSet.mem_insert.mpr (seen.imp_right fun ⟨look, member, same⟩ => ?_)
    rwa [List.mem_singleton.mp member] at same

/-- The loop reads nothing that was visited before it. -/
theorem Run.fresh (run : Run files loop looks w) :
    ∀ look ∈ looks, ¬ PathSet.Mem look.path loop.visited := by
  induction run with
  | halts halted => exact halted.reads.fresh
  | goes turn _ ih =>
    intro look member seen
    rcases List.mem_append.mp member with now | later
    · exact turn.reads.fresh look now seen
    · exact ih look later (turn.grows (Or.inl seen))

/-- No file is read in two turns, under whatever names. -/
theorem Run.distinct (run : Run files loop looks w) :
    looks.Pairwise fun a b => ¬ Path.Same a.path b.path := by
  induction run with
  | halts halted => exact halted.reads.single
  | goes turn rest ih =>
    refine List.pairwise_append.mpr ⟨turn.reads.single, ih, fun look now other later same => ?_⟩
    exact rest.fresh other later (turn.grows (Or.inr ⟨look, now, same⟩))

/-- What is read successfully is found, in this order. -/
theorem Run.found (run : Run files loop looks w) :
    (looks.filter fun look => look.result.isOk).map Look.path = w.found := by
  induction run with
  | halts halted => cases halted <;> rfl
  | goes turn _ ih =>
    rw [List.filter_append, List.map_append, ih]
    cases turn <;> rfl

end Reading

section Counting
variable {files : Files} {loop : Loop} {looks : List Look} {w : Walk}

/-- The turns that are taken for a file with this text: one for each directive, and one to close
the file. -/
def turnsFor : Except IoError Text → Nat
  | .ok text => 1 + (Directive.scan text).length
  | .error _ => 0

/-- A turn is one of those that the open files take, and a file that it opens takes its own. -/
theorem Turn.balance {next : Loop} {step : Step} (turn : Turn files loop step looks next)
    (w : Walk) :
    1 + turns next.stack + (w.found.map fun p => turnsFor (files.read p)).sum =
      turns loop.stack + ((w.after step).found.map fun p => turnsFor (files.read p)).sum := by
  cases turn with
  | @closed visited file stack =>
    have found : (w.after (.closed file)).found = w.found := rfl
    rw [found]
    simp only [turns, List.length_nil]
  | @known visited file d pending stack seen =>
    have found : (w.after (.known (d.target file.dir))).found = w.found := rfl
    rw [found]
    simp only [turns, List.length_cons]
    omega
  | @found visited file d pending stack source fresh readable =>
    have found : (w.after (.found (d.target file.dir) file d.line)).found =
        d.target file.dir :: w.found := rfl
    rw [found, List.map_cons, List.sum_cons, readable]
    simp only [turns, turnsFor, Frame.ofSource, List.length_cons]
    omega

/-- A run that ends takes the turns of the files that are open, and those of its finds. -/
theorem Run.length_steps (run : Run files loop looks w) (ended : w.failure = none) :
    w.steps.length = turns loop.stack + (w.found.map fun p => turnsFor (files.read p)).sum := by
  induction run with
  | halts halted =>
    cases halted with
    | done => rfl
    | unreadable _ _ => contradiction
  | @goes loop next step looks later walk turn _ ih =>
    have longer : (walk.after step).steps.length = walk.steps.length + 1 := rfl
    have rest := ih ended
    have balance := turn.balance walk
    omega

/-- The turns make up the walk. -/
theorem Run.walk_eq (run : Run files loop looks w) : w = walk files loop.visited loop.stack := by
  induction run with
  | halts halted =>
    cases halted with
    | done => rw [walk_nil]
    | unreadable fresh failed => rw [walk_unreadable fresh failed]
  | goes turn _ ih =>
    subst ih
    cases turn with
    | closed => rw [walk_closed]
    | known seen => rw [walk_known seen]
    | found fresh readable => rw [walk_found fresh readable]

end Counting

/-- What a walk from `entry` reads, and how many turns it takes. -/
structure Spends (files : Files) (entry : Path) (source : Option Text) (looks : List Look)
    (w : Walk) : Prop where
  /-- The entry is read first, if no text was given for it, and never again. What else is read
  successfully is found, in this order. -/
  reads : ∃ later, looks = entryLooks files entry source ++ later ∧
    (∀ look ∈ later, ¬ Path.Same look.path entry) ∧
    (later.filter fun look => look.result.isOk).map Look.path = w.found
  /-- No file is read twice, under whatever names. -/
  once : looks.Pairwise fun a b => ¬ Path.Same a.path b.path
  turns : w.failure = none →
    w.steps.length = ((entry :: w.found).map fun p => turnsFor (textIn files entry source p)).sum

section Courses
variable {files : Files} {path entry : Path} {source : Option Text} {seen : PathSet}
  {looks : List Look} {w : Walk}

theorem exists_course (files : Files) (path : Path) (source : Option Text) (seen : PathSet) :
    ∃ looks w, Course files path source seen looks w := by
  cases located : files.absolute path with
  | error error => exact ⟨_, _, .lost located⟩
  | ok entry =>
    cases opened : source.elim (files.read entry) .ok with
    | error cause => exact ⟨_, _, .unreadable located opened⟩
    | ok text =>
      obtain ⟨looks, w, run⟩ := exists_run files ⟨seen.insert entry, [.ofSource entry text]⟩
      exact ⟨_, w, .opened located opened run⟩

/-- The course of a walk is the walk. -/
theorem Course.walk_eq (course : Course files path source seen looks w) :
    w = discover files path source seen := by
  cases course with
  | lost located => rw [discover_lost source located]
  | unreadable located failed => rw [discover_unreadable source located failed]
  | opened located opened run => rw [discover_opened source located opened, run.walk_eq]

theorem entryLooks_single (files : Files) (entry : Path) (source : Option Text) :
    (entryLooks files entry source).Pairwise fun a b => ¬ Path.Same a.path b.path := by
  cases source with
  | none => exact List.pairwise_singleton _ _
  | some text => exact .nil

theorem path_of_mem_entryLooks {look : Look} (member : look ∈ entryLooks files entry source) :
    look.path = entry := by
  cases source with
  | none => rw [List.mem_singleton.mp member]
  | some text => exact absurd member List.not_mem_nil

/-- A run that starts with the entry alone open reads it no more. -/
theorem Run.spends {text : Text} (opened : textIn files entry source entry = .ok text)
    (run : Run files ⟨seen.insert entry, [.ofSource entry text]⟩ looks w) :
    Spends files entry source (entryLooks files entry source ++ looks) w := by
  have others : ∀ look ∈ looks, ¬ Path.Same look.path entry := fun look member =>
    (not_mem_insert.mp (run.fresh look member)).2
  refine ⟨⟨looks, rfl, others, run.found⟩, ?_, fun ended => ?_⟩
  · refine List.pairwise_append.mpr ⟨entryLooks_single files entry source, run.distinct, ?_⟩
    intro first start later member same
    rw [path_of_mem_entryLooks start] at same
    exact others later member same.symm
  · have finds : ∀ p ∈ w.found, textIn files entry source p = files.read p := by
      intro p member
      rw [← run.found] at member
      obtain ⟨look, there, rfl⟩ := List.mem_map.mp member
      exact textIn_other (others look (List.mem_filter.mp there).1)
    have texts : (w.found.map fun p => turnsFor (textIn files entry source p)) =
        w.found.map fun p => turnsFor (files.read p) :=
      List.map_congr_left fun p member => congrArg turnsFor (finds p member)
    have own : turns [Frame.ofSource entry text] = turnsFor (.ok text) := by
      simp only [turns, turnsFor, Frame.ofSource]
      omega
    rw [run.length_steps ended, own, List.map_cons, List.sum_cons, opened, texts]

theorem Course.spends (course : Course files path source seen looks w)
    (located : files.absolute path = .ok entry) : Spends files entry source looks w := by
  cases course with
  | lost lost => exact nomatch lost.symm.trans located
  | unreadable known failed =>
    obtain rfl := Except.ok.inj (known.symm.trans located)
    refine ⟨⟨[], (List.append_nil _).symm, ?_, rfl⟩, entryLooks_single files _ source, ?_⟩
    · exact fun look member => absurd member List.not_mem_nil
    · exact fun ended => nomatch ended
  | opened known opened run =>
    obtain rfl := Except.ok.inj (known.symm.trans located)
    exact run.spends (textIn_entry.trans opened)

end Courses

/-- A walk ends whatever the files refer to, and reads no file twice: its loop cannot turn for
ever, its course comes to an end with the outcome of the walk, and each course of it reads no more
and takes no more turns than the files that it opens call for. -/
theorem discover_ends (files : Files) :
    (∀ loops : Nat → Loop, ¬ ∀ n, ∃ step looks, Turn files (loops n) step looks (loops (n + 1))) ∧
    ∀ path source seen,
      (∃ looks, Course files path source seen looks (discover files path source seen)) ∧
      ∀ looks w, Course files path source seen looks w →
        w = discover files path source seen ∧
        ∀ entry, files.absolute path = .ok entry → Spends files entry source looks w := by
  refine ⟨no_endless_turns files, fun path source seen => ⟨?_, fun looks w course => ?_⟩⟩
  · obtain ⟨looks, w, course⟩ := exists_course files path source seen
    refine ⟨looks, ?_⟩
    rw [← course.walk_eq]
    exact course
  · exact ⟨course.walk_eq, fun entry located => course.spends located⟩

/-- The turns from the first of the two files, which refers to the other one and to itself. -/
def twoFilesSteps : List Step :=
  [.found (.ofString "/b.ts") (.ofString "/a.ts") 1, .closed (.ofString "/b.ts"),
    .known (.ofString "/a.ts"), .closed (.ofString "/a.ts")]

theorem twoFiles_course : Course twoFiles (.ofString "/x/../a.ts") none .empty
    (entryLooks twoFiles (.ofString "/a.ts") none ++ [⟨.ofString "/b.ts", .ok []⟩])
    ⟨twoFilesSteps, bothSeen, none⟩ := by
  have fresh : (PathSet.empty.insert (.ofString "/a.ts")).contains
      (toB.target (Path.ofString "/a.ts").dir) = false := by decide
  have known : bothSeen.contains (toA.target (Path.ofString "/a.ts").dir) = true := by decide
  have opens : Turn twoFiles ⟨PathSet.empty.insert (.ofString "/a.ts"),
      [⟨.ofString "/a.ts", [toB, toA]⟩]⟩ (.found (.ofString "/b.ts") (.ofString "/a.ts") 1)
      [⟨.ofString "/b.ts", .ok []⟩]
      ⟨bothSeen, [⟨.ofString "/b.ts", []⟩, ⟨.ofString "/a.ts", [toA]⟩]⟩ := .found fresh rfl
  have passes : Turn twoFiles ⟨bothSeen, [⟨.ofString "/a.ts", [toA]⟩]⟩ (.known (.ofString "/a.ts"))
      [] ⟨bothSeen, [⟨.ofString "/a.ts", []⟩]⟩ := .known known
  exact .opened rfl rfl (.goes opens (.goes .closed (.goes passes (.goes .closed (.halts .done)))))

theorem twoFiles_spent :
    Course twoFiles (.ofString "/x/../a.ts") none .empty
      (entryLooks twoFiles (.ofString "/a.ts") none ++ [⟨.ofString "/b.ts", .ok []⟩])
      ⟨twoFilesSteps, bothSeen, none⟩ ∧
    Spends twoFiles (.ofString "/a.ts") none
      (entryLooks twoFiles (.ofString "/a.ts") none ++ [⟨.ofString "/b.ts", .ok []⟩])
      ⟨twoFilesSteps, bothSeen, none⟩ := by
  have outcome := ((discover_ends twoFiles).2 (.ofString "/x/../a.ts") none .empty).2 _ _
    twoFiles_course
  exact ⟨twoFiles_course, outcome.2 (.ofString "/a.ts") rfl⟩

end TripleSlash.Discovery
