import TripleSlash.Proofs.Reports

/-! Dependencies that are shared by all that is asked of builders in the course of a run. The files
and the compiler may be others each time, and any task may fail anywhere; the shared list still
holds every report once, where it was made first, and after a source was compiled it holds all
that the source reaches. -/
namespace TripleSlash

/-- What a builder can be asked for, with reports to the dependencies. -/
inductive Task where
  | compile (path : Path) (source : Text) (options : List Text)
  | compileProject (manifest : Path)
  | compileProjectFile (manifest : Path)
  | process (path : Path)
deriving DecidableEq, Repr

namespace Builder

variable {W : Type} [HasFiles W]

/-- Does what is asked for. The output is of no concern here. -/
def perform (b : Builder W) : Task → Action W BuildError Unit
  | .compile path source options => discard (b.compile path source true options)
  | .compileProject manifest => discard (b.compileProject manifest)
  | .compileProjectFile manifest => discard (b.compileProjectFile manifest)
  | .process path => discard (b.process path)

theorem perform_emits (b : Builder W) (task : Task) :
    (b.perform task).EmitsOnly Event.reportsResolved := by
  cases task with
  | compile path source options => exact (b.compile_emits path source true options).discard
  | compileProject manifest => exact (b.compileProject_emits manifest).discard
  | compileProjectFile manifest => exact (b.compileProjectFile_emits manifest).discard
  | process path => exact (b.process_emits path).discard

/-- After a walk that ended a source is compiled as it is without tracking. -/
theorem compile_followed (b : Builder W) {path : Path} {source : Text} (options : List Text) {w : W}
    (ended : (walkOf path source w).failure = none) :
    b.compile path source true options w =
      (b.compile path source false options w).after
        ((walkOf path source w).steps.map .walked) := by
  have followed := followReferences_ended ended
  rw [compile_tracked, Action.bind_after (congrArg Outcome.result followed), followed]

/-- A source that was compiled has reported what its walk found, and the walk has ended. -/
theorem compile_done {b : Builder W} {path : Path} {source js : Text} {options : List Text} {w : W}
    (done : (b.compile path source true options w).result = .ok js) :
    (walkOf path source w).failure = none ∧
      Event.dependencies (b.compile path source true options w).events =
        (walkOf path source w).found := by
  cases failed : (walkOf path source w).failure with
  | some error =>
    have broken := congrArg Outcome.result (followReferences_broken failed)
    rw [compile_tracked, Action.bind_of_error broken] at done
    contradiction
  | none =>
    obtain ⟨file, located⟩ := Discovery.located_of_ended failed
    have silent := (callsOnce_untracked b source options located).dependencies
    refine ⟨rfl, ?_⟩
    rw [compile_followed b options failed, Outcome.events_after, Event.dependencies_append,
      Event.dependencies_walked, silent, List.append_nil]

theorem process_script {b : Builder W} {path : Path} {source : Text} {w : W}
    (script : AssetKind.ofPath? path = some .script)
    (read : (HasFiles.files w).read path = .ok source) :
    b.process path w =
      ⟨(b.compile path source true [] w).result.map some, (b.compile path source true [] w).events,
        (b.compile path source true [] w).world⟩ := by
  have opened : (readFile path w).result = .ok source := by
    rw [readFile_eq, read]
    rfl
  unfold process
  rw [script, ← Action.bind_pure_eq]
  refine (Action.bind_after opened _).trans ?_
  rw [readFile_eq, Outcome.after_nil]

end Builder

/-- A task at its time: who has to do it and how things are then. -/
structure Job (W : Type) where
  builder : Builder W
  world : W
  task : Task

namespace Job

variable {W : Type} [HasFiles W]

def outcome (job : Job W) : Outcome W BuildError Unit := job.builder.perform job.task job.world

def files (job : Job W) : Files := HasFiles.files job.world

/-- The files that the job reports, also if it fails in the end. -/
def reports (job : Job W) : List Path := Event.dependencies job.outcome.events

/-- The job is to compile this source of the file at `path`. -/
inductive Compiles (job : Job W) (path : Path) (source : Text) : Prop where
  | given {options} : job.task = .compile path source options → Compiles job path source
  | read : job.task = .process path → AssetKind.ofPath? path = some .script →
      job.files.read path = .ok source → Compiles job path source

theorem done_of_map {ε α β : Type} {result : Except ε α} {f : α → β} {value : β}
    (done : result.map f = .ok value) : ∃ first, result = .ok first := by
  cases result with
  | error e => contradiction
  | ok first => exact ⟨first, rfl⟩

/-- A job that compiled a source has reported what the walk over the source found. -/
theorem reports_walk {job : Job W} {path : Path} {source : Text}
    (compiles : job.Compiles path source) (done : job.outcome.result = .ok ()) :
    (Builder.walkOf path source job.world).failure = none ∧
      job.reports = (Builder.walkOf path source job.world).found := by
  cases compiles with
  | given task =>
    rw [reports]
    rw [outcome, task, Builder.perform, Action.discard_eq] at done ⊢
    obtain ⟨js, compiled⟩ := done_of_map done
    exact Builder.compile_done compiled
  | read task script read =>
    rw [reports]
    rw [outcome, task, Builder.perform, Action.discard_eq, Builder.process_script script read] at done ⊢
    obtain ⟨output, processed⟩ := done_of_map done
    obtain ⟨js, compiled⟩ := done_of_map processed
    exact Builder.compile_done compiled

/-- What a source reaches has been reported once the source is compiled. -/
theorem reports_reached {job : Job W} {path : Path} {source : Text}
    (compiles : job.Compiles path source) (done : job.outcome.result = .ok ()) :
    ∃ entry, job.files.absolute path = .ok entry ∧
      ∀ p, Discovery.Reached (Discovery.textIn job.files entry (some source)) entry .empty p →
        p ∈ job.reports := by
  obtain ⟨ended, reports⟩ := reports_walk compiles done
  obtain ⟨entry, located⟩ := Discovery.located_of_ended ended
  refine ⟨entry, located, fun p reached => ?_⟩
  rw [reports]
  rw [Builder.walkOf, Discovery.discover_opened (some source) located rfl] at ended ⊢
  exact Discovery.found_of_reached (Discovery.Descends.iff_outcome.mpr rfl)
    Discovery.textIn_entry ended reached

theorem isResolved_of_reported {job : Job W} : ∀ p ∈ job.reports, p.IsResolved := fun _ member =>
  Event.isResolved_of_mem_dependencies (job.builder.perform_emits job.task job.world) member

end Job

section Sharing

variable {W : Type} [HasFiles W]

/-- What is shared after these jobs, one behind the other. -/
def shared (jobs : List (Job W)) : Dependencies :=
  jobs.foldl (fun d job => d.addAll job.reports) .empty

theorem shared_append (jobs later : List (Job W)) :
    shared (jobs ++ later) = (shared jobs).addAll (later.flatMap Job.reports) := by
  rw [shared, List.foldl_append, Dependencies.addAll, List.foldl_flatMap]
  rfl

theorem shared_eq (jobs : List (Job W)) :
    shared jobs = Dependencies.empty.addAll (jobs.flatMap Job.reports) :=
  shared_append [] jobs

/-- The dependencies are those that the jobs made known between them. -/
structure Tracks (jobs : List (Job W)) (d : Dependencies) : Prop where
  /-- All reports in order, less those that repeat an earlier one. -/
  listed : d.toList = Dependencies.withoutRepeats (jobs.flatMap Job.reports)
  contains_iff : ∀ p, d.contains p = true ↔ ∃ q ∈ d.toList, Path.Same q p
  size_eq : d.size = d.toList.length
  resolved : ∀ p ∈ d.toList, p.IsResolved
  /-- A source that was compiled reaches nothing that is not listed, as long as the way there does
  not lead back to the source itself. -/
  complete : ∀ job ∈ jobs, ∀ path source, job.Compiles path source → job.outcome.result = .ok () →
    ∃ entry, job.files.absolute path = .ok entry ∧
      ∀ p, Discovery.Reached (Discovery.textIn job.files entry (some source)) entry .empty p →
        p ∈ d.toList

/-- In any run the shared dependencies are in order after each job, and a further job only adds
to the list. -/
theorem shared_tracks (jobs : List (Job W)) : Tracks jobs (shared jobs) ∧
    ∀ later, (shared jobs).toList <+: (shared (jobs ++ later)).toList := by
  have resolved : ∀ p ∈ (shared jobs).toList, p.IsResolved := by
    intro p member
    rw [shared_eq] at member
    have reported := (Dependencies.mem_of_mem_addAll member).resolve_left List.not_mem_nil
    obtain ⟨job, -, reports⟩ := List.mem_flatMap.mp reported
    exact Job.isResolved_of_reported p reports
  have contains_iff : ∀ p, (shared jobs).contains p = true ↔
      ∃ q ∈ (shared jobs).toList, Path.Same q p := by
    intro p
    rw [shared_eq]
    exact (Dependencies.inStep_empty.addAll _).contains_iff
  refine ⟨⟨?_, contains_iff, rfl, resolved, ?_⟩, fun later => ?_⟩
  · rw [shared_eq, Dependencies.toList_addAll_empty]
  · intro job member path source compiles done
    obtain ⟨entry, located, reached⟩ := Job.reports_reached compiles done
    refine ⟨entry, located, fun p chain => ?_⟩
    have reported := reached p chain
    have known : (shared jobs).contains p = true := by
      rw [shared_eq, Dependencies.contains_addAll]
      exact Or.inr ⟨p, List.mem_flatMap.mpr ⟨job, member, reported⟩, .refl p⟩
    obtain ⟨q, listed, same⟩ := (contains_iff p).mp known
    have normal := (Path.isResolved_iff.mp (resolved q listed)).2
    rwa [← normal.eq_of_same (Path.isResolved_iff.mp (Job.isResolved_of_reported p reported)).2 same]
  · rw [shared_append]
    exact Dependencies.prefix_addAll _ _

end Sharing
end TripleSlash
