import TripleSlash.Proofs.Tracking

/-! What is reported as a dependency, be it found by a walk or listed in a manifest, is named by a
path from the root without detours, whatever is done and whether it succeeds or not. -/
namespace TripleSlash

/-- The event reports no file, or reports it by a path without detours. -/
def Event.reportsResolved (event : Event) : Bool :=
  event.dependency?.all fun p => decide p.IsResolved

theorem Event.reportsResolved_of_silent {event : Event} (silent : event.dependency? = none) :
    event.reportsResolved = true := by
  rw [reportsResolved, silent]
  rfl

theorem Event.isResolved_of_mem_dependencies {events : List Event}
    (all : ∀ event ∈ events, event.reportsResolved = true) {p : Path}
    (member : p ∈ dependencies events) : p.IsResolved := by
  obtain ⟨event, there, reports⟩ := List.mem_filterMap.mp member
  have resolved := all event there
  rw [reportsResolved, reports] at resolved
  exact of_decide_eq_true resolved

/-- The files of a manifest lie below its directory, or wherever else they are said to lie. -/
theorem Manifest.isResolved_of_read {files : Files} {path : Path} {manifest : Manifest}
    (known : read files path = .ok manifest) : ∀ file ∈ manifest.files, file.IsResolved := by
  cases content : files.read path with
  | error cause => simp [read, content, bind, Except.bind, Except.mapError] at known
  | ok text =>
    cases located : files.absolute path with
    | error error =>
      simp [read, parse, content, located, bind, Except.bind, Except.mapError] at known
    | ok own =>
      cases written : Written.ofText text with
      | error fault =>
        simp [read, parse, content, located, written, bind, Except.bind, Except.mapError] at known
      | ok written' =>
        simp only [read, parse, content, located, written, bind, Except.bind, Except.mapError,
          Except.ok.injEq] at known
        subst known
        intro file member
        obtain ⟨text, -, rfl⟩ := List.mem_map.mp member
        exact Path.isResolved_resolve (Files.absolute_resolved located).isAbsolute_dir _

namespace Discovery
variable {files : Files} {path : Path} {source : Option Text} {seen : PathSet}

theorem Descends.found_resolved {visited : PathSet} {file : Path} {pending : List Directive}
    {outcome : Descent} (h : Descends files visited file pending outcome) (start : file.IsResolved) :
    ∀ p ∈ outcome.found, p.IsResolved := by
  have passes : PassesOn files .empty Path.IsResolved := fun file _ resolved _ d _ _ =>
    Path.isResolved_resolve resolved.isAbsolute_dir d.path
  have begins : Begins .empty file pending Path.IsResolved := fun d _ _ =>
    Path.isResolved_resolve start.isAbsolute_dir d.path
  exact (h.looks_only passes (fun p seen => by simp [PathSet.Mem, PathSet.empty] at seen) begins).1

theorem found_resolved : ∀ p ∈ (discover files path source seen).found, p.IsResolved := by
  rcases discover_cases source files path seen with ⟨_, _, nothing⟩ | ⟨file, text, located, _, walked⟩
  · rw [nothing]
    exact fun p member => absurd member List.not_mem_nil
  · rw [walked]
    exact (Descends.iff_outcome.mpr rfl).found_resolved (Files.absolute_resolved located)

theorem walked_resolved :
    ∀ event ∈ (discover files path source seen).steps.map Event.walked,
      event.reportsResolved = true := by
  intro event member
  obtain ⟨step, there, rfl⟩ := List.mem_map.mp member
  cases step with
  | closed | known => rfl
  | found target file line =>
    have found : target ∈ (discover files path source seen).found :=
      List.mem_filterMap.mpr ⟨_, there, rfl⟩
    exact decide_eq_true (found_resolved target found)

end Discovery

namespace Builder

variable {W : Type} (b : Builder W)

theorem compileSource_emits (source : Text) (args : List Text) :
    (b.compiler.compileSource source args).EmitsOnly Event.reportsResolved :=
  (b.compiler.source_events source args).mono fun _ start =>
    Event.reportsResolved_of_silent (Event.dependency?_of_isStart start)

theorem buildProject_emits (manifest : Path) :
    (b.compiler.buildProject manifest).EmitsOnly Event.reportsResolved :=
  (b.compiler.project_events manifest).mono fun _ start =>
    Event.reportsResolved_of_silent (Event.dependency?_of_isStart start)

variable [HasFiles W]

theorem readFile_emits (path : Path) :
    (readFile path : Action W BuildError Text).EmitsOnly Event.reportsResolved :=
  .bind .files fun _ => .ofExcept _

theorem followReferences_emits (path : Path) (source : Text) :
    (followReferences path source : Action W BuildError Unit).EmitsOnly Event.reportsResolved := by
  refine .bind .files fun files => .bind (.emit Discovery.walked_resolved) fun _ => ?_
  split
  · exact .fail _
  · exact .pure _

theorem anchorReferences_emits (path : Path) (source : Text) :
    (anchorReferences path source : Action W BuildError Text).EmitsOnly Event.reportsResolved := by
  refine .bind .files fun files => .bind (.ofExcept _) fun file => .bind (.emit ?_) fun _ => .pure _
  intro event member
  obtain ⟨change, -, rfl⟩ := List.mem_map.mp member
  rfl

theorem compile_emits (path : Path) (source : Text) (track : Bool) (options : List Text) :
    (b.compile path source track options).EmitsOnly Event.reportsResolved := by
  have untracked : (b.compile path source false options).EmitsOnly Event.reportsResolved := by
    refine .bind (anchorReferences_emits path source) fun anchored => .bind (.emit ?_) fun _ =>
      (b.compileSource_emits _ _).mapError _
    simp [Event.reportsResolved, Event.dependency?]
  cases track with
  | false => exact untracked
  | true =>
    rw [compile_tracked]
    exact .bind (followReferences_emits path source) fun _ => untracked

theorem compileProjectFile_emits (path : Path) :
    (b.compileProjectFile path).EmitsOnly Event.reportsResolved := by
  refine .bind .files fun files => .ofExcept_bind fun manifest known => .bind (.emit ?_) fun _ =>
    .bind (.emit ?_) fun _ => .bind ((b.buildProject_emits path).mapError _) fun output =>
    .bind .files fun left => ?_
  · intro event member
    obtain ⟨file, listed, rfl⟩ := List.mem_map.mp member
    have written : file ∈ manifest.files :=
      (PathSet.mem_of_mem_insertAll listed).resolve_left List.not_mem_nil
    exact decide_eq_true (Manifest.isResolved_of_read known file written)
  · simp [Event.reportsResolved, Event.dependency?]
  · split
    · exact .bind (readFile_emits _) fun _ => .pure _
    · exact .pure _

theorem compileProject_emits (path : Path) :
    (b.compileProject path).EmitsOnly Event.reportsResolved := by
  refine .bind (.emit ?_) fun _ => .bind (b.compileProjectFile_emits path) fun result => ?_
  · simp [Event.reportsResolved, Event.dependency?]
  · split
    · exact .fail _
    · split
      · refine .bind (.emit ?_) fun _ => .pure _
        simp [Event.reportsResolved, Event.dependency?]
      · exact .pure _

theorem process_emits (path : Path) : (b.process path).EmitsOnly Event.reportsResolved := by
  unfold process
  split
  · exact .bind (readFile_emits path) fun source =>
      .bind (b.compile_emits path source true []) fun _ => .pure _
  · exact b.compileProject_emits path
  · exact .fail _

end Builder
end TripleSlash
