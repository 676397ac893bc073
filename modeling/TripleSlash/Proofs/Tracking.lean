import TripleSlash.Builder
import TripleSlash.Proofs.AnchoredScan
import TripleSlash.Proofs.Reachability

/-! Compilations with their dependencies. What a walk over the source reports is all that the
anchored source refers to, although the compiler is given another text than the one that was
walked over. A walk that breaks off keeps the compiler from being called. -/
namespace TripleSlash

namespace Discovery

section Supplied
variable {files : Files} {path file : Path} {source : Text}

/-- A walk that ends has found the absolute form of its entry. -/
theorem located_of_ended {given : Option Text} {seen : PathSet}
    (ended : (discover files path given seen).failure = none) :
    ∃ file, files.absolute path = .ok file := by
  rcases discover_cases given files path seen with ⟨_, failed, _⟩ | ⟨file, _, located, _⟩
  · exact nomatch ended.symm.trans failed
  · exact ⟨file, located⟩

end Supplied
end Discovery

namespace Builder

variable {W : Type} {path file : Path} {source : Text} {w : W}

/-- The run reports these paths and then calls the compiler, once, for this text and with
these arguments; the rest is up to the compiler, which reports nothing and does not call itself. -/
structure CallsOnce (b : Builder W) (path : Path) (reported : List Path) (text : Text)
    (args : List Text) (w : W) (run : Outcome W BuildError Text) : Prop where
  order : ∃ before, Event.dependencies before = reported ∧
    (∀ event ∈ before, event.isCall = false) ∧
    run.events =
      before ++ .compilingText text args :: (b.compiler.compileSource text args w).events
  quiet : ∀ event ∈ (b.compiler.compileSource text args w).events,
    event.isCall = false ∧ event.dependency? = none
  result : run.result = (b.compiler.compileSource text args w).result.mapError (.compile path)
  world : run.world = (b.compiler.compileSource text args w).world

section CallsOnce
variable {b : Builder W} {reported : List Path} {text : Text} {args : List Text}
  {run : Outcome W BuildError Text}

theorem CallsOnce.dependencies (called : CallsOnce b path reported text args w run) :
    Event.dependencies run.events = reported := by
  obtain ⟨before, rfl, -, events⟩ := called.order
  have silent := Event.dependencies_eq_nil fun event h => (called.quiet event h).2
  have later : Event.dependencies
      (.compilingText text args :: (b.compiler.compileSource text args w).events) = [] := silent
  rw [events, Event.dependencies_append, later, List.append_nil]

/-- What is reported before the run comes before the call. -/
theorem CallsOnce.after (walk : Discovery.Walk)
    (called : CallsOnce b path reported text args w run) :
    CallsOnce b path (walk.found ++ reported) text args w
      { run with events := walk.steps.map .walked ++ run.events } := by
  obtain ⟨before, found, free, events⟩ := called.order
  refine ⟨⟨walk.steps.map .walked ++ before, ?_, ?_, ?_⟩, called.quiet, called.result, called.world⟩
  · rw [Event.dependencies_append, Event.dependencies_walked, found]
  · intro event h
    rcases List.mem_append.mp h with step | later
    · obtain ⟨_, -, rfl⟩ := List.mem_map.mp step
      rfl
    · exact free event later
  · rw [events, List.append_assoc]

end CallsOnce

variable [HasFiles W]

/-- The walk that reports the dependencies of a source. -/
def walkOf (path : Path) (source : Text) (w : W) : Discovery.Walk :=
  Discovery.discover (HasFiles.files w) path (some source) .empty

theorem followReferences_ended (ended : (walkOf path source w).failure = none) :
    followReferences path source w = ⟨.ok (), (walkOf path source w).steps.map .walked, w⟩ := by
  unfold walkOf at ended ⊢
  simp [followReferences, Bind.bind, Action.bind, Action.files, Action.emit, ended, pure]

theorem followReferences_broken {error : ReferenceError}
    (broken : (walkOf path source w).failure = some error) :
    followReferences path source w =
      ⟨.error (.references error), (walkOf path source w).steps.map .walked, w⟩ := by
  unfold walkOf at broken ⊢
  simp [followReferences, Bind.bind, Action.bind, Action.files, Action.emit, broken, Action.fail]

theorem anchorReferences_located (located : (HasFiles.files w).absolute path = .ok file) :
    anchorReferences path source w =
      ⟨.ok (Anchoring.anchorIn file.dir.text source),
        (Anchoring.changesIn file.dir.text source).map (.anchored file), w⟩ := by
  simp [anchorReferences, Bind.bind, Action.bind, Action.files, Action.ofExcept, Action.emit,
    located, Except.mapError, pure]

/-- The call of the compiler and what comes of it. -/
theorem compile_untracked (b : Builder W) (options : List Text)
    (located : (HasFiles.files w).absolute path = .ok file) :
    b.compile path source false options w =
      let text := Anchoring.anchorIn file.dir.text source
      let args := b.options.merged options
      let call := b.compiler.compileSource text args w
      ⟨call.result.mapError (.compile path),
        (Anchoring.changesIn file.dir.text source).map (.anchored file) ++
          .compiling path args :: .compilingText text args :: call.events, call.world⟩ := by
  simp [compile, Bind.bind, Action.bind, anchorReferences_located located, Action.emit,
    Action.mapError]

/-- Tracking comes first and changes nothing else. -/
theorem compile_tracked (b : Builder W) (path : Path) (source : Text) (options : List Text) :
    b.compile path source true options =
      (followReferences path source >>= fun _ => b.compile path source false options) := by
  simp [compile]

theorem callsOnce_untracked (b : Builder W) (source : Text) (options : List Text)
    (located : (HasFiles.files w).absolute path = .ok file) :
    CallsOnce b path [] (Anchoring.anchorIn file.dir.text source) (b.options.merged options) w
      (b.compile path source false options w) := by
  rw [compile_untracked b options located]
  refine ⟨⟨(Anchoring.changesIn file.dir.text source).map (.anchored file) ++
    [.compiling path (b.options.merged options)], ?_, ?_, ?_⟩, ?_, rfl, rfl⟩
  · rw [Event.dependencies_append]
    refine List.append_eq_nil_iff.mpr ⟨Event.dependencies_eq_nil ?_, rfl⟩
    rintro event h
    obtain ⟨change, -, rfl⟩ := List.mem_map.mp h
    rfl
  · intro event h
    rcases List.mem_append.mp h with change | start
    · obtain ⟨_, -, rfl⟩ := List.mem_map.mp change
      rfl
    · rw [List.mem_singleton.mp start]
      rfl
  · simp only [List.append_assoc, List.singleton_append]
  · intro event h
    have start := b.compiler.source_events _ _ w event h
    exact ⟨Event.isCall_of_isStart start, Event.dependency?_of_isStart start⟩

end Builder
end TripleSlash
