import TripleSlash.Proofs.ProjectBuilds

/-! What becomes of a project file. Its inputs are reported in the order of the manifest, none of
them twice, before the compiler is called once for the whole project. What is reported does not
depend on the build, and what the build says of itself is kept beside what it left at the output
path. A manifest that cannot be read ends everything before anything is reported. -/
namespace TripleSlash

namespace Dependencies

/-- The set beside the list takes all reports as they come. -/
theorem known_addAll (d : Dependencies) (reports : List Path) :
    (d.addAll reports).known = d.known.insertAll reports := by
  induction reports generalizing d with
  | nil => rfl
  | cons p reports ih =>
    have first : (d.add p).known = d.known.insert p := by
      cases seen : d.known.contains p <;> simp [add, PathSet.insert, seen]
    rw [show d.addAll (p :: reports) = (d.add p).addAll reports from rfl, ih, first]
    rfl

/-- A set that paths are put in one by one lists them without repeats. -/
theorem toList_insertAll_empty (paths : List Path) :
    (PathSet.empty.insertAll paths).toList = withoutRepeats paths := by
  have inStep : (empty.addAll paths).known.toList = (empty.addAll paths).toList :=
    inStep_empty.addAll paths
  have known := known_addAll empty paths
  rw [← toList_addAll_empty, ← inStep, known]
  rfl

end Dependencies

namespace Builder

variable {W : Type} [HasFiles W] {b : Builder W} {path : Path} {w : W} {manifest : Manifest}

/-- What the result of a project file is made of: how the build went, and what it left. -/
def projectResult (built : Except IoError BuildOutput) (out : Path) (left : Files) :
    Except BuildError ProjectResult :=
  match built with
  | .error cause => .error (.launch cause)
  | .ok output => ((outputAt left out).map (launched output)).mapError (.io out)

theorem compileProjectFile_unread {error : BuildError}
    (unread : Manifest.read (HasFiles.files w) path = .error error) :
    b.compileProjectFile path w = ⟨.error error, [], w⟩ := by
  unfold compileProjectFile
  rw [Action.files_bind, unread]
  exact Action.bind_of_error rfl _

/-- A build that cannot be launched is an error of its own, behind the same reports. -/
theorem compileProjectFile_unlaunched {cause : IoError}
    (known : Manifest.read (HasFiles.files w) path = .ok manifest)
    (failed : (b.compiler.buildProject path w).result = .error cause) :
    b.compileProjectFile path w =
      ⟨.error (.launch cause),
        inputs manifest ++ .building path :: (b.compiler.buildProject path w).events,
        (b.compiler.buildProject path w).world⟩ := by
  have stopped : ((b.compiler.buildProject path).mapError BuildError.launch w).result =
      .error (.launch cause) := by
    rw [Action.mapError, failed]
    rfl
  unfold compileProjectFile
  rw [Action.files_bind, Action.ofExcept_bind_ok known, Action.emit_bind, Action.emit_bind,
    Action.bind_of_error stopped, Outcome.after_after]
  simp [Outcome.after, Action.mapError, inputs]

/-- However the build goes, it comes behind the same reports and is called once. -/
theorem compileProjectFile_known
    (known : Manifest.read (HasFiles.files w) path = .ok manifest) :
    b.compileProjectFile path w =
      ⟨projectResult (b.compiler.buildProject path w).result manifest.outFile (b.filesAfter path w),
        inputs manifest ++ .building path :: (b.compiler.buildProject path w).events,
        (b.compiler.buildProject path w).world⟩ := by
  cases built : (b.compiler.buildProject path w).result with
  | error cause => exact compileProjectFile_unlaunched known built
  | ok output => exact compileProjectFile_launched known built

theorem dependencies_inputs (manifest : Manifest) :
    Event.dependencies (inputs manifest) = Dependencies.withoutRepeats manifest.files := by
  rw [inputs, Event.dependencies, List.filterMap_map, ← Dependencies.toList_insertAll_empty]
  exact List.filterMap_some

theorem isCall_inputs (manifest : Manifest) : ∀ event ∈ inputs manifest, event.isCall = false := by
  intro event member
  obtain ⟨file, -, rfl⟩ := List.mem_map.mp member
  rfl

/-- A run that builds the project of a manifest. -/
structure BuildsProject (b : Builder W) (path : Path) (manifest : Manifest) (w : W)
    (run : Outcome W BuildError ProjectResult) : Prop where
  /-- The inputs are reported in the order of the manifest, less those that repeat an earlier one,
  and then the compiler is called for the path as it is given. The rest is up to the compiler. -/
  order : ∃ before, Event.dependencies before = Dependencies.withoutRepeats manifest.files ∧
    (∀ event ∈ before, event.isCall = false) ∧
    run.events = before ++ .building path :: (b.compiler.buildProject path w).events
  /-- The compiler does not call itself, and reports nothing. -/
  quiet : ∀ event ∈ (b.compiler.buildProject path w).events,
    event.isCall = false ∧ event.dependency? = none
  world : run.world = (b.compiler.buildProject path w).world
  unlaunched : ∀ cause, (b.compiler.buildProject path w).result = .error cause →
    run.result = .error (.launch cause)
  /-- Something that cannot be read as a text is in the way of any result. -/
  unreadable : ∀ output cause, (b.compiler.buildProject path w).result = .ok output →
    (b.filesAfter path w).present manifest.outFile = true →
    (b.filesAfter path w).read manifest.outFile = .error cause →
    run.result = .error (.io manifest.outFile cause)
  missing : ∀ output, (b.compiler.buildProject path w).result = .ok output →
    (b.filesAfter path w).present manifest.outFile = false →
    run.result = .ok ⟨output.success, none, output.stdout, output.stderr⟩
  left : ∀ output text, (b.compiler.buildProject path w).result = .ok output →
    (b.filesAfter path w).present manifest.outFile = true →
    (b.filesAfter path w).read manifest.outFile = .ok text →
    run.result = .ok ⟨output.success, some text, output.stdout, output.stderr⟩

theorem BuildsProject.dependencies {run : Outcome W BuildError ProjectResult}
    (builds : BuildsProject b path manifest w run) :
    Event.dependencies run.events = Dependencies.withoutRepeats manifest.files := by
  obtain ⟨before, reported, -, events⟩ := builds.order
  have silent := Event.dependencies_eq_nil fun event h => (builds.quiet event h).2
  have later : Event.dependencies (.building path :: (b.compiler.buildProject path w).events) = [] :=
    silent
  rw [events, Event.dependencies_append, later, List.append_nil, reported]

theorem buildsProject_known (known : Manifest.read (HasFiles.files w) path = .ok manifest) :
    BuildsProject b path manifest w (b.compileProjectFile path w) := by
  rw [compileProjectFile_known known]
  refine ⟨⟨inputs manifest, dependencies_inputs manifest, isCall_inputs manifest, rfl⟩, ?_, rfl,
    ?_, ?_, ?_, ?_⟩
  · intro event member
    have start := b.compiler.project_events path w event member
    exact ⟨Event.isCall_of_isStart start, Event.dependency?_of_isStart start⟩
  · intro cause failed
    rw [failed]
    rfl
  · intro output cause built there unread
    have seen := outputAt_eq_error_iff.mpr ⟨there, unread⟩
    simp only [projectResult, built, seen]
    rfl
  · intro output built missing
    simp only [projectResult, built, outputAt, missing]
    rfl
  · intro output text built there read
    simp only [projectResult, built, outputAt, there, read]
    rfl

/-- A manifest that cannot be read or understood ends a project before anything is reported or
called. Otherwise its inputs are reported and the project is built, and how the build goes makes no
difference to the reports. -/
theorem compileProjectFile_builds (b : Builder W) (path : Path) (w : W) :
    (∀ error, Manifest.read (HasFiles.files w) path = .error error →
      b.compileProjectFile path w = ⟨.error error, [], w⟩) ∧
    (∀ manifest, Manifest.read (HasFiles.files w) path = .ok manifest →
      BuildsProject b path manifest w (b.compileProjectFile path w)) ∧
    ∀ other : Builder W, Event.dependencies (b.compileProjectFile path w).events =
      Event.dependencies (other.compileProjectFile path w).events := by
  refine ⟨fun error => compileProjectFile_unread, fun manifest => buildsProject_known, ?_⟩
  intro other
  cases known : Manifest.read (HasFiles.files w) path with
  | error error => rw [compileProjectFile_unread known, compileProjectFile_unread known]
  | ok manifest =>
    have own : BuildsProject b path manifest w _ := buildsProject_known known
    have others : BuildsProject other path manifest w _ := buildsProject_known known
    rw [own.dependencies, others.dependencies]

/-- The text of a manifest that lists one input twice, in two spellings. -/
def listedText : Text :=
  "\x7b\"compilerOptions\":\x7b\"outFile\":\"out.js\"\x7d,\"files\":[\"a.ts\",\"./b/../a.ts\"]\x7d".toList

def listedManifest : Manifest :=
  ⟨barePath, .ofString "/out.js", [.ofString "/a.ts", .ofString "/a.ts"]⟩

def listedProject : Machine :=
  { bareProject .directory with tree := ⟨[(["tsconfig.json".toList], .file (Utf8.encode listedText) false)]⟩ }

set_option maxRecDepth 20000 in
theorem read_listedProject :
    Manifest.read (HasFiles.files listedProject) barePath = .ok listedManifest := by
  have content : (HasFiles.files listedProject).read barePath = .ok listedText := by
    cbv
  have written : Manifest.Written.ofText listedText =
      .ok ⟨"out.js".toList, ["a.ts".toList, "./b/../a.ts".toList]⟩ := by
    rfl
  rw [Manifest.read_of_content content, Manifest.parse, written]
  rfl

/-- The build fails and leaves nothing, and the input is reported once. -/
theorem listedProject_built :
    Manifest.read (HasFiles.files listedProject) barePath = .ok listedManifest ∧
    BuildsProject failingBuild barePath listedManifest listedProject
      (failingBuild.compileProjectFile barePath listedProject) ∧
    Dependencies.withoutRepeats listedManifest.files = [.ofString "/a.ts"] :=
  ⟨read_listedProject,
    (compileProjectFile_builds failingBuild barePath listedProject).2.1 _ read_listedProject,
    by decide⟩

end Builder
end TripleSlash
