import Mathlib
import TripleSlash.Builder
import TripleSlash.Compiler.Scripted

/-! Project builds. What a build says and what it leaves at the output path of the manifest are
two things, and the output path is looked at before the success of the build is. So a failed
build is reported in its own words exactly if the output path can be looked at: if nothing is
there, or a text is. -/
namespace TripleSlash

theorem Manifest.read_of_content {files : Files} {path : Path} {content : Text}
    (there : files.read path = .ok content) : read files path = parse files path content := by
  rw [read, there]
  rfl

namespace Builder

/-- What is at an output path: nothing, a text, or something that cannot be read as one. -/
def outputAt (files : Files) (out : Path) : Except IoError (Option Text) :=
  if files.present out then (files.read out).map some else .ok none

theorem outputAt_eq_error_iff {files : Files} {out : Path} {cause : IoError} :
    outputAt files out = .error cause ↔ files.present out = true ∧ files.read out = .error cause := by
  unfold outputAt
  split
  · rename_i there
    cases files.read out <;> simp [there, Except.map]
  · rename_i missing
    simp [missing]

theorem outputAt_ok_iff {files : Files} {out : Path} :
    (∃ js, outputAt files out = .ok js) ↔
      files.present out = false ∨ ∃ text, files.read out = .ok text := by
  constructor
  · rintro ⟨js, seen⟩
    by_cases there : files.present out = true
    · right
      cases read : files.read out with
      | error cause =>
        have unread := outputAt_eq_error_iff.mpr ⟨there, read⟩
        rw [unread] at seen
        contradiction
      | ok text => exact ⟨text, rfl⟩
    · left
      simpa using there
  · intro free
    cases seen : outputAt files out with
    | ok js => exact ⟨js, rfl⟩
    | error cause =>
      obtain ⟨there, unread⟩ := outputAt_eq_error_iff.mp seen
      rcases free with missing | ⟨text, read⟩
      · rw [there] at missing
        contradiction
      · rw [unread] at read
        contradiction

variable {W : Type} [HasFiles W] {b : Builder W} {path : Path} {w : W} {manifest : Manifest}
  {output : BuildOutput}

/-- The files as they are once the compiler has built the project. -/
def filesAfter (b : Builder W) (path : Path) (w : W) : Files :=
  HasFiles.files (b.compiler.buildProject path w).world

/-- The inputs of a project in the order in which they are first listed. -/
def inputs (manifest : Manifest) : List Event :=
  (PathSet.empty.insertAll manifest.files).toList.map .listed

/-- The result of a build that was launched. -/
def launched (output : BuildOutput) (js : Option Text) : ProjectResult :=
  ⟨output.success, js, output.stdout, output.stderr⟩

/-- Reading back what is at the output path changes nothing. -/
theorem collect_eq (output : BuildOutput) (out : Path) (w : W) :
    (do if (← Action.files).present out then
          let js ← readFile out
          pure (launched output (some js))
        else pure (launched output none) : Action W BuildError ProjectResult) w =
      ⟨((outputAt (HasFiles.files w) out).map (launched output)).mapError (.io out), [], w⟩ := by
  rw [Action.files_bind]
  unfold outputAt
  split
  · cases text : (HasFiles.files w).read out with
    | error cause =>
      have unread : (readFile out w).result = .error (.io out cause) := by
        rw [readFile_eq, text]
        rfl
      rw [Action.bind_of_error unread, readFile_eq]
      rfl
    | ok js =>
      have read : (readFile out w).result = .ok js := by
        rw [readFile_eq, text]
        rfl
      rw [Action.bind_after read, readFile_eq]
      rfl
  · rfl

/-- A build that was launched leaves whatever the compiler leaves, and only the output path can
still be in the way of its result. -/
theorem compileProjectFile_launched
    (known : Manifest.read (HasFiles.files w) path = .ok manifest)
    (built : (b.compiler.buildProject path w).result = .ok output) :
    b.compileProjectFile path w =
      ⟨((outputAt (b.filesAfter path w) manifest.outFile).map (launched output)).mapError
          (.io manifest.outFile),
        inputs manifest ++ .building path :: (b.compiler.buildProject path w).events,
        (b.compiler.buildProject path w).world⟩ := by
  have launch : ((b.compiler.buildProject path).mapError BuildError.launch w).result = .ok output := by
    rw [Action.mapError, built]
    rfl
  have collected := collect_eq output manifest.outFile (b.compiler.buildProject path w).world
  unfold compileProjectFile
  rw [Action.files_bind, Action.ofExcept_bind_ok known, Action.emit_bind, Action.emit_bind,
    Action.bind_after launch, Outcome.after_after, Outcome.after_after]
  refine (congrArg (Outcome.after · _) collected).trans ?_
  simp [Outcome.after, Action.mapError, inputs, filesAfter]

/-- What becomes of a build that was launched and failed. -/
theorem compileProject_failed
    (known : Manifest.read (HasFiles.files w) path = .ok manifest)
    (built : (b.compiler.buildProject path w).result = .ok output) (failed : output.success = false) :
    (b.compileProject path w).result =
      match outputAt (b.filesAfter path w) manifest.outFile with
      | .ok _ => .error (.projectBuild (output.stderr ++ output.stdout))
      | .error cause => .error (.io manifest.outFile cause) := by
  have run := congrArg Outcome.result (compileProjectFile_launched known built)
  unfold compileProject
  rw [Action.emit_bind, Outcome.result_after]
  cases left : outputAt (b.filesAfter path w) manifest.outFile with
  | error cause =>
    rw [left] at run
    rw [Action.bind_of_error run]
  | ok js =>
    rw [left] at run
    rw [Action.bind_after run, Outcome.result_after]
    simp only [launched, failed, Bool.not_false, if_true]
    rfl

/-- A failed build is reported by its error output and then its output exactly if nothing is at
the output path or a text is. Otherwise the output path is complained about instead. -/
theorem failed_build_surfaces_iff
    (known : Manifest.read (HasFiles.files w) path = .ok manifest)
    (built : (b.compiler.buildProject path w).result = .ok output) (failed : output.success = false) :
    ((b.compileProject path w).result = .error (.projectBuild (output.stderr ++ output.stdout)) ↔
      (b.filesAfter path w).present manifest.outFile = false ∨
        ∃ text, (b.filesAfter path w).read manifest.outFile = .ok text) ∧
    ∀ cause, (b.filesAfter path w).present manifest.outFile = true →
      (b.filesAfter path w).read manifest.outFile = .error cause →
        (b.compileProject path w).result = .error (.io manifest.outFile cause) := by
  have outcome := compileProject_failed known built failed
  refine ⟨?_, fun cause there unread => ?_⟩
  · rw [← outputAt_ok_iff, outcome]
    cases outputAt (b.filesAfter path w) manifest.outFile with
    | error cause => simp
    | ok js => simp
  · rw [outcome, outputAt_eq_error_iff.mpr ⟨there, unread⟩]

/-- The text of a manifest without inputs. -/
def bareText : Text := "\x7b\"compilerOptions\":\x7b\"outFile\":\"out.js\"\x7d,\"files\":[]\x7d".toList

def barePath : Path := .ofString "/tsconfig.json"

def bareManifest : Manifest := ⟨barePath, .ofString "/out.js", []⟩

/-- A machine with that manifest and something else at the output path. -/
def bareProject (atOutput : Entry) : Machine where
  tree := ⟨[(["tsconfig.json".toList], .file (Utf8.encode bareText) false),
    (["out.js".toList], atOutput)]⟩
  cwd := []
  temporary := []
  scratches := 0
  environment := []

/-- A build that fails with some output and leaves no files. -/
def failingBuild : Builder Machine where
  compiler := .scripted ⟨none, [], [], none, ⟨"O1".toList, "E1".toList, false⟩⟩
  options := .empty

set_option maxRecDepth 20000 in
theorem read_bareProject (atOutput : Entry) :
    Manifest.read (HasFiles.files (bareProject atOutput)) barePath = .ok bareManifest := by
  have content : (HasFiles.files (bareProject atOutput)).read barePath = .ok bareText := by
    cbv
  have written : Manifest.Written.ofText bareText = .ok ⟨"out.js".toList, []⟩ := by
    rfl
  rw [Manifest.read_of_content content, Manifest.parse, written]
  rfl

/-- An older output that can be read. -/
theorem failingBuild_over_text :
    (Manifest.read (HasFiles.files (bareProject (.file [0x78] false))) barePath = .ok bareManifest ∧
      (failingBuild.filesAfter barePath (bareProject (.file [0x78] false))).read bareManifest.outFile =
        .ok ['x']) ∧
    (failingBuild.compileProject barePath (bareProject (.file [0x78] false))).result =
      .error (.projectBuild "E1O1".toList) := by
  have left : (failingBuild.filesAfter barePath (bareProject (.file [0x78] false))).read
      bareManifest.outFile = .ok ['x'] := by
    cbv
  have known := read_bareProject (.file [0x78] false)
  have surfaces := failed_build_surfaces_iff (b := failingBuild) known rfl rfl
  exact ⟨⟨known, left⟩, surfaces.1.mpr (Or.inr ⟨_, left⟩)⟩

/-- A directory at the output path hides what the compiler said. -/
theorem failingBuild_over_directory :
    (Manifest.read (HasFiles.files (bareProject .directory)) barePath = .ok bareManifest ∧
      (failingBuild.compiler.buildProject barePath (bareProject .directory)).result =
        .ok ⟨"O1".toList, "E1".toList, false⟩) ∧
    (failingBuild.compileProject barePath (bareProject .directory)).result =
        .error (.io (.ofString "/out.js") .isDirectory) ∧
    (failingBuild.compileProject barePath (bareProject .directory)).result ≠
      .error (.projectBuild "E1O1".toList) := by
  have known := read_bareProject .directory
  have there : (failingBuild.filesAfter barePath (bareProject .directory)).present
      bareManifest.outFile = true := by
    cbv
  have unread : (failingBuild.filesAfter barePath (bareProject .directory)).read
      bareManifest.outFile = .error .isDirectory := by
    cbv
  have outcome := compileProject_failed (b := failingBuild) known rfl rfl
  rw [outputAt_eq_error_iff.mpr ⟨there, unread⟩] at outcome
  refine ⟨⟨known, rfl⟩, outcome, ?_⟩
  rw [outcome]
  simp

end Builder
end TripleSlash
