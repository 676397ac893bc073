import TripleSlash.Proofs.Decoding
import TripleSlash.Proofs.ScratchDirectories

/-! What is made of the child that compiles a source. It is run once at most, on a scratch
directory that holds the source, and its exit status decides: an output counts only if the child
succeeded and left it as a text, and a child that failed is quoted, or at least named, whatever it
left. Each way to fail has words of its own, and none of them is blank. -/
namespace TripleSlash

theorem FileTree.readText_eq_ok_iff {tree : FileTree} {cwd : Location} {p : Path} {text : Text} :
    tree.readText cwd p = .ok text ↔ tree.readBytes cwd p = .ok (Utf8.encode text) := by
  unfold readText
  cases tree.readBytes cwd p with
  | error cause => simp [bind, Except.bind]
  | ok bytes =>
    rw [Except.ok.injEq, ← Utf8.decode?_eq_some_iff]
    simp only [bind, Except.bind]
    cases Utf8.decode? bytes <;> simp

theorem ExitStatus.success_iff {status : ExitStatus} : status.success = true ↔ status = .exited 0 :=
  beq_iff_eq

namespace Compiler.Tsc
open Machine FileTree

/-- What a child has said, its output first. Bytes that are no text are marked. -/
def said (child : ChildOutput) : Text :=
  Utf8.decodeLossy child.stdout ++ Utf8.decodeLossy child.stderr

/-- There is something to be seen in a text. -/
def IsTelling (text : Text) : Prop := ∃ c ∈ text, Text.isBlank c = false

/-- What is to be made of the answer of a child and of the machine that it leaves. -/
structure ReportsChild (program output : Path) (answer : Except IoError ChildOutput × Machine)
    (result : Except Text Text) : Prop where
  done : ∀ js, result = .ok js ↔ ∃ child, answer.1 = .ok child ∧ child.status = .exited 0 ∧
    answer.2.tree.readBytes answer.2.cwd output = .ok (Utf8.encode js)
  unlaunched : ∀ cause, answer.1 = .error cause →
    result = .error ("Failed to run ".toList ++ program.text ++ ": ".toList ++ cause.message)
  quoted : ∀ child, answer.1 = .ok child → child.status ≠ .exited 0 → IsTelling (said child) →
    result = .error (said child)
  named : ∀ child, answer.1 = .ok child → child.status ≠ .exited 0 → ¬ IsTelling (said child) →
    result = .error (program.text ++ " exited with status: ".toList ++ child.status.text)
  missing : ∀ child cause, answer.1 = .ok child → child.status = .exited 0 →
    answer.2.files.read output = .error cause →
    result = .error ("Compiler produced no output at ".toList ++ output.text ++ ": ".toList ++
      cause.message)

/-- The result that a child and the machine that it leaves come to. -/
def verdict (program output : Path) (answer : Except IoError ChildOutput × Machine) :
    Except Text Text :=
  match answer.1 with
  | .error cause =>
    .error ("Failed to run ".toList ++ program.text ++ ": ".toList ++ cause.message)
  | .ok child =>
    if child.status.success then
      (answer.2.files.read output).mapError fun cause =>
        "Compiler produced no output at ".toList ++ output.text ++ ": ".toList ++ cause.message
    else .error (complaint program child)

section Verdict
variable {program output : Path} {answer : Except IoError ChildOutput × Machine}
  {child : ChildOutput} {text : Text}

theorem isTelling_iff : IsTelling text ↔ text.all Text.isBlank = false := by
  simp [IsTelling]

/-- A child that has said something is quoted, and any other is named. -/
theorem complaint_telling (telling : IsTelling (said child)) :
    complaint program child = said child := by
  have seen := isTelling_iff.mp telling
  unfold said at seen ⊢
  simp only [complaint, seen]
  rfl

theorem complaint_blank (blank : ¬ IsTelling (said child)) :
    complaint program child =
      program.text ++ " exited with status: ".toList ++ child.status.text := by
  have unseen : (said child).all Text.isBlank = true := by simpa [isTelling_iff] using blank
  unfold said at unseen
  simp only [complaint, unseen, if_true]

theorem IsTelling.append_left (telling : IsTelling text) (more : Text) : IsTelling (text ++ more) := by
  obtain ⟨c, member, seen⟩ := telling
  exact ⟨c, List.mem_append_left _ member, seen⟩

theorem IsTelling.append_right (telling : IsTelling text) (more : Text) : IsTelling (more ++ text) := by
  obtain ⟨c, member, seen⟩ := telling
  exact ⟨c, List.mem_append_right _ member, seen⟩

/-- The words for what failed are in the message, whatever they are about. -/
theorem telling_failed (rest : Text) : IsTelling ('F' :: rest) :=
  ⟨'F', List.mem_cons_self, by decide⟩

theorem verdict_telling {message : Text} (failed : verdict program output answer = .error message) :
    IsTelling message := by
  unfold verdict at failed
  split at failed
  · obtain rfl := Except.error.inj failed
    exact telling_failed _
  · rename_i child _
    split at failed
    · cases read : answer.2.files.read output with
      | ok text =>
        rw [read] at failed
        contradiction
      | error cause =>
        rw [read] at failed
        obtain rfl := Except.error.inj failed
        exact ⟨'C', List.mem_cons_self, by decide⟩
    · obtain rfl := Except.error.inj failed
      by_cases telling : IsTelling (said child)
      · rwa [complaint_telling telling]
      · rw [complaint_blank telling]
        have words : IsTelling " exited with status: ".toList := ⟨'e', by decide, by decide⟩
        exact (words.append_right _).append_left _

theorem reportsChild_verdict (program output : Path)
    (answer : Except IoError ChildOutput × Machine) :
    ReportsChild program output answer (verdict program output answer) := by
  obtain ⟨answered, left⟩ := answer
  cases answered with
  | error cause =>
    refine ⟨fun js => ?_, ?_, nofun, nofun, nofun⟩
    · simp [verdict]
    · rintro _ ⟨⟩
      rfl
  | ok child =>
    by_cases success : child.status = .exited 0
    · have passed := ExitStatus.success_iff.mpr success
      have read : verdict program output (.ok child, left) =
          (left.files.read output).mapError fun cause =>
            "Compiler produced no output at ".toList ++ output.text ++ ": ".toList ++
              cause.message := by
        simp only [verdict, passed, if_true]
      rw [read]
      refine ⟨fun js => ?_, nofun, ?_, ?_, ?_⟩
      · have text : left.files.read output = .ok js ↔ _ := readText_eq_ok_iff
        rw [← text]
        cases left.files.read output <;> simp [success, Except.mapError]
      · rintro _ ⟨⟩ failed
        exact absurd success failed
      · rintro _ ⟨⟩ failed
        exact absurd success failed
      · rintro _ cause ⟨⟩ - unread
        rw [unread]
        rfl
    · have failed : ¬ child.status.success := mt ExitStatus.success_iff.mp success
      have complained : verdict program output (.ok child, left) =
          .error (complaint program child) := by
        simp only [verdict, failed]
        rfl
      rw [complained]
      refine ⟨fun js => ?_, nofun, ?_, ?_, ?_⟩
      · simp [success]
      · rintro _ ⟨⟩ - telling
        rw [complaint_telling telling]
      · rintro _ ⟨⟩ - blank
        rw [complaint_blank blank]
      · rintro _ _ ⟨⟩ passed
        exact absurd passed success

end Verdict

section Runs
variable {m made written : Machine} {scratch : ScratchDirectory} {program : Path} {source : Text}
  {options : List Text} {cause : IoError}

theorem compileSourceIn_unwritten (launch : Launcher Machine)
    (failed : made.write (scratch.path.join inputName) source = (.error cause, written)) :
    compileSourceIn launch program scratch.path source options made =
      ⟨.error ("Failed to write ".toList ++ (scratch.path.join inputName).text ++ ": ".toList ++
        cause.message), [], written⟩ :=
  Action.change_bind_error failed

/-- A child that is run is run once, and all that it leaves is kept. -/
theorem compileSourceIn_ran (launch : Launcher Machine)
    (wrote : made.write (scratch.path.join inputName) source = (.ok (), written)) :
    compileSourceIn launch program scratch.path source options made =
      ⟨verdict program (scratch.path.join outputName) (launch program
          (arguments options (scratch.path.join inputName) (scratch.path.join outputName)) written),
        [.started program options],
        (launch program (arguments options (scratch.path.join inputName)
          (scratch.path.join outputName)) written).2⟩ := by
  refine (Action.change_bind_ok wrote).trans ?_
  rw [Action.emit_bind]
  cases answered : launch program (arguments options (scratch.path.join inputName)
      (scratch.path.join outputName)) written with
  | mk answer left =>
    cases answer with
    | error cause =>
      rw [Action.change_bind_error answered]
      rfl
    | ok child =>
      rw [Action.change_bind_ok answered]
      cases passed : child.status.success with
      | false =>
        simp only [verdict, passed]
        rfl
      | true =>
        simp only [verdict, passed]
        rfl

theorem compileSource_unmade (launch : Launcher Machine)
    (failed : m.makeScratch = (.error cause, made)) :
    compileSource launch program source options m =
      ⟨.error ("Failed to create scratch directory: ".toList ++ cause.message), [], made⟩ :=
  Action.change_bind_error failed

theorem compileSource_made (launch : Launcher Machine)
    (done : m.makeScratch = (.ok scratch, made)) :
    compileSource launch program source options m =
      ((compileSourceIn launch program scratch.path source options).ending
        fun m => m.removeScratch scratch) made :=
  Action.change_bind_ok done

theorem compileSource_telling (launch : Launcher Machine) (program : Path) (source : Text)
    (options : List Text) (m : Machine) {message : Text}
    (failed : (compileSource launch program source options m).result = .error message) :
    IsTelling message := by
  cases tried : m.makeScratch with
  | mk result made =>
    cases result with
    | error cause =>
      rw [compileSource_unmade launch tried] at failed
      obtain rfl := Except.error.inj failed
      exact telling_failed _
    | ok scratch =>
      rw [compileSource_made launch tried] at failed
      cases written : made.write (scratch.path.join inputName) source with
      | mk result started =>
        simp only [Action.ending] at failed
        cases result with
        | error cause =>
          rw [compileSourceIn_unwritten launch written] at failed
          obtain rfl := Except.error.inj failed
          exact telling_failed _
        | ok done =>
          rw [compileSourceIn_ran launch written] at failed
          exact verdict_telling failed

end Runs

/-- The run of a compiler program for a source. -/
structure RunsOneChild (launch : Launcher Machine) (program : Path) (source : Text)
    (options : List Text) (m : Machine) (run : Outcome Machine Text Text) : Prop where
  unmade : ∀ cause made, m.makeScratch = (.error cause, made) →
    run = ⟨.error ("Failed to create scratch directory: ".toList ++ cause.message), [], made⟩
  unwritten : ∀ scratch made cause left, m.makeScratch = (.ok scratch, made) →
    made.write (scratch.path.join (.ofString "input.ts")) source = (.error cause, left) →
    run = ⟨.error ("Failed to write ".toList ++ (scratch.path.join (.ofString "input.ts")).text ++
      ": ".toList ++ cause.message), [], left.removeScratch scratch⟩
  /-- The machine goes through the child exactly once, and comes to it with the source. -/
  ran : ∀ scratch made started, m.makeScratch = (.ok scratch, made) →
    made.write (scratch.path.join (.ofString "input.ts")) source = (.ok (), started) →
    let input := scratch.path.join (.ofString "input.ts")
    let output := scratch.path.join (.ofString "output.js")
    let answer := launch program (options ++ ["--outFile".toList, output.text, input.text]) started
    started.tree.readBytes started.cwd input = .ok (Utf8.encode source) ∧
      ReportsChild program output answer run.result ∧
      run.events = [.started program options] ∧ run.world = answer.2.removeScratch scratch
  telling : ∀ message, run.result = .error message → IsTelling message

/-- A source is compiled by one child, and the result says what the child did. What the child says
in valid UTF-8 is quoted as it is. -/
theorem compileSource_reports (launch : Launcher Machine) (program : Path) (source : Text)
    (options : List Text) {m : Machine} (nested : m.tree.Nested) :
    RunsOneChild launch program source options m (compileSource launch program source options m) ∧
      ∀ (child : ChildOutput) (out err : Text), child.stdout = Utf8.encode out →
        child.stderr = Utf8.encode err → said child = out ++ err := by
  refine ⟨⟨fun cause made => compileSource_unmade launch, ?_, ?_,
    fun message => compileSource_telling launch program source options m⟩, ?_⟩
  · intro scratch made cause left done failed
    rw [compileSource_made launch done, Action.ending, compileSourceIn_unwritten launch failed]
    rfl
  · intro scratch made started done wrote
    rw [compileSource_made launch done, Action.ending, compileSourceIn_ran launch wrote]
    exact ⟨readBytes_written nested done isName_inputName wrote, reportsChild_verdict _ _ _, rfl, rfl⟩
  · rintro ⟨status, _, _⟩ out err rfl rfl
    rw [said, Utf8.decodeLossy_encode, Utf8.decodeLossy_encode]

/-- A machine on which scratch directories can be made. -/
def bareMachine : Machine where
  tree := ⟨[(["tmp".toList], .directory)]⟩
  cwd := []
  temporary := ["tmp".toList]
  scratches := 0
  environment := []

/-- A child that leaves an output, fails, and says nothing but blanks, one of them beyond ASCII. -/
def blankChild : Launcher Machine := fun _ args m =>
  let output : Path := ⟨(args.drop 1).headD []⟩
  (.ok ⟨.exited 2, Utf8.encode " \n".toList, Utf8.encode "\u0085".toList⟩,
    (m.write output "x".toList).2)

/-- The scratch directory that is made first, and the machine with it. -/
def bareScratch : ScratchDirectory :=
  ⟨.ofString "/tmp/tsasset000000", ["tmp", "tsasset000000"].map String.toList⟩

def madeMachine : Machine :=
  { bareMachine with
    tree := ⟨[(["tmp".toList], .directory), (bareScratch.place, .directory)]⟩
    scratches := 1 }

theorem bareMachine_made : bareMachine.makeScratch = (.ok bareScratch, madeMachine) := by
  have path : place (bareMachine.temporary ++ [scratchName bareMachine.scratches]) =
      bareScratch.path := by
    decide
  have made : bareMachine.tree.makeDirectoryAt bareMachine.cwd bareScratch.path =
      .ok (bareScratch.place, madeMachine.tree) := by
    cbv
  simp only [makeScratch, path, made]
  rfl

theorem madeMachine_written :
    ∃ started, madeMachine.write (bareScratch.path.join (.ofString "input.ts")) ['x'] =
      (.ok (), started) := by
  refine ⟨_, Prod.ext ?_ rfl⟩
  cbv

/-- The program and the exit status are named, and the output is not looked at. -/
theorem bareMachine_reports :
    bareMachine.tree.Nested ∧
    RunsOneChild blankChild ⟨program⟩ ['x'] [] bareMachine
      (compileSource blankChild ⟨program⟩ ['x'] [] bareMachine) ∧
    (compileSource blankChild ⟨program⟩ ['x'] [] bareMachine).result =
      .error "tsc exited with status: exit status: 2".toList := by
  have nested : bareMachine.tree.Nested := by decide
  obtain ⟨runs, quotes⟩ := compileSource_reports blankChild ⟨program⟩ ['x'] [] nested
  obtain ⟨started, wrote⟩ := madeMachine_written
  have reports := (runs.ran _ _ _ bareMachine_made wrote).2.1
  refine ⟨nested, runs, reports.named _ rfl (by decide) ?_⟩
  rw [quotes _ _ _ rfl rfl, isTelling_iff]
  decide

end Compiler.Tsc
end TripleSlash
