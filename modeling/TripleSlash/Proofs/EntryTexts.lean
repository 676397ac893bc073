import Mathlib
import TripleSlash.CommandLine
import TripleSlash.Compiler.Scripted
import TripleSlash.Proofs.FoldedPaths
import TripleSlash.Proofs.SharedDependencies

/-! The two ways to the dependencies of an entry file. A compilation reads the file through the
path as it is given; the dependencies alone are read off the file at the absolute form of the
path, which is folded by the text. Both come to the same list if both come to the same text, and
they do unless the path steps up from a link, or is a relative one of a machine that does not
stand in the directory it names or cannot follow a path that long. -/
namespace TripleSlash

namespace FileTree

section Spots
variable {tree : FileTree} {cwd : Location} {p q : Path} {text : Text} {spot : Spot}

theorem check_eq_ok_iff :
    check text = .ok () ↔ '\x00' ∉ text ∧ text ≠ [] ∧ Text.size text ≤ longestPath := by
  unfold check
  split
  · simp_all
  · split
    · simp_all
    · split
      · simp_all
      · simp_all

theorem spot_eq_ok_iff : FileTree.spot tree cwd p = .ok spot ↔
    check p.text = .ok () ∧ Follows tree mostLinks (start cwd p.text) (steps p.text) spot := by
  rw [FileTree.spot, ← follow_eq_ok_iff]
  cases check p.text with
  | error cause => simp [bind, Except.bind]
  | ok done => simp [bind, Except.bind]

theorem spot_of_readText (read : readText tree cwd p = .ok text) :
    ∃ spot, FileTree.spot tree cwd p = .ok spot := by
  cases found : FileTree.spot tree cwd p with
  | ok spot => exact ⟨spot, rfl⟩
  | error cause => simp [readText, readBytes, entry, found, bind, Except.bind] at read

theorem readText_congr (same : FileTree.spot tree cwd p = FileTree.spot tree cwd q) :
    readText tree cwd p = readText tree cwd q := by
  simp only [readText, readBytes, entry, same]

/-- Directories below each other make a trail of their own names. -/
theorem Trail.of_directories {names : List Text}
    (looked : ∀ name ∈ names, Part.IsName name ∧ Text.size name ≤ longestName)
    (directories : ∀ above, above <+: names → tree.find? above = some .directory) :
    Trail tree names mostLinks names := by
  induction names using List.reverseRecOn with
  | nil => exact .root
  | append_singleton names name ih =>
    have before := ih (fun n h => looked n (List.mem_append_left _ h))
      fun above h => directories above (h.trans (List.prefix_append names [name]))
    obtain ⟨isName, short⟩ := looked name (by simp)
    have there := directories names (List.prefix_append names [name])
    exact .directory before ⟨isName.not_here, isName.not_up, by simp [there], short⟩
      (directories _ List.prefix_rfl)

end Spots
end FileTree

namespace Machine
open FileTree

/-- The machine stands in the directory that its current directory names. -/
structure Stands (m : Machine) : Prop where
  names : ∀ name ∈ m.cwd, Part.IsName name ∧ '\x00' ∉ name ∧ Text.size name ≤ longestName
  directories : ∀ above, above <+: m.cwd → m.tree.find? above = some .directory

/-- Somewhere the path steps up from what its text so far names, and that is a link. -/
def LeavesLink (m : Machine) (p : Path) : Prop :=
  ∃ front back, steps p.text = front ++ ['.', '.'] :: back ∧
    m.tree.NamesLink (front.foldl fold (start m.cwd p.text))

/-- A path that may be folded by its text. -/
structure Foldable (m : Machine) (p : Path) : Prop where
  keeps_links : ¬ m.LeavesLink p
  stands : p.isAbsolute = false → m.Stands
  short : p.isAbsolute = false → Text.size (place (m.namesOf p)).text ≤ longestPath

section Reading
variable {m : Machine} {p file : Path} {text : Text}

theorem Stands.trail (stands : m.Stands) : Trail m.tree m.cwd mostLinks m.cwd :=
  .of_directories (fun name h => ⟨(stands.names name h).1, (stands.names name h).2.2⟩)
    stands.directories

theorem Foldable.trail (foldable : m.Foldable p) :
    Trail m.tree (start m.cwd p.text) mostLinks (start m.cwd p.text) := by
  rw [start_eq]
  split
  · exact .root
  · rename_i away
    exact (foldable.stands (Bool.eq_false_iff.mpr away)).trail

theorem Foldable.isName_namesOf (foldable : m.Foldable p) :
    ∀ name ∈ m.namesOf p, Part.IsName name := by
  intro name member
  rcases of_mem_namesOf member with ⟨relative, standing⟩ | ⟨isName, -⟩
  · exact ((foldable.stands relative).names name standing).1
  · exact isName

/-- The absolute form of a path can be named if the path can. -/
theorem Foldable.check_place (foldable : m.Foldable p) (named : check p.text = .ok ()) :
    check (place (m.namesOf p)).text = .ok () := by
  obtain ⟨no_nul, -, short⟩ := check_eq_ok_iff.mp named
  refine check_eq_ok_iff.mpr ⟨fun nul => ?_, List.cons_ne_nil _ _, ?_⟩
  · rcases List.mem_cons.mp nul with slash | inside
    · contradiction
    · rcases Text.of_mem_joinWith inside with slash | ⟨name, member, inside⟩
      · contradiction
      · rcases of_mem_namesOf member with ⟨relative, standing⟩ | ⟨-, written⟩
        · exact ((foldable.stands relative).names name standing).2.1 inside
        · exact no_nul (written _ inside)
  · cases absolute : p.isAbsolute with
    | true => exact Nat.le_trans (size_place_le absolute) short
    | false => exact foldable.short absolute

/-- A path that may be folded leads where its absolute form leads. -/
theorem Foldable.spot_place (foldable : m.Foldable p) {spot : Spot}
    (found : m.tree.spot m.cwd p = .ok spot) : m.tree.spot m.cwd (place (m.namesOf p)) = .ok spot := by
  obtain ⟨named, follows⟩ := spot_eq_ok_iff.mp found
  have folded : Follows m.tree mostLinks [] (m.namesOf p) spot :=
    foldable.trail.follows_folded follows fun front back split link =>
      foldable.keeps_links ⟨front, back, split, link⟩
  refine spot_eq_ok_iff.mpr ⟨foldable.check_place named, ?_⟩
  by_cases root : m.namesOf p = []
  · rw [root] at folded ⊢
    exact .here folded
  · rw [steps_place foldable.isName_namesOf root]
    exact folded

/-- What is read through a path that may be folded is read through its absolute form. -/
theorem Foldable.read_absolute (foldable : m.Foldable p) (read : m.files.read p = .ok text)
    (located : m.files.absolute p = .ok file) : m.files.read file = .ok text := by
  obtain rfl : file = place (m.namesOf p) :=
    absolute_eq_place (fun relative name h => ((foldable.stands relative).names name h).1) located
  obtain ⟨spot, found⟩ := spot_of_readText read
  have same := readText_congr (found.trans (foldable.spot_place found).symm)
  exact same.symm.trans read

end Reading
end Machine

/-- What a walk finds comes only once, however it is spelled. -/
theorem Discovery.discover_distinct (files : Files) (entry : Path) (source : Option Text)
    (visited : PathSet) :
    (discover files entry source visited).found.Pairwise fun p q => ¬ Path.Same p q := by
  rcases discover_cases source files entry visited with ⟨_, _, nothing⟩ | ⟨file, text, _, _, walked⟩
  · rw [nothing]
    exact .nil
  · rw [walked]
    exact (Descends.iff_outcome.mpr rfl).found_distinct

namespace Builder

section Compiled
variable {W : Type} [HasFiles W] {b : Builder W} {path file : Path} {source : Text}
  {options : List Text} {compiled : Compiled} {w : W}

theorem compileWithDependencies_read (b : Builder W) (options : List Text)
    (read : (HasFiles.files w).read path = .ok source) :
    (b.compileWithDependencies path options w).result =
      (b.compile path source true options w).result.map fun js =>
        ⟨js, Dependencies.empty.addAll
          (Event.dependencies (b.compile path source true options w).events)⟩ := by
  have opened : (readFile path w).result = .ok source := by
    rw [readFile_eq, read]
    rfl
  have listened := congrArg Outcome.result (Action.bind_pure_eq
    (b.compile path source true options).listen
    (fun out => (⟨out.1, Dependencies.empty.addAll (Event.dependencies out.2)⟩ : Compiled)) w)
  unfold compileWithDependencies
  rw [Action.bind_after opened, readFile_eq, Outcome.result_after]
  refine listened.trans ?_
  rw [Action.listen]
  cases (b.compile path source true options w).result <;> rfl

/-- The dependencies that come with an output are what the walk over the source found. -/
theorem compileWithDependencies_done
    (done : (b.compileWithDependencies path options w).result = .ok compiled) :
    ∃ source, (HasFiles.files w).read path = .ok source ∧
      (walkOf path source w).failure = none ∧
      compiled.dependencies.toList = (walkOf path source w).found := by
  cases read : (HasFiles.files w).read path with
  | error cause =>
    have unread : (readFile path w).result = .error (.io path cause) := by
      rw [readFile_eq, read]
      rfl
    unfold compileWithDependencies at done
    rw [Action.bind_of_error unread] at done
    contradiction
  | ok source =>
    rw [compileWithDependencies_read b options read] at done
    cases result : (b.compile path source true options w).result with
    | error error =>
      rw [result] at done
      contradiction
    | ok js =>
      rw [result] at done
      obtain ⟨ended, reports⟩ := compile_done result
      refine ⟨source, rfl, ended, ?_⟩
      rw [← Except.ok.inj done, reports, Dependencies.toList_addAll_empty]
      exact Dependencies.withoutRepeats_of_distinct (Discovery.discover_distinct _ _ _ _)

theorem compile_result (b : Builder W) (options : List Text)
    (ended : (walkOf path source w).failure = none)
    (located : (HasFiles.files w).absolute path = .ok file) :
    (b.compile path source true options w).result =
      (b.compiler.compileSource (Anchoring.anchorIn file.dir.text source) (b.options.merged options)
        w).result.mapError (.compile path) := by
  rw [compile_followed b options ended, Outcome.result_after, compile_untracked b options located]

/-- If a path and its absolute form are read as one text, a walk that reads the file itself finds
the dependencies of an output. -/
theorem discover_compiled (done : (b.compileWithDependencies path options w).result = .ok compiled)
    (same : ∀ source file, (HasFiles.files w).read path = .ok source →
      (HasFiles.files w).absolute path = .ok file → (HasFiles.files w).read file = .ok source) :
    (Discovery.discover (HasFiles.files w) path none .empty).failure = none ∧
      (Discovery.discover (HasFiles.files w) path none .empty).found =
        compiled.dependencies.toList := by
  obtain ⟨source, read, ended, found⟩ := compileWithDependencies_done done
  obtain ⟨file, located⟩ := Discovery.located_of_ended ended
  have again : Discovery.discover (HasFiles.files w) path none .empty = walkOf path source w := by
    rw [walkOf, Discovery.discover_opened none located (same source file read located),
      Discovery.discover_opened (some source) located rfl]
  rw [again]
  exact ⟨ended, found.symm⟩

end Compiled
end Builder

namespace CommandLine

section Listings
variable {W : Type} [HasFiles W] {compilerFor : CompilerFor W} {env : Environment} {path : Path}
  {defaults : CompilerOptions} {options : List Text} {product : Product} {w : W}

theorem deps_ended (ended : (Discovery.discover (HasFiles.files w) path none .empty).failure = none) :
    (deps path w).result =
      .ok ⟨some (pathLines "" (Discovery.discover (HasFiles.files w) path none .empty).found), []⟩ := by
  unfold deps
  rw [Action.files_bind, Action.emit_bind, Outcome.result_after, ended]
  rfl

/-- A compilation that lists its dependencies lists those of its output. -/
theorem compile_listing
    (done : (compile compilerFor env path defaults options true w).result = .ok product) :
    ∃ (b : Builder W) (compiled : Compiled),
      (b.compileWithDependencies path options w).result = .ok compiled ∧
        product = ⟨some compiled.js, pathLines "depends on: " compiled.dependencies.toList⟩ := by
  let b : Builder W :=
    ⟨compilerFor (Compiler.Tsc.locate (HasFiles.files w) env.compiler (searchDir path)), defaults⟩
  have found : builderFor compilerFor env path defaults w = ⟨.ok b, [], w⟩ := Action.files_bind _ w
  unfold compile at done
  rw [Action.bind_after (congrArg Outcome.result found), found, Outcome.result_after,
    Action.bind_pure_eq, Action.mapError] at done
  refine ⟨b, ?_⟩
  cases result : (b.compileWithDependencies path options w).result with
  | error error =>
    rw [result] at done
    contradiction
  | ok compiled =>
    rw [result] at done
    exact ⟨compiled, rfl, (Except.ok.inj done).symm⟩

end Listings
end CommandLine

/-- For a path that may be folded, the dependencies that come with its output are those that are
collected from the file itself, and the command line lists the same ones either way. -/
theorem Machine.Foldable.dependencies_agree {m : Machine} {path : Path}
    (foldable : m.Foldable path) :
    (∀ (b : Builder Machine) (options : List Text) (compiled : Compiled),
      (b.compileWithDependencies path options m).result = .ok compiled →
        Discovery.collect m.files path none = .ok compiled.dependencies.toList) ∧
    ∀ (compilerFor : CommandLine.CompilerFor Machine) (env : CommandLine.Environment)
      (defaults : CompilerOptions) (options : List Text) (product : CommandLine.Product),
      (CommandLine.compile compilerFor env path defaults options true m).result = .ok product →
        ∃ files, product.notes = CommandLine.pathLines "depends on: " files ∧
          (CommandLine.deps path m).result = .ok ⟨some (CommandLine.pathLines "" files), []⟩ := by
  have same : ∀ source file, m.files.read path = .ok source → m.files.absolute path = .ok file →
      m.files.read file = .ok source := fun _ _ => foldable.read_absolute
  constructor
  · intro b options compiled done
    obtain ⟨ended, found⟩ := Builder.discover_compiled done same
    rw [← found]
    simp only [Discovery.collect]
    split
    · rfl
    · rename_i error failed
      exact nomatch ended.symm.trans failed
  · intro compilerFor env defaults options product done
    obtain ⟨b, compiled, built, rfl⟩ := CommandLine.compile_listing done
    obtain ⟨ended, found⟩ := Builder.discover_compiled built same
    refine ⟨_, rfl, ?_⟩
    rw [← found]
    exact CommandLine.deps_ended ended

/-- The source of an entry file with one reference. -/
def entryText : Text := "/// <reference path=\"/b.ts\" />\n".toList

def entryDirective : Directive := ⟨1, 0, ⟨21, 26⟩, .double, "/b.ts".toList, .ofString "/b.ts"⟩

/-- The entry file in a directory, next to another directory that a link leads to. -/
def linkedMachine : Machine where
  tree := ⟨[
    (["real".toList], .directory),
    (["real".toList, "sub".toList], .directory),
    (["link".toList], .link "real/sub".toList),
    (["real".toList, "main.ts".toList], .file (Utf8.encode entryText) false),
    (["b.ts".toList], .file [] false)]⟩
  cwd := []
  temporary := []
  scratches := 0
  environment := []

/-- A compiler that takes every source as it is. -/
def plainBuilder : Builder Machine where
  compiler := .scripted ⟨none, [], [], none, ⟨[], [], true⟩⟩
  options := .empty

/-- However the entry file is come to, its dependency is the other file. -/
theorem linkedMachine_compiled {path file : Path}
    (read : linkedMachine.files.read path = .ok entryText)
    (located : linkedMachine.files.absolute path = .ok file)
    (fresh : (PathSet.empty.insert file).contains (.ofString "/b.ts") = false) :
    ∃ compiled, (plainBuilder.compileWithDependencies path [] linkedMachine).result = .ok compiled ∧
      compiled.dependencies.toList = [.ofString "/b.ts"] := by
  have readable : linkedMachine.files.read (entryDirective.target file.dir) = .ok [] := by
    cbv
  have descent : Discovery.Descends linkedMachine.files (PathSet.empty.insert file) file
      (Directive.scan entryText)
      ⟨[.ofString "/b.ts"], (PathSet.empty.insert file).insert (.ofString "/b.ts"), none⟩ :=
    .entered fresh readable .done rfl .done
  have walked : (Builder.walkOf path entryText linkedMachine).outcome =
      ⟨[.ofString "/b.ts"], (PathSet.empty.insert file).insert (.ofString "/b.ts"), none⟩ := by
    change (Discovery.discover linkedMachine.files path (some entryText) .empty).outcome = _
    rw [Discovery.discover_opened (some entryText) located rfl]
    exact descent.outcome_eq
  have ended : (Builder.walkOf path entryText linkedMachine).failure = none :=
    congrArg Discovery.Descent.failure walked
  have result := Builder.compile_result plainBuilder [] ended located
  have reports := (Builder.compile_done result).2
  have built := Builder.compileWithDependencies_read plainBuilder [] read
  rw [result] at built
  refine ⟨_, built, ?_⟩
  have found : (Builder.walkOf path entryText linkedMachine).found = [.ofString "/b.ts"] :=
    congrArg Discovery.Descent.found walked
  rw [reports, found]
  rfl

/-- The only step up of this path is one from a directory. -/
theorem linkedMachine_foldable : linkedMachine.Foldable (.ofString "real/sub/../main.ts") := by
  have segments : FileTree.steps (Path.ofString "real/sub/../main.ts").text =
      ["real", "sub", "..", "main.ts"].map String.toList := by decide
  have there : linkedMachine.tree.follow FileTree.mostLinks [] ["real".toList] =
      .ok (.taken ["real".toList]) := by
    cbv
  have directory : ¬ linkedMachine.tree.NamesLink (["real".toList] ++ ["sub".toList]) :=
    FileTree.not_namesLink there rfl
  refine ⟨?_, fun _ => ⟨?_, ?_⟩, fun _ => by decide⟩
  · rintro ⟨front, back, split, link⟩
    rw [segments] at split
    rcases front with _ | ⟨real, _ | ⟨sub, _ | ⟨up, _ | ⟨last, more⟩⟩⟩⟩
    · simp at split
    · simp at split
    · obtain ⟨rfl, rfl, -⟩ : "real".toList = real ∧ "sub".toList = sub ∧ _ := by simpa using split
      exact directory link
    · simp at split
    · simp at split
  · simp [linkedMachine]
  · intro above h
    obtain rfl := List.prefix_nil.mp h
    rfl

/-- The same dependency is listed either way. -/
theorem linkedMachine_agrees :
    linkedMachine.Foldable (.ofString "real/sub/../main.ts") ∧
    ∃ compiled, (plainBuilder.compileWithDependencies (.ofString "real/sub/../main.ts") []
        linkedMachine).result = .ok compiled ∧
      compiled.dependencies.toList = [.ofString "/b.ts"] ∧
      Discovery.collect linkedMachine.files (.ofString "real/sub/../main.ts") none =
        .ok [.ofString "/b.ts"] := by
  have read : linkedMachine.files.read (.ofString "real/sub/../main.ts") = .ok entryText := by
    cbv
  obtain ⟨compiled, built, listed⟩ := linkedMachine_compiled read rfl (by decide)
  have agree := linkedMachine_foldable.dependencies_agree.1 plainBuilder [] compiled built
  rw [listed] at agree
  exact ⟨linkedMachine_foldable, compiled, built, listed, agree⟩

/-- A step up from a link leads to the directory above the target of the link when the path is
read, and to the one above the link when the path is folded. -/
theorem linkedMachine_disagrees :
    (∃ compiled, (plainBuilder.compileWithDependencies (.ofString "link/../main.ts") []
        linkedMachine).result = .ok compiled ∧
      compiled.dependencies.toList = [.ofString "/b.ts"]) ∧
    Discovery.collect linkedMachine.files (.ofString "link/../main.ts") none =
      .error (.fileRead (.ofString "/main.ts") none .notFound) := by
  have read : linkedMachine.files.read (.ofString "link/../main.ts") = .ok entryText := by
    cbv
  have unread : linkedMachine.files.read (.ofString "/main.ts") = .error .notFound := by
    cbv
  refine ⟨linkedMachine_compiled read rfl (by decide), ?_⟩
  have located : linkedMachine.files.absolute (.ofString "link/../main.ts") =
      .ok (.ofString "/main.ts") := rfl
  simp only [Discovery.collect, Discovery.discover_unreadable none located unread]

end TripleSlash
