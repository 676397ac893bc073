import TripleSlash.Proofs.LocalPrograms
import TripleSlash.Proofs.TextualParents

/-! Where the compiler for an input is found. The search goes from the directory of the input to
the parents that its text has, and each of these is one place on the machine, if it is one at all.
They are the directories above the input as long as the path does not step up; but the ones above
a relative path end at the current directory, so a compiler further up is missed. -/
namespace TripleSlash.Machine
open FileTree Compiler.Tsc

/-- The directory that holds the input, in the absolute form of its path. -/
def home? (m : Machine) (input : Path) : Option Location :=
  (m.files.absolute input).toOption.map fun file => file.dir.destination

/-- The nearest directory with a local compiler: the one that holds the input or one above it. -/
def nearest? (m : Machine) (input : Path) : Option Location :=
  (m.home? input).bind fun home => home.inits.reverse.find? m.tree.hasLocal

/-- The places that a path and its parents lead to, the path itself first. -/
def passed (m : Machine) (dir : Path) : List Location :=
  dir.segments.inits.reverse.filterMap (m.tree.reach (start m.cwd dir.text))

/-- What is found is the local compiler of a directory, or the bare program if there is none. -/
def Finds (m : Machine) (found : Path) : Option Location → Prop
  | some dir => found ≠ ⟨program⟩ ∧ m.tree.spot m.cwd found = .ok (.taken (dir ++ localNames))
  | none => found = ⟨program⟩

/-! ### The search -/

section Search
variable {m : Machine} {dir parent : Path}

theorem inits_concat_reverse {α : Type} (xs : List α) (x : α) :
    (xs ++ [x]).inits.reverse = (xs ++ [x]) :: xs.inits.reverse := by
  simp [List.inits_append]

/-- Of the beginnings of some parts the first that is wanted is the whole, or it is one of those
without the last part. -/
theorem find?_beginnings (tree : FileTree) (here : Location) (parts : List Part)
    (wanted : Location → Bool) :
    (parts.inits.reverse.filterMap (tree.reach here)).find? wanted =
      if (tree.reach here parts).any wanted then tree.reach here parts
      else (parts.dropLast.inits.reverse.filterMap (tree.reach here)).find? wanted := by
  rcases List.eq_nil_or_concat parts with rfl | ⟨init, last, rfl⟩
  · by_cases at_start : wanted here = true <;> simp [at_start]
  · rw [List.concat_eq_append, List.dropLast_concat, inits_concat_reverse, List.filterMap_cons]
    cases tree.reach here (init ++ [last]) with
    | none => simp
    | some there => by_cases at_end : wanted there = true <;> simp [at_end]

theorem ancestry_of_orphan (orphan : dir.parent? = none) (n : Nat) : ancestry n dir = [dir] := by
  cases n with
  | zero => rfl
  | succ n => rw [ancestry, orphan]; rfl

theorem ancestry_of_parent (above : dir.parent? = some parent) (n : Nat) :
    ancestry (n + 1) dir = dir :: ancestry n parent := by
  rw [ancestry, above]
  rfl

theorem any_reach_iff (plain : m.tree.Plain)
    (short : Text.size (localProgram dir).text ≤ longestPath) :
    (m.tree.reach (start m.cwd dir.text) dir.segments).any m.tree.hasLocal = true ↔
      m.files.isFile (localProgram dir) = true := by
  rw [isFile_localProgram_iff plain short]
  simp [Option.any_eq_true]

/-- The path itself is the first to be looked at. -/
theorem finds_first (plain : m.tree.Plain)
    (short : Text.size (localProgram dir).text ≤ longestPath)
    (isFile : m.files.isFile (localProgram dir) = true) :
    m.Finds (localProgram dir) ((m.passed dir).find? m.tree.hasLocal) := by
  obtain ⟨place, reached, here⟩ := (isFile_localProgram_iff plain short).mp isFile
  rw [passed, find?_beginnings, if_pos ((any_reach_iff plain short).mpr isFile), reached]
  exact ⟨localProgram_ne_program dir, spot_localProgram plain short reached here⟩

/-- If the path itself is not it, those come next that have one segment less. -/
theorem find?_passed_later (plain : m.tree.Plain)
    (short : Text.size (localProgram dir).text ≤ longestPath)
    (isFile : m.files.isFile (localProgram dir) = false) :
    (m.passed dir).find? m.tree.hasLocal = (dir.segments.dropLast.inits.reverse.filterMap
      (m.tree.reach (start m.cwd dir.text))).find? m.tree.hasLocal := by
  rw [passed, find?_beginnings, if_neg]
  rw [any_reach_iff plain short, isFile]
  decide

theorem finds_orphan (plain : m.tree.Plain) (orphan : dir.parent? = none)
    (short : Text.size (localProgram dir).text ≤ longestPath) :
    m.Finds (([localProgram dir].find? m.files.isFile).getD ⟨program⟩)
      ((m.passed dir).find? m.tree.hasLocal) := by
  cases isFile : m.files.isFile (localProgram dir) with
  | true =>
    rw [List.find?_cons_of_pos isFile]
    exact finds_first plain short isFile
  | false =>
    have nothing := Path.segments_of_orphan orphan
    have missing : m.tree.hasLocal (start m.cwd dir.text) = false := by
      have none_there := any_reach_iff plain short
      rw [isFile, nothing] at none_there
      simpa using none_there
    rw [List.find?_cons_of_neg (by simp [isFile]), passed, nothing]
    simp [missing, Finds]

/-- A path and its parents are searched as they lead from the start by their segments. -/
theorem finds_ancestry (plain : m.tree.Plain) (n : Nat) (enough : dir.text.length ≤ n)
    (short : Text.size (localProgram dir).text ≤ longestPath) :
    m.Finds ((((ancestry n dir).map localProgram).find? m.files.isFile).getD ⟨program⟩)
      ((m.passed dir).find? m.tree.hasLocal) := by
  -- From parent to parent, whose text is shorter each time.
  induction n generalizing dir with
  | zero =>
    obtain ⟨text⟩ := dir
    obtain rfl : text = [] := by simpa using enough
    exact finds_orphan plain rfl short
  | succ n ih =>
    cases above : dir.parent? with
    | none =>
      rw [ancestry_of_orphan above]
      exact finds_orphan plain above short
    | some parent =>
      rw [ancestry_of_parent above, List.map_cons]
      cases isFile : m.files.isFile (localProgram dir) with
      | true =>
        rw [List.find?_cons_of_pos isFile]
        exact finds_first plain short isFile
      | false =>
        have isParent := Path.isParent_of_parent? above
        obtain ⟨rest, some_rest, in_front⟩ := isParent.in_front
        have shorter : parent.text.length ≤ n := by
          have some_char := List.length_pos_of_ne_nil some_rest
          rw [in_front, List.length_append] at enough
          omega
        have origin : start m.cwd parent.text = start m.cwd dir.text := by
          rw [start_eq, start_eq, isParent.isAbsolute]
        have later := ih shorter (Nat.le_trans (size_localProgram_le in_front some_rest) short)
        rw [passed, isParent.segments, origin] at later
        rw [List.find?_cons_of_neg (by simp [isFile]), find?_passed_later plain short isFile]
        exact later

/-- Without a program from the environment the local compiler is that of the first place with one
among those that the path and its parents lead to. -/
theorem locate_finds (plain : m.tree.Plain) {named : Option Text}
    (unnamed : ∀ text, named = some text → m.files.present ⟨text⟩ = false)
    (short : Text.size (localProgram dir).text ≤ longestPath) :
    m.Finds (locate m.files named dir) ((m.passed dir).find? m.tree.hasLocal) := by
  have none_named : (named.filter fun text => m.files.present ⟨text⟩) = none := by
    rw [Option.filter_eq_none_iff]
    exact fun text h => by simp [unnamed text h]
  rw [locate, none_named]
  exact finds_ancestry plain _ le_rfl short

theorem Finds.unique {found : Path} {place other : Option Location} (finds : m.Finds found place)
    (again : m.Finds found other) : place = other := by
  cases place with
  | none =>
    cases other with
    | none => rfl
    | some dir => exact absurd finds again.1
  | some dir =>
    cases other with
    | none => exact absurd again finds.1
    | some dir' =>
      have same := Spot.taken.inj (Except.ok.inj (finds.2.symm.trans again.2))
      rw [List.append_cancel_right same]

end Search

/-! ### The directories above the input -/

section Home
variable {m : Machine} {input : Path}

/-- The input is held by the directory without the last of its names. -/
theorem home?_eq (plain : m.tree.Plain)
    (stands : input.isAbsolute = false → m.tree.find? m.cwd ≠ none) :
    m.home? input = some (m.namesOf input).dropLast := by
  have cwd_names : input.isAbsolute = false → ∀ name ∈ m.cwd, Part.IsName name := by
    intro relative name member
    obtain ⟨entry, found⟩ := Option.ne_none_iff_exists'.mp (stands relative)
    exact (plain.proper found member).1
  have located : ∃ file, m.files.absolute input = .ok file := by
    unfold Files.absolute
    split
    · exact ⟨_, rfl⟩
    · rename_i away
      have there := Option.isSome_iff_ne_none.mpr (stands (by simpa using away))
      simp [files, currentDir, there]
  obtain ⟨file, located⟩ := located
  have proper : ∀ name ∈ m.namesOf input, Part.IsName name := by
    intro name member
    rcases of_mem_namesOf member with ⟨relative, standing⟩ | ⟨isName, -⟩
    · exact cwd_names relative name standing
    · exact isName
  rw [home?, located, absolute_eq_place cwd_names located]
  exact congrArg some (destination_dir_place proper)

/-- In a directory that was taken away a relative path is held by none. -/
theorem home?_gone (relative : input.isAbsolute = false) (gone : m.tree.find? m.cwd = none) :
    m.home? input = none := by
  have lost : m.files.absolute input = .error (.currentDir input .notFound) := by
    simp [Files.absolute, files, currentDir, relative, gone]
  rw [home?, lost]
  rfl

/-- The directories from a place up are those down to some place on the way, and then the ones
that are above that. -/
theorem inits_append_reverse {α : Type} (xs ys : List α) : ∃ above,
    (xs ++ ys).inits.reverse = ys.inits.reverse.map (xs ++ ·) ++ above ∧
      ∀ zs ∈ above, ¬ xs <+: zs := by
  induction xs with
  | nil => exact ⟨[], by simp, by simp⟩
  | cons x xs ih =>
    obtain ⟨above, split, short⟩ := ih
    refine ⟨above.map (x :: ·) ++ [[]], ?_, ?_⟩
    · rw [List.cons_append, List.inits_cons, List.reverse_cons, ← List.map_reverse, split]
      simp
    · intro zs member
      rcases List.mem_append.mp member with inside | root
      · obtain ⟨rest, later, rfl⟩ := List.mem_map.mp inside
        rw [List.prefix_cons_inj]
        exact short rest later
      · obtain rfl := List.mem_singleton.mp root
        simp

/-- Of the directories from a place up the first that is wanted is found among those down to some
place on the way, unless there is none but above that. -/
theorem find?_inits_append {α : Type} (wanted : List α → Bool) (xs ys : List α) :
    (ys.inits.reverse.map (xs ++ ·)).find? wanted = (xs ++ ys).inits.reverse.find? wanted ↔
      ∀ zs, (xs ++ ys).inits.reverse.find? wanted = some zs → xs <+: zs := by
  obtain ⟨above, split, outside⟩ := inits_append_reverse xs ys
  rw [split, List.find?_append]
  cases first : (ys.inits.reverse.map (xs ++ ·)).find? wanted with
  | some zs =>
    obtain ⟨way, -, rfl⟩ := List.mem_map.mp (List.mem_of_find?_eq_some first)
    simp
  | none =>
    rw [Option.none_or]
    constructor
    · intro missing
      simp [← missing]
    · intro reaches
      cases found : above.find? wanted with
      | none => rfl
      | some zs => exact absurd (reaches zs found) (outside zs (List.mem_of_find?_eq_some found))

theorem reach_of_hasLocal {tree : FileTree} {here names : List Text} (nested : tree.Nested)
    (compiler : tree.hasLocal (here ++ names) = true) :
    tree.reach here (names.map .name) = some (here ++ names) := by
  obtain ⟨_, _, found⟩ := hasLocal_iff.mp compiler
  exact nested.reach_names_iff.mpr ⟨rfl, fun _ => nested.directory_above found (by decide)⟩

/-- Among places that are come to by names alone only the files have to be looked for. -/
theorem find?_reached {tree : FileTree} (nested : tree.Nested) (here : Location)
    (ways : List (List Text)) :
    ((ways.map fun names => names.map Part.name).filterMap (tree.reach here)).find? tree.hasLocal =
      (ways.map (here ++ ·)).find? tree.hasLocal := by
  induction ways with
  | nil => rfl
  | cons names ways ih =>
    rw [List.map_cons, List.map_cons, List.filterMap_cons]
    cases reached : tree.reach here (names.map .name) with
    | some there =>
      obtain ⟨rfl, -⟩ := nested.reach_names_iff.mp reached
      rw [List.find?_cons, List.find?_cons, ih]
    | none =>
      have missing : ¬ tree.hasLocal (here ++ names) = true := fun compiler =>
        nomatch reached.symm.trans (reach_of_hasLocal nested compiler)
      rw [List.find?_cons_of_neg missing]
      exact ih

section Straight
variable {names : List Text} {file : Text}

theorem find?_passed_straight (nested : m.tree.Nested)
    (shape : input.segments = (names ++ [file]).map .name) :
    (m.passed (CommandLine.searchDir input)).find? m.tree.hasLocal =
      (names.inits.reverse.map (start m.cwd input.text ++ ·)).find? m.tree.hasLocal := by
  have some_segment : input.segments ≠ [] := by simp [shape]
  have origin : start m.cwd (CommandLine.searchDir input).text = start m.cwd input.text := by
    rw [start_eq, start_eq, CommandLine.isAbsolute_searchDir some_segment]
  have dir : (CommandLine.searchDir input).segments = names.map .name := by
    rw [CommandLine.segments_searchDir, shape, List.map_append]
    exact List.dropLast_concat
  rw [passed, dir, origin, List.map_inits, ← List.map_reverse]
  exact find?_reached nested _ _

theorem nearest?_straight (plain : m.tree.Plain)
    (stands : input.isAbsolute = false → m.tree.find? m.cwd ≠ none)
    (shape : input.segments = (names ++ [file]).map .name) :
    m.nearest? input = (start m.cwd input.text ++ names).inits.reverse.find? m.tree.hasLocal := by
  rw [nearest?, home?_eq plain stands, namesOf_eq, shape, foldl_enter_names, ← List.append_assoc,
    List.dropLast_concat]
  rfl

/-- In a directory that was taken away nothing is found. -/
theorem find?_gone (nested : m.tree.Nested) {here : Location} (gone : m.tree.find? here = none)
    (ways : List (List Text)) : (ways.map (here ++ ·)).find? m.tree.hasLocal = none := by
  refine List.find?_eq_none.mpr fun place member compiler => ?_
  obtain ⟨names, -, rfl⟩ := List.mem_map.mp member
  obtain ⟨_, _, found⟩ := hasLocal_iff.mp compiler
  rw [List.append_assoc] at found
  exact nomatch (nested.find?_below gone (List.prefix_append _ _)).symm.trans found

/-- By names alone the search passes the directories from the one that holds the input up to where
the path starts. -/
theorem find?_passed_eq_iff (plain : m.tree.Plain)
    (shape : input.segments = (names ++ [file]).map .name) :
    (m.passed (CommandLine.searchDir input)).find? m.tree.hasLocal = m.nearest? input ↔
      input.isAbsolute = true ∨ ∀ dir, m.nearest? input = some dir → m.cwd <+: dir := by
  have passed := find?_passed_straight plain.nested shape
  have origin := start_eq m.cwd input
  cases absolute : input.isAbsolute with
  | true =>
    have stands : input.isAbsolute = false → m.tree.find? m.cwd ≠ none := by simp [absolute]
    rw [absolute, if_pos rfl] at origin
    rw [passed, nearest?_straight plain stands shape, find?_inits_append, origin]
    simp
  | false =>
    rw [absolute, if_neg Bool.false_ne_true] at origin
    by_cases gone : m.tree.find? m.cwd = none
    · have nowhere : m.nearest? input = none := by
        rw [nearest?, home?_gone absolute gone]
        rfl
      rw [passed, nowhere, origin, find?_gone plain.nested gone]
      simp
    · rw [passed, nearest?_straight plain (fun _ => gone) shape, find?_inits_append, origin]
      simp

end Straight
end Home

/-- The compiler that is found is the nearest one just if the first of the places that the search
passes is the nearest directory with one. For a path to a file that does not step up this is so
unless the path is relative and the nearest one is above the current directory. -/
theorem locate_nearest_iff {m : Machine} {named : Option Text} {input : Path}
    (plain : m.tree.Plain)
    (unnamed : ∀ text, named = some text → m.files.present ⟨text⟩ = false)
    (short : Text.size (localProgram (CommandLine.searchDir input)).text ≤ longestPath) :
    (m.Finds (locate m.files named (CommandLine.searchDir input)) (m.nearest? input) ↔
      (m.passed (CommandLine.searchDir input)).find? m.tree.hasLocal = m.nearest? input) ∧
    ∀ file, input.fileName? = some file → .up ∉ input.parts →
      (m.Finds (locate m.files named (CommandLine.searchDir input)) (m.nearest? input) ↔
        input.isAbsolute = true ∨ ∀ dir, m.nearest? input = some dir → m.cwd <+: dir) := by
  have finds := locate_finds plain unnamed short
  have first : m.Finds (locate m.files named (CommandLine.searchDir input)) (m.nearest? input) ↔
      (m.passed (CommandLine.searchDir input)).find? m.tree.hasLocal = m.nearest? input :=
    ⟨fun nearest => finds.unique nearest, fun same => same ▸ finds⟩
  refine ⟨first, fun file named straight => first.trans ?_⟩
  obtain ⟨names, shape⟩ := Path.segments_of_straight named straight
  exact find?_passed_eq_iff plain shape

/-- A package with a compiler, seen from a directory in it. -/
def packageMachine : Machine where
  tree := ⟨[
    (["work"].map String.toList, .directory),
    (["work", "node_modules"].map String.toList, .directory),
    (["work", "node_modules", ".bin"].map String.toList, .directory),
    (["work", "node_modules", ".bin", "tsc"].map String.toList, .file [] true),
    (["work", "app"].map String.toList, .directory),
    (["work", "app", "main.ts"].map String.toList, .file [] false),
    (["main.ts"].map String.toList, .file [] false)]⟩
  cwd := ["work", "app"].map String.toList
  temporary := []
  scratches := 0
  environment := []

theorem packageMachine_plain : packageMachine.tree.Plain where
  nested := by decide
  names := by decide
  no_link := by simp [packageMachine]

/-- The file of the package, from the root and from the directory that it is in. -/
def mainPath : Path := .ofString "/work/app/main.ts"

def mainName : Path := .ofString "main.ts"

/-- A file outside of the package, by a way that goes through it. -/
def outsidePath : Path := .ofString "/work/app/../../main.ts"

/-- Nothing is named by the environment. -/
theorem packageMachine_unnamed :
    ∀ text, none = some text → packageMachine.files.present ⟨text⟩ = false := by
  simp

/-- By an absolute path the compiler of the package is found from below. -/
theorem packageMachine_finds :
    (packageMachine.tree.Plain ∧
      (∀ text, none = some text → packageMachine.files.present ⟨text⟩ = false) ∧
      Text.size (localProgram (CommandLine.searchDir mainPath)).text ≤ longestPath ∧
      mainPath.fileName? = some "main.ts".toList ∧ .up ∉ mainPath.parts) ∧
    packageMachine.nearest? mainPath = some ["work".toList] ∧
    packageMachine.Finds (locate packageMachine.files none (CommandLine.searchDir mainPath))
      (some ["work".toList]) := by
  have short : Text.size (localProgram (CommandLine.searchDir mainPath)).text ≤ longestPath := by
    decide
  have named : mainPath.fileName? = some "main.ts".toList := by decide
  have straight : .up ∉ mainPath.parts := by decide
  have nearest : packageMachine.nearest? mainPath = some ["work".toList] := by decide
  have found := ((locate_nearest_iff packageMachine_plain packageMachine_unnamed short).2 _ named
    straight).mpr (Or.inl rfl)
  rw [nearest] at found
  exact ⟨⟨packageMachine_plain, packageMachine_unnamed, short, named, straight⟩, nearest, found⟩

/-- By its name alone the same file is compiled with whatever is on the search path, and by the
detour the compiler of the package is found for a file outside of it. -/
theorem packageMachine_misses :
    packageMachine.tree.Plain ∧
    (packageMachine.nearest? mainName = some ["work".toList] ∧
      locate packageMachine.files none (CommandLine.searchDir mainName) = ⟨program⟩) ∧
    packageMachine.nearest? outsidePath = none ∧
    packageMachine.Finds (locate packageMachine.files none (CommandLine.searchDir outsidePath))
      (some ["work".toList]) := by
  have passed_by_name : (packageMachine.passed (CommandLine.searchDir mainName)).find?
      packageMachine.tree.hasLocal = none := by decide
  have passed_by_detour : (packageMachine.passed (CommandLine.searchDir outsidePath)).find?
      packageMachine.tree.hasLocal = some ["work".toList] := by decide
  have by_name := locate_finds packageMachine_plain packageMachine_unnamed
    (by decide : Text.size (localProgram (CommandLine.searchDir mainName)).text ≤ longestPath)
  have by_detour := locate_finds packageMachine_plain packageMachine_unnamed
    (by decide : Text.size (localProgram (CommandLine.searchDir outsidePath)).text ≤ longestPath)
  rw [passed_by_name] at by_name
  rw [passed_by_detour] at by_detour
  exact ⟨packageMachine_plain, ⟨by decide, by_name⟩, by decide, by_detour⟩

end TripleSlash.Machine
