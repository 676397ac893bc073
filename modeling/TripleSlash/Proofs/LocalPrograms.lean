import TripleSlash.Proofs.PlainTrees

/-! The local compiler of a directory. It is named by the path of the directory with three names
behind it, and in a tree without links it is a file just if the directory is one that the path
leads to and the file is there below it. -/
namespace TripleSlash

namespace FileTree

/-- The way from a directory to the compiler that a package manager puts below it. -/
def localNames : List Text := ["node_modules", ".bin", "tsc"].map String.toList

/-- A regular file is there for the local compiler of a directory. -/
def hasLocal (tree : FileTree) (dir : Location) : Bool :=
  match tree.find? (dir ++ localNames) with
  | some (.file ..) => true
  | _ => false

end FileTree

namespace Path

section Joins
variable {p q r : Path} {c : Char}

theorem mem_text_join (p : Path) (relative : q.isAbsolute = false) (no_slash : c ≠ '/') :
    c ∈ (p.join q).text ↔ c ∈ p.text ∨ c ∈ q.text := by
  rw [text_join p relative]
  rcases p.gap_cases with none | slash
  · simp [none]
  · simp [slash, no_slash]

theorem size_join_le (p : Path) (relative : q.isAbsolute = false) :
    Text.size (p.join q).text ≤ Text.size p.text + 1 + Text.size q.text := by
  have slash : Char.utf8Size '/' = 1 := by decide
  rw [text_join p relative]
  rcases p.gap_cases with none | one
  · simp [none]
  · simp only [one, Text.size_append, Text.size_cons, Text.size_nil, slash]
    omega

theorem le_size_join (p : Path) (relative : q.isAbsolute = false) :
    Text.size p.text + Text.size q.text ≤ Text.size (p.join q).text := by
  rw [text_join p relative, Text.size_append, Text.size_append]
  omega

/-- Besides slashes and dots a path holds the characters of its names. -/
theorem of_mem_text (inside : c ∈ p.text) :
    c = '/' ∨ c = '.' ∨ ∃ name, .name name ∈ p.segments ∧ c ∈ name := by
  rw [← Text.joinWith_splitAt '/' p.text] at inside
  refine (Text.of_mem_joinWith inside).imp_right fun ⟨segment, member, within⟩ => ?_
  rcases inner?_cases (List.ne_nil_of_mem within) with ⟨rfl, -⟩ | ⟨rfl, -⟩ | ⟨-, -, seen⟩
  · exact Or.inl (List.mem_singleton.mp within)
  · exact Or.inl (by simpa using within)
  · exact Or.inr ⟨segment, List.mem_filterMap.mpr ⟨segment, member, seen⟩, within⟩

/-- Seen from something that does not end in a slash, a path is one with it. -/
theorem join_join (p : Path) (relative : q.isAbsolute = false) (some_char : q.text ≠ [])
    (unfinished : q.text.getLast? ≠ some '/') (relative' : r.isAbsolute = false) :
    (p.join q).join r = p.join ⟨q.text ++ '/' :: r.text⟩ := by
  have joined : (Path.mk (q.text ++ '/' :: r.text)).isAbsolute = false := by
    obtain ⟨c, rest, shape⟩ := List.exists_cons_of_ne_nil some_char
    rw [isAbsolute, shape] at relative ⊢
    exact relative
  have gap : (p.join q).gap = ['/'] := by
    rw [Path.gap, text_join p relative, List.getLast?_append_of_ne_nil _ some_char]
    simp [some_char, unfinished]
  have same := text_join (p.join q) relative'
  rw [gap, text_join p relative] at same
  have whole := text_join p joined
  rw [Path.mk.injEq, same, whole]
  simp

end Joins
end Path

namespace Compiler.Tsc
open FileTree

/-- The local compiler of a directory, seen from there. -/
def localPath : Path := .ofString "node_modules/.bin/tsc"

section LocalPrograms
variable {dir : Path}

theorem localProgram_eq_join (dir : Path) : localProgram dir = dir.join localPath := by
  have first := Path.join_join dir (q := .ofString "node_modules") (r := .ofString ".bin") rfl
    (by decide) (by decide) rfl
  have second := Path.join_join dir (q := .ofString "node_modules/.bin") (r := ⟨program⟩) rfl
    (by decide) (by decide) rfl
  rw [localProgram, first]
  exact second

theorem isAbsolute_localProgram (dir : Path) : (localProgram dir).isAbsolute = dir.isAbsolute := by
  rw [localProgram_eq_join, Path.isAbsolute_join_eq dir rfl]

theorem start_localProgram (cwd : Location) (dir : Path) :
    start cwd (localProgram dir).text = start cwd dir.text := by
  rw [start_eq, start_eq, isAbsolute_localProgram]

theorem localProgram_ne_program (dir : Path) : localProgram dir ≠ ⟨program⟩ := by
  intro same
  have inside : '/' ∈ (localProgram dir).text := by
    rw [localProgram_eq_join, Path.text_join dir rfl]
    exact List.mem_append_right _ (by decide)
  rw [same] at inside
  exact absurd inside (by decide)

/-- The local compiler is looked up by the names of the directory and three more. -/
theorem steps_localProgram (dir : Path) :
    steps (localProgram dir).text = namesIn dir.text ++ localNames := by
  have names : namesIn localPath.text = localNames := by decide
  rw [localProgram_eq_join, steps_join dir rfl (by decide) (by decide), names]

theorem size_localProgram_le {above : Path} {rest : Text} (in_front : dir.text = above.text ++ rest)
    (some_rest : rest ≠ []) :
    Text.size (localProgram above).text ≤ Text.size (localProgram dir).text := by
  have lower := Path.size_join_le above (q := localPath) rfl
  have upper := Path.le_size_join dir (q := localPath) rfl
  have longer := Text.length_le_size rest
  have some_char := List.length_pos_of_ne_nil some_rest
  rw [localProgram_eq_join, localProgram_eq_join]
  rw [in_front, Text.size_append] at upper
  omega

end LocalPrograms
end Compiler.Tsc

namespace FileTree
variable {tree : FileTree} {cwd dir : Location} {p : Path}

theorem hasLocal_iff : tree.hasLocal dir = true ↔
    ∃ bytes executable, tree.find? (dir ++ localNames) = some (.file bytes executable) := by
  unfold hasLocal
  split
  · rename_i bytes executable found
    simp [found]
  · rename_i other
    simpa using fun bytes executable found => other bytes executable found

theorem isFile_iff : tree.isFile cwd p = true ↔ ∃ place bytes executable,
    tree.spot cwd p = .ok (.taken place) ∧ tree.find? place = some (.file bytes executable) := by
  simp only [isFile, entry]
  cases tree.spot cwd p with
  | error cause => simp [bind, Except.bind]
  | ok spot =>
    cases spot with
    | free => simp [bind, Except.bind]
    | taken place =>
      simp only [bind, Except.bind, Except.ok.injEq, Spot.taken.injEq, exists_and_left]
      rcases found : tree.find? place with _ | (_ | _ | _ | _) <;> simp [found]

end FileTree

namespace Machine
open FileTree Compiler.Tsc

section Candidates
variable {m : Machine} {dir : Path} {place : Location}

theorem segments_eq_names (p : Path) : p.segments = (namesIn p.text).filterMap Path.inner? :=
  (filterMap_filter_inner? _).symm

/-- Where a local compiler is followed to, if anything can be followed that far. -/
theorem follows_localProgram_iff (plain : m.tree.Plain) {links : Nat} {here : Location}
    {spot : Spot} : Follows m.tree links here (steps (localProgram dir).text) spot ↔
      ∃ there, m.tree.reach here dir.segments = some there ∧
        Follows m.tree links there localNames spot := by
  have some_char : ∀ segment ∈ namesIn dir.text, segment ≠ [] := fun _ h =>
    (mem_splitAt_of_mem_filter h).1
  rw [steps_localProgram, plain.follows_append_iff some_char (by decide), segments_eq_names]

theorem isName_localNames : ∀ name ∈ localNames, Part.IsName name := by decide

theorem follows_localNames_iff (plain : m.tree.Plain) {links : Nat} {here : Location}
    {bytes : Bytes} {executable : Bool}
    (found : m.tree.find? place = some (.file bytes executable)) :
    Follows m.tree links here localNames (.taken place) ↔ here ++ localNames = place :=
  plain.follows_leaf_iff isName_localNames (by decide) found rfl

/-- A path that can be followed has no zero in it. -/
theorem check_localProgram (plain : m.tree.Plain)
    (short : Text.size (localProgram dir).text ≤ longestPath)
    (reached : m.tree.reach (start m.cwd dir.text) dir.segments = some place) :
    check (localProgram dir).text = .ok () := by
  rw [localProgram_eq_join] at short ⊢
  refine check_eq_ok_iff.mpr ⟨fun nul => ?_, fun empty => ?_, short⟩
  · rcases (Path.mem_text_join dir rfl (by decide)).mp nul with inside | constant
    · obtain slash | dot | ⟨name, member, inside⟩ := Path.of_mem_text inside
      · contradiction
      · contradiction
      · exact plain.not_nul reached member inside
    · exact absurd constant (by decide)
  · rw [Path.text_join dir rfl] at empty
    exact absurd (List.append_eq_nil_iff.mp empty).2 (by decide)

theorem spot_localProgram (plain : m.tree.Plain)
    (short : Text.size (localProgram dir).text ≤ longestPath)
    (reached : m.tree.reach (start m.cwd dir.text) dir.segments = some place)
    (here : m.tree.hasLocal place = true) :
    m.tree.spot m.cwd (localProgram dir) = .ok (.taken (place ++ localNames)) := by
  obtain ⟨bytes, executable, found⟩ := hasLocal_iff.mp here
  refine spot_eq_ok_iff.mpr ⟨check_localProgram plain short reached, ?_⟩
  rw [start_localProgram, follows_localProgram_iff plain]
  exact ⟨place, reached, (follows_localNames_iff plain found).mpr rfl⟩

/-- A directory has a local compiler just if its path leads to one that has. -/
theorem isFile_localProgram_iff (plain : m.tree.Plain)
    (short : Text.size (localProgram dir).text ≤ longestPath) :
    m.files.isFile (localProgram dir) = true ↔ ∃ place,
      m.tree.reach (start m.cwd dir.text) dir.segments = some place ∧
        m.tree.hasLocal place = true := by
  constructor
  · intro isFile
    obtain ⟨there, bytes, executable, spot, found⟩ := isFile_iff.mp isFile
    have follows := (spot_eq_ok_iff.mp spot).2
    rw [start_localProgram, follows_localProgram_iff plain] at follows
    obtain ⟨place, reached, behind⟩ := follows
    rw [← (follows_localNames_iff plain found).mp behind] at found
    exact ⟨place, reached, hasLocal_iff.mpr ⟨bytes, executable, found⟩⟩
  · rintro ⟨place, reached, here⟩
    obtain ⟨bytes, executable, found⟩ := hasLocal_iff.mp here
    exact isFile_iff.mpr ⟨_, bytes, executable, spot_localProgram plain short reached here, found⟩

end Candidates

end Machine
end TripleSlash
