import TripleSlash.Proofs.EntryTexts
import TripleSlash.Proofs.ScratchDirectories
import TripleSlash.Proofs.CanonicalPaths

/-! Paths in a tree without links. The parts of a path are gone through one by one: a name leads
into a directory only, and a step up leads to the directory that holds the one it is taken from. -/
namespace TripleSlash.FileTree

/-- A tree of files and directories, all of which have names that can be looked up. -/
structure Plain (tree : FileTree) : Prop where
  nested : tree.Nested
  names : ∀ e ∈ tree.entries, ∀ name ∈ e.1,
    Part.IsName name ∧ '\x00' ∉ name ∧ Text.size name ≤ longestName
  no_link : ∀ e ∈ tree.entries, ∀ target, e.2 ≠ .link target

/-- Where a part leads from a place. -/
def enter? (tree : FileTree) (here : Location) : Part → Option Location
  | .name text =>
    if tree.find? (here ++ [text]) = some .directory then some (here ++ [text]) else none
  | part => some (Path.enter here part)

/-- Where some parts lead from a place, one after the other. -/
def reach (tree : FileTree) (here : Location) (parts : List Part) : Option Location :=
  parts.foldlM tree.enter? here

section Reach
variable {tree : FileTree} {here there place : Location} {name : Text} {entry : Entry}
  {front back names : List Text} {parts : List Part} {links : Nat} {spot : Spot}

@[simp] theorem reach_nil (tree : FileTree) (here : Location) : tree.reach here [] = some here := rfl

theorem reach_cons (tree : FileTree) (here : Location) (part : Part) (parts : List Part) :
    tree.reach here (part :: parts) = (tree.enter? here part).bind fun there => tree.reach there parts :=
  rfl

theorem reach_append (tree : FileTree) (here : Location) (front back : List Part) :
    tree.reach here (front ++ back) = (tree.reach here front).bind fun there => tree.reach there back :=
  List.foldlM_append

theorem enter?_name_eq_some_iff : tree.enter? here (.name name) = some there ↔
    tree.find? (here ++ [name]) = some .directory ∧ here ++ [name] = there := by
  simp [enter?]

theorem Plain.proper (plain : tree.Plain) (found : tree.find? place = some entry)
    (member : name ∈ place) : Part.IsName name ∧ '\x00' ∉ name ∧ Text.size name ≤ longestName :=
  plain.names _ (mem_entries_of_find? found (List.ne_nil_of_mem member)) name member

theorem Plain.not_link (plain : tree.Plain) (target : Text) :
    tree.find? place ≠ some (.link target) := by
  intro found
  by_cases root : place = []
  · rw [find?, if_pos root] at found
    cases found
  · exact plain.no_link _ (mem_entries_of_find? found root) target rfl

theorem Nested.find?_above (nested : tree.Nested) (found : tree.find? (here ++ [name]) = some entry) :
    tree.find? here = some .directory := by
  have above := nested _ (mem_entries_of_find? found (by simp))
  rwa [List.dropLast_concat] at above

/-- What is there by a name in a plain tree is looked up by it. -/
theorem Plain.looks (plain : tree.Plain) (found : tree.find? (here ++ [name]) = some entry) :
    Looks tree here name := by
  obtain ⟨isName, -, short⟩ := plain.proper found (by simp : name ∈ here ++ [name])
  exact ⟨isName.not_here, isName.not_up, by simp [plain.nested.find?_above found], short⟩

theorem follows_here_iff {rest : List Text} : Follows tree links here (['.'] :: rest) spot ↔
    Follows tree links here rest spot := by
  rw [← follow_eq_ok_iff, ← follow_eq_ok_iff, follow, if_pos rfl]

theorem follows_up_iff {rest : List Text} : Follows tree links here (['.', '.'] :: rest) spot ↔
    Follows tree links here.dropLast rest spot := by
  rw [← follow_eq_ok_iff, ← follow_eq_ok_iff, follow, if_neg (by decide), if_pos rfl]

/-- Behind the name of anything but a directory nothing is followed. -/
theorem Plain.follows_name_iff (plain : tree.Plain) {rest : List Text} (not_here : name ≠ ['.'])
    (not_up : name ≠ ['.', '.']) (on : rest ≠ []) : Follows tree links here (name :: rest) spot ↔
      tree.find? (here ++ [name]) = some .directory ∧
        Follows tree links (here ++ [name]) rest spot := by
  constructor
  · intro follows
    cases follows with
    | here => exact absurd rfl not_here
    | up => exact absurd rfl not_up
    | free | leaf => exact absurd rfl on
    | directory _ found later => exact ⟨found, later⟩
    | link _ found => exact absurd found (plain.not_link _)
  · rintro ⟨found, later⟩
    exact .directory (plain.looks found) found later

/-- What is followed behind some segments is followed from the place that these lead to. -/
theorem Plain.follows_append_iff (plain : tree.Plain) (some_char : ∀ segment ∈ front, segment ≠ [])
    (on : back ≠ []) : Follows tree links here (front ++ back) spot ↔
      ∃ there, tree.reach here (front.filterMap Path.inner?) = some there ∧
        Follows tree links there back spot := by
  induction front generalizing here with
  | nil => simp
  | cons segment rest ih =>
    have later (here : Location) : Follows tree links here (rest ++ back) spot ↔
        ∃ there, tree.reach here (rest.filterMap Path.inner?) = some there ∧
          Follows tree links there back spot :=
      ih fun s h => some_char s (List.mem_cons_of_mem _ h)
    have on' : rest ++ back ≠ [] := by simp [on]
    rw [List.cons_append]
    rcases Path.inner?_cases (some_char segment List.mem_cons_self) with
      ⟨rfl, unseen⟩ | ⟨rfl, seen⟩ | ⟨not_here, not_up, seen⟩
    · rw [List.filterMap_cons_none unseen, follows_here_iff, later]
    · rw [List.filterMap_cons_some seen, follows_up_iff, later]
      rfl
    · rw [List.filterMap_cons_some seen, plain.follows_name_iff not_here not_up on', later,
        reach_cons]
      simp only [Option.bind_eq_some_iff, enter?_name_eq_some_iff]
      constructor
      · rintro ⟨found, there, reached, follows⟩
        exact ⟨there, ⟨_, ⟨found, rfl⟩, reached⟩, follows⟩
      · rintro ⟨there, ⟨_, ⟨found, rfl⟩, reached⟩, follows⟩
        exact ⟨found, there, reached, follows⟩

/-- Names lead to the directory that they name below a place, if it is one. -/
theorem Nested.reach_names_iff (nested : tree.Nested) :
    tree.reach here (names.map .name) = some there ↔
      here ++ names = there ∧ (names ≠ [] → tree.find? there = some .directory) := by
  induction names using List.reverseRecOn generalizing there with
  | nil => simp
  | append_singleton names name ih =>
    rw [List.map_append, reach_append, Option.bind_eq_some_iff]
    simp only [ih, List.map_singleton, reach_cons, reach_nil, Option.bind_eq_some_iff,
      enter?_name_eq_some_iff]
    constructor
    · rintro ⟨_, ⟨rfl, -⟩, _, ⟨found, rfl⟩, ⟨⟩⟩
      rw [List.append_assoc] at found ⊢
      exact ⟨rfl, fun _ => found⟩
    · rintro ⟨rfl, found⟩
      have found := found (by simp)
      rw [← List.append_assoc] at found
      refine ⟨_, ⟨rfl, fun _ => nested.find?_above found⟩, _, ⟨found, rfl⟩, ?_⟩
      rw [List.append_assoc]

/-- What is above something that is there is a directory. -/
theorem Nested.directory_above (nested : tree.Nested)
    (found : tree.find? (here ++ names) = some entry) (below : names ≠ []) :
    tree.find? here = some .directory := by
  induction names using List.reverseRecOn generalizing entry with
  | nil => contradiction
  | append_singleton names name ih =>
    rw [← List.append_assoc] at found
    have above := nested.find?_above found
    by_cases last : names = []
    · rwa [last, List.append_nil] at above
    · exact ih above last

/-- Names lead to a file just if it stands at the place that they name. -/
theorem Plain.follows_leaf_iff (plain : tree.Plain) (proper : ∀ name ∈ names, Part.IsName name)
    (some_name : names ≠ []) (found : tree.find? place = some entry) (leaf : entry.isLeaf = true) :
    Follows tree links here names (.taken place) ↔ here ++ names = place := by
  induction names generalizing here with
  | nil => contradiction
  | cons name rest ih =>
    have isName := proper name List.mem_cons_self
    by_cases last : rest = []
    · subst last
      constructor
      · intro follows
        cases follows with
        | here => exact absurd rfl isName.not_here
        | up => exact absurd rfl isName.not_up
        | leaf => rfl
        | directory _ inner later =>
          cases later
          cases found.symm.trans inner
          contradiction
        | link _ inner => exact absurd inner (plain.not_link _)
      · rintro rfl
        exact .leaf (plain.looks found) found leaf
    · have whole : here ++ name :: rest = here ++ [name] ++ rest := by simp
      rw [plain.follows_name_iff isName.not_here isName.not_up last,
        ih (fun n h => proper n (List.mem_cons_of_mem _ h)) last, whole]
      refine ⟨fun h => h.2, fun same => ⟨?_, same⟩⟩
      rw [← same] at found
      exact plain.nested.directory_above found last

/-- A part that leads on is no name with a zero in it. -/
theorem Plain.not_nul (plain : tree.Plain) (reached : tree.reach here parts = some there)
    (member : .name name ∈ parts) : '\x00' ∉ name := by
  induction parts generalizing here with
  | nil => contradiction
  | cons part rest ih =>
    obtain ⟨next, entered, later⟩ := Option.bind_eq_some_iff.mp reached
    rcases List.mem_cons.mp member with rfl | behind
    · have found := (enter?_name_eq_some_iff.mp entered).1
      exact (plain.proper found (by simp : name ∈ here ++ [name])).2.1
    · exact ih later behind

end Reach
end TripleSlash.FileTree
