import TripleSlash.Machine
import TripleSlash.Proofs.AnchoredScan
import TripleSlash.Proofs.CanonicalPaths
import TripleSlash.Proofs.Following

/-! The absolute form of a path on a machine. It is written with the names that the segments of
the path come to by their text alone, from the root or from the current directory, and the same
segments are what a machine follows when it is given the path as it stands. -/
namespace TripleSlash

namespace FileTree

theorem start_eq (cwd : Location) (p : Path) :
    start cwd p.text = if p.isAbsolute then [] else cwd := by
  simp [start, Path.isAbsolute]

section Fold
variable {names segments : List Text} {segment name text : Text}

/-- A dot for a slash at the end leads nowhere else. -/
theorem foldl_steps (names : List Text) (text : Text) :
    (steps text).foldl fold names =
      ((Text.splitAt '/' text).filter (· ≠ [])).foldl fold names := by
  unfold steps
  split
  · rw [List.foldl_append]
    exact fold_here
  · rfl

/-- A name that is come to was there before or is a segment. -/
theorem of_mem_foldl_fold (h : name ∈ segments.foldl fold names) :
    name ∈ names ∨ name ∈ segments ∧ name ≠ ['.'] ∧ name ≠ ['.', '.'] := by
  induction segments generalizing names with
  | nil => exact Or.inl h
  | cons segment rest ih =>
    rcases ih h with before | ⟨later, proper⟩
    · by_cases here : segment = ['.']
      · rw [here, fold_here] at before
        exact Or.inl before
      · by_cases up : segment = ['.', '.']
        · rw [up, fold_up] at before
          exact Or.inl (List.dropLast_subset _ before)
        · rw [fold_other here up] at before
          rcases List.mem_append.mp before with old | new
          · exact Or.inl old
          · obtain rfl := List.mem_singleton.mp new
            exact Or.inr ⟨List.mem_cons_self, here, up⟩
    · exact Or.inr ⟨List.mem_cons_of_mem _ later, proper⟩

theorem mem_splitAt_of_mem_filter (h : segment ∈ (Text.splitAt '/' text).filter (· ≠ [])) :
    segment ≠ [] ∧ segment ∈ Text.splitAt '/' text := by
  obtain ⟨member, some_char⟩ := List.mem_filter.mp h
  exact ⟨by simpa using some_char, member⟩

/-- A name that the segments of a text come to was there before, or is a name in the text. -/
theorem of_mem_foldl_steps (h : name ∈ (steps text).foldl fold names) :
    name ∈ names ∨ Part.IsName name ∧ ∀ c ∈ name, c ∈ text := by
  rw [foldl_steps] at h
  refine (of_mem_foldl_fold h).imp_right fun ⟨member, not_here, not_up⟩ => ?_
  obtain ⟨some_char, piece⟩ := mem_splitAt_of_mem_filter member
  exact ⟨⟨some_char, not_here, not_up, Text.not_mem_of_mem_splitAt piece⟩,
    fun c inside => Text.mem_of_mem_splitAt piece inside⟩

theorem filterMap_filter_inner? (segments : List Text) :
    (segments.filter (· ≠ [])).filterMap Path.inner? = segments.filterMap Path.inner? := by
  rw [List.filterMap_filter]
  refine List.filterMap_congr fun segment _ => ?_
  by_cases empty : segment = []
  · simp [empty, Path.inner?]
  · simp [empty]

/-- Segments are folded into names as their parts lead on. -/
theorem foldl_fold_eq (names : List Text) (some_char : ∀ segment ∈ segments, segment ≠ []) :
    segments.foldl fold names = (segments.filterMap Path.inner?).foldl Path.enter names := by
  induction segments generalizing names with
  | nil => rfl
  | cons segment rest ih =>
    have later (names : List Text) := ih names fun s h => some_char s (List.mem_cons_of_mem _ h)
    rw [List.foldl_cons, later]
    rcases Path.inner?_cases (some_char segment List.mem_cons_self) with
      ⟨rfl, unseen⟩ | ⟨rfl, seen⟩ | ⟨not_here, not_up, seen⟩
    · rw [fold_here, List.filterMap_cons_none unseen]
    · rw [fold_up, List.filterMap_cons_some seen]
      rfl
    · rw [fold_other not_here not_up, List.filterMap_cons_some seen]
      rfl

end Fold

section Names
variable {names : List Text}

theorem foldl_fold_names (before : List Text) (proper : ∀ name ∈ names, Part.IsName name) :
    names.foldl fold before = before ++ names := by
  induction names generalizing before with
  | nil => rw [List.foldl_nil, List.append_nil]
  | cons name rest ih =>
    have isName := proper name List.mem_cons_self
    rw [List.foldl_cons, fold_other isName.not_here isName.not_up,
      ih _ fun n h => proper n (List.mem_cons_of_mem _ h), List.append_assoc]
    rfl

theorem filter_names (proper : ∀ name ∈ names, Part.IsName name) :
    names.filter (· ≠ []) = names :=
  List.filter_eq_self.mpr fun name h => by simp [(proper name h).not_empty]

end Names

section Sizes

/-- What names take that stand behind a slash each. -/
def written (names : List Text) : Nat := Text.size (names.flatMap ('/' :: ·))

theorem written_append (names more : List Text) :
    written (names ++ more) = written names + written more := by
  simp [written]

theorem written_cons (name : Text) (names : List Text) :
    written (name :: names) = written [name] + written names := written_append [name] names

theorem written_filter_le (keep : Text → Bool) (names : List Text) :
    written (names.filter keep) ≤ written names := by
  induction names with
  | nil => exact Nat.le_refl _
  | cons name rest ih =>
    rw [List.filter_cons, written_cons name rest]
    split
    · rw [written_cons]
      omega
    · omega

theorem written_fold_le (names : List Text) (segment : Text) :
    written (fold names segment) ≤ written names + written [segment] := by
  unfold fold
  split
  · omega
  · split
    · rcases List.eq_nil_or_concat names with rfl | ⟨init, last, rfl⟩
      · exact Nat.zero_le _
      · rw [List.concat_eq_append, List.dropLast_concat, written_append]
        omega
    · rw [written_append]

/-- Names that are come to take no more than the segments. -/
theorem written_foldl_fold_le (names segments : List Text) :
    written (segments.foldl fold names) ≤ written names + written segments := by
  induction segments generalizing names with
  | nil => exact Nat.le_refl _
  | cons segment rest ih =>
    have first := written_fold_le names segment
    have later := ih (fold names segment)
    rw [List.foldl_cons, written_cons segment rest]
    omega

end Sizes
end FileTree

namespace Path
open FileTree

/-- A path from the root is normalized by folding its segments. -/
theorem normalize_rooted (text : Text) :
    (Path.mk ('/' :: text)).normalize =
      Machine.place (((Text.splitAt '/' text).filter (· ≠ [])).foldl fold []) := by
  have parts : (Path.mk ('/' :: text)).parts =
      .root :: ((Text.splitAt '/' text).filter (· ≠ [])).filterMap inner? := by
    rw [filterMap_filter_inner?]
    simp [Path.parts, Text.splitAt_mark, isAbsolute]
  have some_char : ∀ segment ∈ (Text.splitAt '/' text).filter (· ≠ []), segment ≠ [] :=
    fun _ h => (mem_splitAt_of_mem_filter h).1
  rw [normalize, folded_absolute rfl, destination, parts, List.foldl_cons,
    foldl_fold_eq [] some_char]
  exact ofParts_rooted _

end Path

namespace Machine
open FileTree

/-- The names that a path comes to by its text alone, as it is seen on the machine. -/
def namesOf (m : Machine) (p : Path) : Location := (steps p.text).foldl fold (start m.cwd p.text)

section Names
variable {m : Machine} {p file : Path}

theorem namesOf_absolute {text : Text} (absolute : p.text = '/' :: text) :
    m.namesOf p = ((Text.splitAt '/' text).filter (· ≠ [])).foldl fold [] := by
  rw [namesOf, foldl_steps, absolute, Text.splitAt_mark]
  rfl

theorem namesOf_relative (relative : p.isAbsolute = false) :
    m.namesOf p = ((Text.splitAt '/' p.text).filter (· ≠ [])).foldl fold m.cwd := by
  rw [namesOf, foldl_steps, start_eq, relative]
  rfl

/-- Behind the root each name stands behind a slash. -/
theorem text_place {names : List Text} (some_name : names ≠ []) :
    (place names).text = names.flatMap ('/' :: ·) := by
  obtain ⟨name, rest, rfl⟩ := List.exists_cons_of_ne_nil some_name
  rw [← Anchoring.text_ofParts_cons, Path.ofParts_rooted]
  rfl

/-- A relative path seen from a directory is one more segment behind those of the directory. -/
theorem join_place {names : List Text} (proper : ∀ name ∈ names, Part.IsName name)
    (relative : p.isAbsolute = false) : (place names).join p = place (names ++ [p.text]) := by
  have dir : place names = Path.ofParts (.root :: names.map .name) := (Path.ofParts_rooted names).symm
  have text : (place (names ++ [p.text])).text = Anchoring.trail names ++ p.text := by
    rw [text_place (by simp), List.flatMap_append, Anchoring.trail]
    simp
  have joined : (place names).join p = ⟨Anchoring.lead (place names).text ++ p.text⟩ :=
    Anchoring.join_relative rfl relative
  rw [joined, dir, Anchoring.lead_ofParts proper, ← text]

/-- The absolute form of a path is written with the names that the path comes to. -/
theorem absolute_eq_place (proper : p.isAbsolute = false → ∀ name ∈ m.cwd, Part.IsName name)
    (located : m.files.absolute p = .ok file) : file = place (m.namesOf p) := by
  unfold Files.absolute at located
  split at located
  · rename_i absolute
    obtain ⟨text, shape⟩ := Path.isAbsolute_iff.mp absolute
    obtain rfl := Except.ok.inj located
    rw [namesOf_absolute shape, ← Path.normalize_rooted, ← shape]
  · rename_i outside
    have relative : p.isAbsolute = false := by simpa using outside
    have names := proper relative
    split at located
    · contradiction
    · rename_i dir current
      obtain rfl : place m.cwd = dir := by
        simp only [files, currentDir] at current
        split at current
        · exact Except.ok.inj current
        · contradiction
      obtain rfl := Except.ok.inj located
      have cut := Text.splitAt_joinWith_concat (fun name h => (names name h).no_slash) p.text
      rw [Path.resolve, join_place names relative, place, Path.normalize_rooted, cut,
        List.filter_append, filter_names names, List.foldl_append, foldl_fold_names [] names,
        namesOf_relative relative]
      rfl

/-- The names that a path comes to are the place that its segments lead to. -/
theorem namesOf_eq (m : Machine) (p : Path) :
    m.namesOf p = p.segments.foldl Path.enter (start m.cwd p.text) := by
  have some_char : ∀ segment ∈ (Text.splitAt '/' p.text).filter (· ≠ []), segment ≠ [] :=
    fun _ h => (mem_splitAt_of_mem_filter h).1
  rw [namesOf, foldl_steps, foldl_fold_eq _ some_char, filterMap_filter_inner?]
  rfl

theorem foldl_enter_names (here names : List Text) :
    (names.map .name).foldl Path.enter here = here ++ names := by
  induction names generalizing here with
  | nil => simp
  | cons name rest ih =>
    rw [List.map_cons, List.foldl_cons, ih, Path.enter, List.append_assoc]
    rfl

theorem destination_dir_place {names : List Text} (proper : ∀ name ∈ names, Part.IsName name) :
    (place names).dir.destination = names.dropLast := by
  have proper' : ∀ name ∈ names.dropLast, Part.IsName name := fun name h =>
    proper name (List.dropLast_subset _ h)
  have parts := Path.parts_ofParts_rooted ⟨names.dropLast, proper', rfl⟩
  rw [place, ← Path.ofParts_rooted, Path.dir_ofParts proper, Path.destination, parts,
    List.foldl_cons]
  exact foldl_enter_names [] _

/-- The names of a path are those of the current directory, or they are written in the path. -/
theorem of_mem_namesOf {name : Text} (h : name ∈ m.namesOf p) :
    p.isAbsolute = false ∧ name ∈ m.cwd ∨ Part.IsName name ∧ ∀ c ∈ name, c ∈ p.text := by
  refine (of_mem_foldl_steps h).imp_left fun before => ?_
  rw [start_eq] at before
  split at before
  · contradiction
  · rename_i away
    exact ⟨Bool.eq_false_iff.mpr away, before⟩

/-- The segments of a path written with names are the names. -/
theorem steps_place {names : List Text} (proper : ∀ name ∈ names, Part.IsName name)
    (some_name : names ≠ []) : steps (place names).text = names := by
  have ending : (place names).text.getLast? ≠ some '/' := by
    rw [text_place some_name, ← List.dropLast_append_getLast some_name]
    exact Anchoring.getLast?_slashed _ (proper _ (List.getLast_mem some_name))
  rw [steps, if_neg ending, place, Text.splitAt_mark,
    Text.splitAt_joinWith (fun name h => (proper name h).no_slash) some_name]
  exact filter_names proper

/-- A path from the root is not shorter than its absolute form. -/
theorem size_place_le (absolute : p.isAbsolute = true) :
    Text.size (place (m.namesOf p)).text ≤ Text.size p.text := by
  obtain ⟨text, shape⟩ := Path.isAbsolute_iff.mp absolute
  have whole : written (Text.splitAt '/' text) = Text.size p.text := by
    rw [written, ← text_place (Text.splitAt_ne_nil '/' text), place, Text.joinWith_splitAt, shape]
  by_cases root : m.namesOf p = []
  · rw [root, shape]
    exact Nat.le_add_right _ _
  · rw [text_place root, ← whole, namesOf_absolute shape]
    have fewer := written_filter_le (· ≠ []) (Text.splitAt '/' text)
    have folded := written_foldl_fold_le [] ((Text.splitAt '/' text).filter (· ≠ []))
    have none : written [] = 0 := rfl
    exact Nat.le_trans folded (by omega)

end Names
end Machine
end TripleSlash
