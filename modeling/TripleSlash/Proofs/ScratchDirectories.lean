import TripleSlash.Compiler.Tsc
import TripleSlash.Proofs.Writing

/-! What running the compiler program leaves on a machine. A scratch directory is made at a place
where nothing is, and it is taken away again with all that is in it. So what stands anywhere at
the end stood there before, or was left there by the child that was run. -/
namespace TripleSlash

namespace Path

/-- What stands between a path and something that is seen from it. -/
def gap (p : Path) : Text := if p.text = [] ∨ p.text.getLast? = some '/' then [] else ['/']

theorem gap_cases (p : Path) : p.gap = [] ∨ p.gap = ['/'] := by
  unfold gap
  split <;> simp

theorem text_join (p : Path) {q : Path} (relative : q.isAbsolute = false) :
    (p.join q).text = p.text ++ p.gap ++ q.text := by
  simp only [join, gap, relative, Bool.false_eq_true, if_false]
  split <;> simp

end Path

namespace FileTree

/-- What stands somewhere stands in a directory. -/
def Nested (tree : FileTree) : Prop :=
  ∀ e ∈ tree.entries, tree.find? e.1.dropLast = some .directory

instance (tree : FileTree) : Decidable tree.Nested :=
  inferInstanceAs (Decidable (∀ e ∈ tree.entries, _))

section Nesting
variable {tree : FileTree} {place other : Location} {entry : Entry}

theorem mem_entries_of_find? (found : tree.find? place = some entry) (below : place ≠ []) :
    (place, entry) ∈ tree.entries := by
  rw [find?, if_neg below] at found
  obtain ⟨front, back, split, -⟩ := List.lookup_eq_some_iff.mp found
  rw [split]
  exact List.mem_append_right _ List.mem_cons_self

/-- Nothing is below a place where nothing is. -/
theorem Nested.find?_below (nested : tree.Nested) (free : tree.find? place = none)
    (inside : place <+: other) : tree.find? other = none := by
  induction other using List.reverseRecOn with
  | nil =>
    obtain rfl := List.prefix_nil.mp inside
    exact free
  | append_singleton above name ih =>
    rcases List.prefix_concat_iff.mp inside with rfl | inside
    · exact free
    · cases found : tree.find? (above ++ [name]) with
      | none => rfl
      | some entry =>
        have directory := nested _ (mem_entries_of_find? found (by simp))
        rw [List.dropLast_concat] at directory
        exact nomatch (ih inside).symm.trans directory

end Nesting

section Making
variable {tree after : FileTree} {cwd dir here place : Location} {p file : Path} {name : Text}
  {links : Nat} {segments : List Text} {spot other : Spot} {entry : Entry}

theorem Follows.unique (follows : Follows tree links here segments spot)
    (again : Follows tree links here segments other) : spot = other :=
  Except.ok.inj (follows.follow_eq.symm.trans again.follow_eq)

/-- A name that is free is where its segment leads. -/
theorem Follows.eq_of_free (follows : Follows tree links here [name] spot)
    (isName : Part.IsName name) (free : tree.find? (here ++ [name]) = none) :
    spot = .free here name := by
  cases follows with
  | here => exact absurd rfl isName.not_here
  | up => exact absurd rfl isName.not_up
  | free => rfl
  | leaf _ found | directory _ found | link _ found => exact nomatch free.symm.trans found

/-- Behind the name of a directory the way goes on from there. -/
theorem Follows.into_directory {rest : List Text}
    (follows : Follows tree links here (name :: rest) spot) (on : rest ≠ [])
    (not_here : name ≠ ['.']) (not_up : name ≠ ['.', '.'])
    (found : tree.find? (here ++ [name]) = some .directory) :
    Follows tree links (here ++ [name]) rest spot := by
  cases follows with
  | here => exact absurd rfl not_here
  | up => exact absurd rfl not_up
  | free | leaf => exact absurd rfl on
  | directory _ _ later => exact later
  | link _ other => exact nomatch found.symm.trans other

/-- The names in a text. -/
def namesIn (text : Text) : List Text := (Text.splitAt '/' text).filter (· ≠ [])

theorem namesIn_append (s t : Text) : namesIn (s ++ '/' :: t) = namesIn s ++ namesIn t := by
  rw [namesIn, Text.splitAt_append_mark, List.filter_append]
  rfl

theorem namesIn_name (isName : Part.IsName name) : namesIn name = [name] := by
  rw [namesIn, Text.splitAt_of_not_mem isName.no_slash]
  simp [isName.not_empty]

/-- The names of what is seen from a path stand behind those of the path. -/
theorem namesIn_join (p : Path) (relative : file.isAbsolute = false) :
    namesIn (p.join file).text = namesIn p.text ++ namesIn file.text := by
  have nothing : namesIn [] = [] := rfl
  rw [Path.text_join p relative, Path.gap]
  split
  · rename_i finished
    rcases finished with empty | slash
    · rw [empty, nothing]
      rfl
    · obtain ⟨front, shape⟩ := List.getLast?_eq_some_iff.mp slash
      rw [shape, List.append_nil, List.append_assoc, List.singleton_append, namesIn_append,
        namesIn_append, nothing, List.append_nil]
  · rw [List.append_assoc, List.singleton_append, namesIn_append]

/-- What does not end in a slash is looked up behind the names of the path that it is seen from. -/
theorem steps_join (p : Path) (relative : file.isAbsolute = false) (some_char : file.text ≠ [])
    (unfinished : file.text.getLast? ≠ some '/') :
    steps (p.join file).text = namesIn p.text ++ namesIn file.text := by
  have ending : (p.join file).text.getLast? ≠ some '/' := by
    rwa [Path.text_join p relative, List.getLast?_append_of_ne_nil _ some_char]
  rw [steps, if_neg ending, ← namesIn_join p relative]
  rfl

/-- So is a file in a directory. -/
theorem steps_join_name (p : Path) (isName : Part.IsName file.text) :
    steps (p.join file).text = namesIn p.text ++ [file.text] := by
  have relative : file.isAbsolute = false := by
    rw [← Bool.not_eq_true, Path.isAbsolute_iff]
    rintro ⟨rest, shape⟩
    exact isName.no_slash (shape ▸ List.mem_cons_self)
  rw [steps_join p relative isName.not_empty fun slash =>
    isName.no_slash (List.mem_of_getLast? slash), namesIn_name isName]

theorem start_absolute (absolute : p.isAbsolute = true) : start cwd p.text = [] := by
  rw [start_eq, if_pos absolute]

theorem start_join (absolute : p.isAbsolute = true) (file : Path) :
    start cwd (p.join file).text = [] :=
  start_absolute (Path.isAbsolute_join absolute file)

/-- The last name of a path, and the directory that the names before it lead to. -/
theorem spotOfName_eq_ok (found : tree.spotOfName cwd p = .ok (some (dir, name))) :
    ∃ above, namesIn p.text = above ++ [name] ∧ name ≠ ['.'] ∧ name ≠ ['.', '.'] ∧
      Follows tree mostLinks (start cwd p.text) (above ++ [['.']]) (.taken dir) := by
  obtain ⟨-, -, found⟩ := ok_of_bind found
  obtain ⟨reached, leads, found⟩ := ok_of_bind found
  have follows := follow_eq_ok_iff.mp leads
  cases reached with
  | free => contradiction
  | taken there =>
    simp only at found
    split at found
    · exact nomatch Except.ok.inj found
    · rename_i last ending
      split at found
      · exact nomatch Except.ok.inj found
      · rename_i plain
        split at found
        · contradiction
        · obtain ⟨rfl, rfl⟩ : there = dir ∧ last = name := by simpa using found
          rw [not_or] at plain
          exact ⟨_, (List.dropLast_append_getLast? _ ending).symm, plain.1, plain.2, follows⟩

/-- A directory is made at a place where nothing is. -/
theorem makeDirectoryAt_eq_ok (made : tree.makeDirectoryAt cwd p = .ok (place, after)) :
    ∃ dir name, place = dir ++ [name] ∧ tree.spotOfName cwd p = .ok (some (dir, name)) ∧
      tree.find? place = none ∧ after = tree.put place .directory := by
  obtain ⟨found, leads, made⟩ := ok_of_bind made
  split at made
  · contradiction
  · rename_i dir name
    split at made
    · contradiction
    · rename_i free
      obtain ⟨rfl, rfl⟩ := Prod.mk.inj (Except.ok.inj made)
      exact ⟨dir, name, rfl, leads, free, rfl⟩

/-- A file in a directory that was just made is written there. -/
theorem spot_in_made (made : tree.makeDirectoryAt cwd p = .ok (place, after))
    (absolute : p.isAbsolute = true) (isName : Part.IsName file.text)
    (free : after.find? (place ++ [file.text]) = none)
    (found : after.spot cwd (p.join file) = .ok spot) : spot.place = place ++ [file.text] := by
  obtain ⟨dir, name, rfl, named, nothing, rfl⟩ := makeDirectoryAt_eq_ok made
  obtain ⟨above, names, not_here, not_up, leads⟩ := spotOfName_eq_ok named
  have again := leads.put_beside (.of_none nothing) (by simp [Spot.place]) .directory
  have follows := (spot_eq_ok_iff.mp found).2
  rw [start_absolute absolute] at again
  rw [start_join absolute file, steps_join_name p isName, names, List.append_assoc] at follows
  -- Whatever links the path goes over, behind the same names a dot leads to the same directory.
  obtain ⟨left, there, through, last⟩ := follows.part rfl (List.cons_ne_nil _ _)
  obtain rfl : there = dir := Spot.taken.inj ((through _ _ (.here .done)).unique again)
  have inside := last.into_directory (List.cons_ne_nil _ _) not_here not_up
    (find?_put_self (by simp))
  rw [inside.eq_of_free isName free]
  rfl

end Making
end FileTree

namespace Machine
open FileTree

variable {m made written : Machine} {scratch : ScratchDirectory} {place : Location}

theorem makeScratch_ok (done : m.makeScratch = (.ok scratch, made)) :
    scratch.path.isAbsolute = true ∧ made.cwd = m.cwd ∧
      m.tree.makeDirectoryAt m.cwd scratch.path = .ok (scratch.place, made.tree) := by
  unfold makeScratch at done
  dsimp only at done
  split at done
  · exact nomatch done
  · rename_i place tree directory
    obtain ⟨rfl, rfl⟩ := by simpa using done
    exact ⟨rfl, rfl, directory⟩

theorem write_ok {p : Path} {text : Text} {after : Machine}
    (done : m.write p text = (.ok (), after)) :
    ∃ tree, m.tree.write m.cwd p (Utf8.encode text) = .ok tree ∧ after = { m with tree } := by
  unfold write at done
  split at done
  · exact nomatch done
  · exact ⟨_, ‹_›, (Prod.mk.inj done).2.symm⟩

/-- Nothing was at the place of a scratch directory, nor below it. -/
theorem find?_scratch (nested : m.tree.Nested) (done : m.makeScratch = (.ok scratch, made))
    (inside : scratch.place <+: place) : m.tree.find? place = none := by
  obtain ⟨-, -, directory⟩ := makeScratch_ok done
  obtain ⟨-, -, -, -, free, -⟩ := makeDirectoryAt_eq_ok directory
  exact nested.find?_below free inside

/-- A file in a scratch directory is written to a place in it where nothing is. -/
theorem write_in_scratch (nested : m.tree.Nested) (done : m.makeScratch = (.ok scratch, made))
    {file : Path} {text : Text} (isName : Part.IsName file.text)
    (wrote : made.write (scratch.path.join file) text = (.ok (), written)) :
    ∃ tree, made.tree.write made.cwd (scratch.path.join file) (Utf8.encode text) = .ok tree ∧
      written = { made with tree } ∧
      made.tree.spotToWrite made.cwd (scratch.path.join file) = .ok (scratch.place ++ [file.text]) ∧
      made.tree.find? (scratch.place ++ [file.text]) = none := by
  obtain ⟨absolute, cwd, directory⟩ := makeScratch_ok done
  obtain ⟨dir, name, -, -, -, tree⟩ := makeDirectoryAt_eq_ok directory
  have free : made.tree.find? (scratch.place ++ [file.text]) = none := by
    rw [tree, find?_put_of_ne (by simp)]
    exact find?_scratch nested done (List.prefix_append _ _)
  obtain ⟨after, changed, rfl⟩ := write_ok wrote
  obtain ⟨goal, goes, -⟩ := write_eq_ok changed
  obtain ⟨spot, leads, rfl, -⟩ := spot_of_spotToWrite goes
  rw [cwd] at leads
  have there := spot_in_made directory absolute isName free leads
  exact ⟨after, changed, rfl, there ▸ goes, free⟩

/-- What was written to a file in a scratch directory is read from it. -/
theorem readBytes_written (nested : m.tree.Nested) (done : m.makeScratch = (.ok scratch, made))
    {file : Path} {text : Text} (isName : Part.IsName file.text)
    (wrote : made.write (scratch.path.join file) text = (.ok (), written)) :
    written.tree.readBytes written.cwd (scratch.path.join file) = .ok (Utf8.encode text) := by
  obtain ⟨tree, changed, rfl, goes, free⟩ := write_in_scratch nested done isName wrote
  obtain ⟨spot, leads, place, -⟩ := spot_of_spotToWrite goes
  refine readBytes_write changed fun device => ?_
  have there := (entry_eq_void_iff leads).mp device
  rw [place, free] at there
  contradiction

end Machine

namespace Compiler.Tsc
open Machine FileTree

variable {launch : Launcher Machine} {m : Machine}

theorem isName_inputName : Part.IsName inputName.text := by decide

end Compiler.Tsc
end TripleSlash
