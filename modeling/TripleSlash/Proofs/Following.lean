import TripleSlash.FileTree

/-! How a path is followed through a tree, as a relation, and where that comes to what the text
of the path says alone. A step up takes the last name back if that name is a directory; if it is a
link, it leads to the directory above the target. So a path may be folded by its text unless it
steps up from a link. -/
namespace TripleSlash

/-- An entry with nothing below it and nothing behind it. -/
def Entry.isLeaf : Entry → Bool
  | .file .. | .void => true
  | .directory | .link _ => false

namespace FileTree

/-- A name that is looked up in a directory. -/
structure Looks (tree : FileTree) (here : Location) (name : Text) : Prop where
  not_here : name ≠ ['.']
  not_up : name ≠ ['.', '.']
  there : tree.find? here ≠ none
  short : Text.size name ≤ longestName

/-- These segments lead from a directory to a spot, with so many links left to be met. -/
inductive Follows (tree : FileTree) : Nat → Location → List Text → Spot → Prop where
  | done {links here} : Follows tree links here [] (.taken here)
  | here {links here rest spot} : Follows tree links here rest spot →
      Follows tree links here (['.'] :: rest) spot
  | up {links here rest spot} : Follows tree links here.dropLast rest spot →
      Follows tree links here (['.', '.'] :: rest) spot
  | free {links here name} : Looks tree here name → tree.find? (here ++ [name]) = none →
      Follows tree links here [name] (.free here name)
  | leaf {links here name entry} : Looks tree here name →
      tree.find? (here ++ [name]) = some entry → entry.isLeaf = true →
      Follows tree links here [name] (.taken (here ++ [name]))
  | directory {links here name rest spot} : Looks tree here name →
      tree.find? (here ++ [name]) = some .directory →
      Follows tree links (here ++ [name]) rest spot → Follows tree links here (name :: rest) spot
  | link {links here name target rest spot} : Looks tree here name →
      tree.find? (here ++ [name]) = some (.link target) →
      Follows tree links (start here target) (steps target ++ rest) spot →
      Follows tree (links + 1) here (name :: rest) spot

section Follow
variable {tree : FileTree} {links : Nat} {here : Location} {segments : List Text} {spot : Spot}

theorem Follows.follow_eq (h : Follows tree links here segments spot) :
    follow tree links here segments = .ok spot := by
  induction h with
  | done => rw [follow]
  | here _ ih => rw [follow, if_pos rfl, ih]
  | up _ ih => rw [follow, if_neg (by decide), if_pos rfl, ih]
  | free looks found =>
    rw [follow, if_neg looks.not_here, if_neg looks.not_up, if_neg looks.there,
      if_neg (Nat.not_lt.mpr looks.short)]
    simp only [found, if_true]
  | @leaf _ _ _ entry looks found leaf =>
    rw [follow, if_neg looks.not_here, if_neg looks.not_up, if_neg looks.there,
      if_neg (Nat.not_lt.mpr looks.short)]
    cases entry with
    | file | void => simp only [found, if_true]
    | directory | link => contradiction
  | directory looks found _ ih =>
    rw [follow, if_neg looks.not_here, if_neg looks.not_up, if_neg looks.there,
      if_neg (Nat.not_lt.mpr looks.short)]
    simp only [found, ih]
  | link looks found _ ih =>
    rw [follow, if_neg looks.not_here, if_neg looks.not_up, if_neg looks.there,
      if_neg (Nat.not_lt.mpr looks.short)]
    simp only [found, ih]

theorem follows_of_follow (h : follow tree links here segments = .ok spot) :
    Follows tree links here segments spot := by
  fun_induction follow tree links here segments with
  | case1 => cases h; exact .done
  | case2 _ _ _ ih => exact .here (ih h)
  | case3 _ _ _ _ ih => exact .up (ih h)
  | case4 | case5 | case7 | case9 | case11 | case13 => contradiction
  | case6 links here name not_here not_up there short found =>
    cases h
    exact .free ⟨not_here, not_up, there, Nat.not_lt.mp short⟩ found
  | case8 links here name not_here not_up there short _ _ found
  | case10 links here name not_here not_up there short found =>
    cases h
    exact .leaf ⟨not_here, not_up, there, Nat.not_lt.mp short⟩ found rfl
  | case12 links here name rest not_here not_up there short found ih =>
    exact .directory ⟨not_here, not_up, there, Nat.not_lt.mp short⟩ found (ih h)
  | case14 here name rest not_here not_up there short target found links ih =>
    exact .link ⟨not_here, not_up, there, Nat.not_lt.mp short⟩ found (ih h)

/-- Following a path is what the relation says. -/
theorem follow_eq_ok_iff :
    follow tree links here segments = .ok spot ↔ Follows tree links here segments spot :=
  ⟨follows_of_follow, Follows.follow_eq⟩

end Follow

/-- These segments lead through a directory: whatever is behind them is followed from there, with
so many links left to be met. -/
def Leads (tree : FileTree) (links : Nat) (here : Location) (segments : List Text) (left : Nat)
    (there : Location) : Prop :=
  ∀ rest spot, Follows tree left there rest spot → Follows tree links here (segments ++ rest) spot

section Parting
variable {tree : FileTree} {links left : Nat} {here there : Location} {name target : Text}
  {front : List Text}

theorem Leads.dot (leads : Leads tree links here front left there) :
    Leads tree links here (['.'] :: front) left there :=
  fun rest spot h => .here (leads rest spot h)

theorem Leads.up (leads : Leads tree links here.dropLast front left there) :
    Leads tree links here (['.', '.'] :: front) left there :=
  fun rest spot h => .up (leads rest spot h)

theorem Leads.directory (looks : Looks tree here name)
    (found : tree.find? (here ++ [name]) = some .directory)
    (leads : Leads tree links (here ++ [name]) front left there) :
    Leads tree links here (name :: front) left there :=
  fun rest spot h => .directory looks found (leads rest spot h)

theorem Leads.link (looks : Looks tree here name)
    (found : tree.find? (here ++ [name]) = some (.link target))
    (leads : Leads tree links (start here target) (steps target ++ front) left there) :
    Leads tree (links + 1) here (name :: front) left there := by
  intro rest spot h
  have further := leads rest spot h
  rw [List.append_assoc] at further
  exact .link looks found further

/-- A path that goes on behind its front comes through a directory at the end of the front. -/
theorem Follows.part {segments back : List Text} {spot : Spot}
    (h : Follows tree links here segments spot) (whole : segments = front ++ back)
    (on : back ≠ []) :
    ∃ left there, Leads tree links here front left there ∧ Follows tree left there back spot := by
  induction h generalizing front with
  | done => exact absurd (List.append_eq_nil_iff.mp whole.symm).2 on
  | here later ih =>
    rcases List.cons_eq_append_iff.mp whole with ⟨rfl, rfl⟩ | ⟨front, rfl, rest⟩
    · exact ⟨_, _, fun _ _ => id, .here later⟩
    · obtain ⟨left, there, leads, after⟩ := ih rest
      exact ⟨left, there, leads.dot, after⟩
  | up later ih =>
    rcases List.cons_eq_append_iff.mp whole with ⟨rfl, rfl⟩ | ⟨front, rfl, rest⟩
    · exact ⟨_, _, fun _ _ => id, .up later⟩
    · obtain ⟨left, there, leads, after⟩ := ih rest
      exact ⟨left, there, leads.up, after⟩
  | free looks found =>
    rcases List.cons_eq_append_iff.mp whole with ⟨rfl, rfl⟩ | ⟨front, rfl, rest⟩
    · exact ⟨_, _, fun _ _ => id, .free looks found⟩
    · exact absurd (List.append_eq_nil_iff.mp rest.symm).2 on
  | leaf looks found leaf =>
    rcases List.cons_eq_append_iff.mp whole with ⟨rfl, rfl⟩ | ⟨front, rfl, rest⟩
    · exact ⟨_, _, fun _ _ => id, .leaf looks found leaf⟩
    · exact absurd (List.append_eq_nil_iff.mp rest.symm).2 on
  | directory looks found later ih =>
    rcases List.cons_eq_append_iff.mp whole with ⟨rfl, rfl⟩ | ⟨front, rfl, rest⟩
    · exact ⟨_, _, fun _ _ => id, .directory looks found later⟩
    · obtain ⟨left, there, leads, after⟩ := ih rest
      exact ⟨left, there, leads.directory looks found, after⟩
  | @link _ _ _ target _ _ looks found later ih =>
    rcases List.cons_eq_append_iff.mp whole with ⟨rfl, rfl⟩ | ⟨front, rfl, rfl⟩
    · exact ⟨_, _, fun _ _ => id, .link looks found later⟩
    · -- The target of the link stands in front of what is left of the front.
      obtain ⟨left, there, leads, after⟩ := ih (List.append_assoc (steps target) front back).symm
      exact ⟨left, there, leads.link looks found, after⟩

end Parting

/-- The names that a segment leads to from some names, by its text alone. -/
def fold (names : List Text) (segment : Text) : List Text :=
  if segment = ['.'] then names
  else if segment = ['.', '.'] then names.dropLast
  else names ++ [segment]

section Fold
variable {names : List Text} {segment : Text}

theorem fold_here : fold names ['.'] = names := if_pos rfl

theorem fold_up : fold names ['.', '.'] = names.dropLast := by
  rw [fold, if_neg (by decide), if_pos rfl]

theorem fold_other (not_here : segment ≠ ['.']) (not_up : segment ≠ ['.', '.']) :
    fold names segment = names ++ [segment] := by
  rw [fold, if_neg not_here, if_neg not_up]

end Fold

/-- From the root these names lead to a link. -/
def NamesLink (tree : FileTree) (names : List Text) : Prop :=
  ∃ above name place target, names = above ++ [name] ∧
    follow tree mostLinks [] above = .ok (.taken place) ∧
    tree.find? (place ++ [name]) = some (.link target)

theorem not_namesLink {tree : FileTree} {above place : List Text} {name : Text}
    (reached : follow tree mostLinks [] above = .ok (.taken place))
    (found : tree.find? (place ++ [name]) = some .directory) :
    ¬ NamesLink tree (above ++ [name]) := by
  rintro ⟨above', name', place', target, names, reached', link⟩
  obtain ⟨rfl, last⟩ := List.append_inj' names rfl
  obtain rfl := List.singleton_inj.mp last
  cases reached.symm.trans reached'
  cases found.symm.trans link

/-- From the root these names lead to a directory, over so many links that so many are left. -/
inductive Trail (tree : FileTree) : List Text → Nat → Location → Prop where
  | root : Trail tree [] mostLinks []
  | directory {names links here name} : Trail tree names links here → Looks tree here name →
      tree.find? (here ++ [name]) = some .directory →
      Trail tree (names ++ [name]) links (here ++ [name])
  | link {names links here name target left there} : Trail tree names (links + 1) here →
      Looks tree here name → tree.find? (here ++ [name]) = some (.link target) →
      Leads tree links (start here target) (steps target) left there →
      Trail tree (names ++ [name]) left there

section Trails
variable {tree : FileTree} {names : List Text} {links : Nat} {here : Location}

theorem Trail.leads (trail : Trail tree names links here) :
    Leads tree mostLinks [] names links here := by
  induction trail with
  | root => exact fun _ _ => id
  | directory _ looks found ih =>
    intro rest spot h
    rw [List.append_assoc]
    exact ih _ _ (.directory looks found h)
  | link _ looks found leads ih =>
    intro rest spot h
    rw [List.append_assoc]
    exact ih _ _ (.link looks found (leads rest spot h))

/-- A trail that does not end in a link can be gone back by one name. -/
theorem Trail.up (trail : Trail tree names links here) (plain : ¬ NamesLink tree names) :
    Trail tree names.dropLast links here.dropLast := by
  cases trail with
  | root => exact .root
  | directory before _ _ => rwa [List.dropLast_concat, List.dropLast_concat]
  | @link names links above name target left there before looks found leads =>
    have reached := before.leads [] _ .done
    rw [List.append_nil] at reached
    exact absurd ⟨names, name, above, target, rfl, reached.follow_eq, found⟩ plain

theorem fold_name {segment : Text} (looks : Looks tree here segment) :
    fold names segment = names ++ [segment] :=
  fold_other looks.not_here looks.not_up

/-- Segments that never step up from a link lead where their folded text leads from the root. -/
theorem Trail.follows_folded {segments : List Text} {spot : Spot}
    (trail : Trail tree names links here) (h : Follows tree links here segments spot)
    (plain : ∀ front back, segments = front ++ ['.', '.'] :: back →
      ¬ NamesLink tree (front.foldl fold names)) :
    Follows tree mostLinks [] (segments.foldl fold names) spot := by
  -- Along the segments, since a link puts its target in front of those that are left.
  induction segments generalizing names links here with
  | nil =>
    have whole := trail.leads [] _ h
    rwa [List.append_nil] at whole
  | cons segment rest ih =>
    have later : ∀ front back, rest = front ++ ['.', '.'] :: back →
        ¬ NamesLink tree (front.foldl fold (fold names segment)) := fun front back split =>
      plain (segment :: front) back (congrArg (segment :: ·) split)
    rw [List.foldl_cons]
    cases h with
    | here h => exact ih trail h later
    | up h => exact ih (trail.up (plain [] rest rfl)) h later
    | free looks found =>
      rw [fold_name looks]
      exact trail.leads _ _ (.free looks found)
    | leaf looks found leaf =>
      rw [fold_name looks]
      exact trail.leads _ _ (.leaf looks found leaf)
    | directory looks found h =>
      rw [fold_name looks] at later ⊢
      exact ih (trail.directory looks found) h later
    | link looks found h =>
      rw [fold_name looks] at later ⊢
      by_cases last : rest = []
      · subst last
        exact trail.leads _ _ (.link looks found h)
      · obtain ⟨left, there, leads, after⟩ := h.part rfl last
        exact ih (trail.link looks found leads) after later

end Trails

end FileTree
end TripleSlash
