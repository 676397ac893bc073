import TripleSlash.Proofs.EntryTexts

/-! Writing to a path. What is written is read back from the same path, unless it was written to
a device, and no other place of the tree changes. -/
namespace TripleSlash

/-- The place that a path leads to, whether something is there or not. -/
def Spot.place : Spot → Location
  | .taken place => place
  | .free dir name => dir ++ [name]

namespace FileTree

/-- Entries that are kept for their places are found as before, and no others are. -/
theorem lookup_filter (keep : Location → Bool) (entries : List (Location × Entry))
    (place : Location) :
    (entries.filter fun e => keep e.1).lookup place =
      if keep place then entries.lookup place else none := by
  induction entries with
  | nil => simp
  | cons e entries ih =>
    obtain ⟨there, entry⟩ := e
    rw [List.filter_cons, List.lookup_cons]
    by_cases here : place = there
    · subst here
      cases kept : keep place <;> simp [ih, kept]
    · have skipped : (place == there) = false := beq_false_of_ne here
      cases kept : keep there <;> simp [List.lookup_cons, ih, skipped]

section Changes
variable {tree : FileTree} {place other : Location} {entry : Entry}

theorem find?_put_self (below : place ≠ []) : (tree.put place entry).find? place = some entry := by
  have gone := lookup_filter (fun other => decide (other ≠ place)) tree.entries place
  simp only [ne_eq, not_true, decide_false, Bool.false_eq_true, if_false] at gone
  rw [find?, if_neg below, put, List.lookup_append, gone]
  simp

theorem find?_put_of_ne (elsewhere : other ≠ place) :
    (tree.put place entry).find? other = tree.find? other := by
  have kept := lookup_filter (fun other => decide (other ≠ place)) tree.entries other
  have last : [(place, entry)].lookup other = none := by simp [elsewhere]
  rw [if_pos (decide_eq_true elsewhere)] at kept
  rw [find?, find?, put, List.lookup_append, kept, last, Option.or_none]

end Changes

section Following
variable {tree : FileTree} {place : Location} {entry : Entry} {links : Nat} {here : Location}
  {segments : List Text} {spot : Spot}

/-- Nothing with something below it stands there. -/
def Bare (tree : FileTree) (place : Location) : Prop :=
  ∀ entry, tree.find? place = some entry → entry.isLeaf = true

theorem Bare.ne_of_found (bare : Bare tree place) {other : Location} {entry : Entry}
    (found : tree.find? other = some entry) (inner : entry.isLeaf = false) : other ≠ place := by
  rintro rfl
  exact nomatch (bare entry found).symm.trans inner

theorem Bare.ne_nil (bare : Bare tree place) : place ≠ [] := by
  have root : tree.find? [] = some .directory := rfl
  exact (bare.ne_of_found root rfl).symm

theorem Bare.of_none (free : tree.find? place = none) : Bare tree place :=
  fun _ found => nomatch free.symm.trans found

theorem Looks.put {name : Text} (looks : Looks tree here name) (below : place ≠ []) :
    Looks (tree.put place entry) here name := by
  refine { looks with there := ?_ }
  by_cases same : here = place
  · rw [same, find?_put_self below]
    exact Option.some_ne_none entry
  · rw [find?_put_of_ne same]
    exact looks.there

/-- What is put at the end of the way does not change the way. -/
theorem Follows.put (follows : Follows tree links here segments spot) (bare : Bare tree spot.place)
    (leaf : entry.isLeaf = true) :
    Follows (tree.put spot.place entry) links here segments (.taken spot.place) := by
  have below := bare.ne_nil
  induction follows with
  | done => exact .done
  | here _ ih => exact .here (ih bare below)
  | up _ ih => exact .up (ih bare below)
  | free looks _ => exact .leaf (looks.put below) (find?_put_self below) leaf
  | leaf looks _ _ => exact .leaf (looks.put below) (find?_put_self below) leaf
  | directory looks found _ ih =>
    have apart := bare.ne_of_found found rfl
    exact .directory (looks.put below) ((find?_put_of_ne apart).trans found) (ih bare below)
  | link looks found _ ih =>
    have apart := bare.ne_of_found found rfl
    exact .link (looks.put below) ((find?_put_of_ne apart).trans found) (ih bare below)

/-- What is put beside the end of the way does not change the way either. -/
theorem Follows.put_beside (follows : Follows tree links here segments spot)
    (bare : Bare tree place) (beside : spot.place ≠ place) (entry : Entry) :
    Follows (tree.put place entry) links here segments spot := by
  have below := bare.ne_nil
  induction follows with
  | done => exact .done
  | here _ ih => exact .here (ih beside)
  | up _ ih => exact .up (ih beside)
  | free looks found => exact .free (looks.put below) ((find?_put_of_ne beside).trans found)
  | leaf looks found leaf =>
    exact .leaf (looks.put below) ((find?_put_of_ne beside).trans found) leaf
  | directory looks found _ ih =>
    have apart := bare.ne_of_found found rfl
    exact .directory (looks.put below) ((find?_put_of_ne apart).trans found) (ih beside)
  | link looks found _ ih =>
    have apart := bare.ne_of_found found rfl
    exact .link (looks.put below) ((find?_put_of_ne apart).trans found) (ih beside)

theorem Follows.none_of_free {dir : Location} {name : Text}
    (follows : Follows tree links here segments (.free dir name)) :
    tree.find? (dir ++ [name]) = none := by
  generalize target : Spot.free dir name = spot at follows
  induction follows with
  | done | leaf => exact nomatch target
  | here _ ih | up _ ih | directory _ _ _ ih | link _ _ _ ih => exact ih target
  | free _ found =>
    cases target
    exact found

end Following

section Writing
variable {tree after : FileTree} {cwd place : Location} {p : Path} {bytes : Bytes}

/-- What follows a step was done only if the step was. -/
theorem ok_of_bind {ε α β : Type} {first : Except ε α} {next : α → Except ε β} {result : β}
    (done : (first >>= next) = .ok result) :
    ∃ value, first = .ok value ∧ next value = .ok result := by
  cases first with
  | error cause => contradiction
  | ok value => exact ⟨value, rfl, done⟩

/-- Where a write goes, something is that can be written to, or nothing. -/
theorem spot_of_spotToWrite (found : spotToWrite tree cwd p = .ok place) :
    ∃ spot, FileTree.spot tree cwd p = .ok spot ∧ spot.place = place ∧ Bare tree place := by
  obtain ⟨named, -, found⟩ := ok_of_bind found
  split at found
  · contradiction
  · obtain ⟨spot, leads, found⟩ := ok_of_bind found
    refine ⟨spot, leads, ?_⟩
    cases spot with
    | free dir name =>
      obtain rfl := Except.ok.inj found
      exact ⟨rfl, .of_none (spot_eq_ok_iff.mp leads).2.none_of_free⟩
    | taken target =>
      simp only at found
      split at found
      · rename_i _ there
        obtain rfl := Except.ok.inj found
        exact ⟨rfl, fun entry same => Option.some.inj (there.symm.trans same) ▸ rfl⟩
      · rename_i there
        obtain rfl := Except.ok.inj found
        exact ⟨rfl, fun entry same => Option.some.inj (there.symm.trans same) ▸ rfl⟩
      · contradiction

/-- A write changes the place that it goes to, unless a device is there, and nothing else. -/
theorem write_eq_ok (written : tree.write cwd p bytes = .ok after) :
    ∃ place, spotToWrite tree cwd p = .ok place ∧
      (tree.find? place = some .void ∧ after = tree ∨
        tree.find? place ≠ some .void ∧
          ∃ executable, after = tree.put place (.file bytes executable)) := by
  obtain ⟨place, goes, written⟩ := ok_of_bind written
  refine ⟨place, goes, ?_⟩
  split at written
  · rename_i there
    have kept : tree.find? place ≠ some .void := fun device => nomatch there.symm.trans device
    exact .inr ⟨kept, _, (Except.ok.inj written).symm⟩
  · rename_i device
    exact .inl ⟨device, (Except.ok.inj written).symm⟩
  · rename_i other
    exact .inr ⟨other, _, (Except.ok.inj written).symm⟩

theorem entry_eq_void_iff {spot : Spot} (leads : FileTree.spot tree cwd p = .ok spot) :
    tree.entry cwd p = .ok .void ↔ tree.find? spot.place = some .void := by
  cases spot with
  | free dir name =>
    have nothing := (spot_eq_ok_iff.mp leads).2.none_of_free
    simp [entry, leads, Spot.place, nothing, bind, Except.bind]
  | taken place =>
    cases there : tree.find? place with
    | none => simp [entry, leads, Spot.place, there, bind, Except.bind]
    | some found => simp [entry, leads, Spot.place, there, bind, Except.bind]

/-- What is written to a path is what is read from it, unless a device takes it. -/
theorem readBytes_write (written : tree.write cwd p bytes = .ok after)
    (kept : tree.entry cwd p ≠ .ok .void) : after.readBytes cwd p = .ok bytes := by
  obtain ⟨place, goes, outcome⟩ := write_eq_ok written
  obtain ⟨spot, leads, rfl, bare⟩ := spot_of_spotToWrite goes
  obtain ⟨named, follows⟩ := spot_eq_ok_iff.mp leads
  rcases outcome with ⟨device, -⟩ | ⟨-, executable, rfl⟩
  · exact absurd ((entry_eq_void_iff leads).mpr device) kept
  · have again : (tree.put spot.place (.file bytes executable)).spot cwd p =
        .ok (.taken spot.place) := spot_eq_ok_iff.mpr ⟨named, follows.put bare rfl⟩
    simp [readBytes, entry, again, find?_put_self bare.ne_nil, bind, Except.bind]

end Writing
end FileTree
end TripleSlash
