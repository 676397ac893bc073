import TripleSlash.PathSet

/-! The files that an output depends on, listed in the order in which they are first reported. A
set beside the list answers whether a file has been reported, so that none is listed twice. -/
namespace TripleSlash

structure Dependencies where
  toList : List Path
  /-- What has been reported. -/
  known : PathSet
deriving DecidableEq, Repr

namespace Dependencies

def empty : Dependencies := ⟨[], .empty⟩

def contains (d : Dependencies) (p : Path) : Bool := d.known.contains p

def size (d : Dependencies) : Nat := d.toList.length

/-- Takes down one report. -/
def add (d : Dependencies) (p : Path) : Dependencies :=
  if d.known.contains p then d else ⟨d.toList ++ [p], d.known.insert p⟩

def addAll (d : Dependencies) (reports : List Path) : Dependencies := reports.foldl add d

/-- A list without the paths that repeat an earlier one, in whatever spelling. -/
def withoutRepeats (paths : List Path) : List Path :=
  paths.eraseDupsBy fun p q => decide (Path.Same p q)

/-- The set holds what the list does. -/
def InStep (d : Dependencies) : Prop := d.known.toList = d.toList

theorem inStep_empty : empty.InStep := rfl

section Adding
variable {d : Dependencies} {p q : Path}

theorem InStep.contains_iff (inStep : d.InStep) :
    d.contains p = true ↔ ∃ q ∈ d.toList, Path.Same q p := by
  rw [contains, PathSet.contains_iff, PathSet.Mem, inStep]

theorem add_known (known : d.contains p = true) : d.add p = d := if_pos known

theorem toList_add (fresh : d.contains p = false) : (d.add p).toList = d.toList ++ [p] := by
  rw [contains] at fresh
  simp [add, fresh]

theorem contains_add : (d.add p).contains q = (d.contains q || decide (Path.Same p q)) := by
  rw [Bool.eq_iff_iff, Bool.or_eq_true, decide_eq_true_iff]
  cases known : d.contains p with
  | true =>
    rw [add_known known]
    refine ⟨Or.inl, fun seen => seen.elim id fun same => ?_⟩
    obtain ⟨r, member, other⟩ := PathSet.contains_iff.mp known
    exact PathSet.contains_iff.mpr ⟨r, member, other.trans same⟩
  | false =>
    rw [contains] at known
    simp only [add, known, Bool.false_eq_true, if_false, contains, PathSet.contains_iff]
    exact PathSet.mem_insert

theorem InStep.add (inStep : d.InStep) (p : Path) : (d.add p).InStep := by
  cases known : d.contains p with
  | true => rwa [add_known known]
  | false =>
    rw [contains] at known
    simp only [Dependencies.add, known, Bool.false_eq_true, if_false, InStep,
      PathSet.toList_insert known, show d.known.toList = d.toList from inStep]

theorem InStep.addAll (inStep : d.InStep) (reports : List Path) : (d.addAll reports).InStep := by
  induction reports generalizing d with
  | nil => exact inStep
  | cons p reports ih => exact ih (inStep.add p)

/-- Of the reports those are listed behind the others that are new and do not repeat one
another. -/
theorem toList_addAll (d : Dependencies) (reports : List Path) :
    (d.addAll reports).toList =
      d.toList ++ withoutRepeats (reports.filter fun p => !d.contains p) := by
  induction reports generalizing d with
  | nil => simp [addAll, withoutRepeats]
  | cons p reports ih =>
    rw [show d.addAll (p :: reports) = (d.add p).addAll reports from rfl, ih]
    cases known : d.contains p with
    | true =>
      rw [add_known known]
      simp [known]
    | false =>
      -- What is new once `p` is listed is what was new before and does not repeat `p`.
      have later : (reports.filter fun q => !d.contains q).filter
          (fun q => decide (decide (Path.Same q p) = false)) =
            reports.filter fun q => !(d.add p).contains q := by
        rw [List.filter_filter]
        refine List.filter_congr fun q _ => ?_
        have flipped : decide (Path.Same q p) = decide (Path.Same p q) :=
          decide_eq_decide.mpr ⟨Path.Same.symm, Path.Same.symm⟩
        rw [contains_add, Bool.not_or, Bool.and_comm, flipped]
        simp
      rw [toList_add known, List.filter_cons_of_pos (by simp [known]), withoutRepeats,
        withoutRepeats, List.eraseDupsBy_cons, later, List.append_assoc, List.singleton_append]

theorem contains_addAll {reports : List Path} : (d.addAll reports).contains p = true ↔
    d.contains p = true ∨ ∃ q ∈ reports, Path.Same q p := by
  induction reports generalizing d with
  | nil => simp [addAll]
  | cons r reports ih =>
    rw [show d.addAll (r :: reports) = (d.add r).addAll reports from rfl, ih, contains_add]
    simp [or_assoc]

theorem mem_of_mem_addAll {reports : List Path} (member : p ∈ (d.addAll reports).toList) :
    p ∈ d.toList ∨ p ∈ reports := by
  induction reports generalizing d with
  | nil => exact Or.inl member
  | cons r reports ih =>
    rcases ih member with early | late
    · cases known : d.contains r with
      | true =>
        rw [add_known known] at early
        exact Or.inl early
      | false =>
        rw [toList_add known, List.mem_append, List.mem_singleton] at early
        exact early.imp id fun same => List.mem_cons.mpr (Or.inl same)
    · exact Or.inr (List.mem_cons_of_mem _ late)

end Adding

/-- From nothing on, each report is listed where it was made first. -/
theorem toList_addAll_empty (reports : List Path) :
    (empty.addAll reports).toList = withoutRepeats reports := by
  have new : reports.filter (fun p => !empty.contains p) = reports :=
    List.filter_eq_self.mpr fun p _ => rfl
  rw [toList_addAll, new]
  rfl

theorem withoutRepeats_of_distinct {paths : List Path}
    (distinct : paths.Pairwise fun p q => ¬ Path.Same p q) : withoutRepeats paths = paths := by
  induction distinct with
  | nil => rfl
  | @cons p paths other _ ih =>
    have unlike : ∀ q ∈ paths, ¬ Path.Same q p := fun q member same => other q member same.symm
    rw [withoutRepeats] at ih ⊢
    rw [List.eraseDupsBy_cons, List.filter_eq_self.mpr fun q member => by simp [unlike q member], ih]

theorem prefix_addAll (d : Dependencies) (reports : List Path) :
    d.toList <+: (d.addAll reports).toList := by
  rw [toList_addAll]
  exact List.prefix_append _ _

end Dependencies
end TripleSlash
