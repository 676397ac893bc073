import TripleSlash.Path

/-! Sets of paths in the order of their first insertion. Membership goes by parts, and the
first spelling stays. -/
namespace TripleSlash

structure PathSet where
  toList : List Path
deriving DecidableEq, Repr

namespace PathSet

def empty : PathSet := ⟨[]⟩

def Mem (p : Path) (s : PathSet) : Prop := ∃ q ∈ s.toList, Path.Same q p

def contains (s : PathSet) (p : Path) : Bool := s.toList.any fun q => decide (Path.Same q p)

theorem contains_iff {s : PathSet} {p : Path} : s.contains p = true ↔ Mem p s := by
  simp [contains, Mem]

instance (p : Path) (s : PathSet) : Decidable (Mem p s) :=
  decidable_of_iff _ contains_iff

def insert (s : PathSet) (p : Path) : PathSet :=
  if s.contains p then s else ⟨s.toList ++ [p]⟩

def insertAll (s : PathSet) (paths : List Path) : PathSet := paths.foldl insert s

def size (s : PathSet) : Nat := s.toList.length

theorem mem_insert {s : PathSet} {p q : Path} :
    Mem q (s.insert p) ↔ Mem q s ∨ Path.Same p q := by
  unfold insert
  split
  · rename_i h
    refine ⟨Or.inl, fun hq => hq.elim id fun same => ?_⟩
    obtain ⟨r, hr, hs⟩ := contains_iff.1 h
    exact ⟨r, hr, hs.trans same⟩
  · simp [Mem, or_and_right, exists_or]

theorem toList_insert {s : PathSet} {p : Path} (fresh : s.contains p = false) :
    (s.insert p).toList = s.toList ++ [p] := by
  simp [insert, fresh]

theorem mem_of_mem_insertAll {s : PathSet} {paths : List Path} {p : Path}
    (member : p ∈ (s.insertAll paths).toList) : p ∈ s.toList ∨ p ∈ paths := by
  induction paths generalizing s with
  | nil => exact Or.inl member
  | cons q paths ih =>
    rcases ih member with early | late
    · cases known : s.contains q with
      | true =>
        rw [insert, if_pos known] at early
        exact Or.inl early
      | false =>
        rw [toList_insert known, List.mem_append, List.mem_singleton] at early
        exact early.imp id fun same => List.mem_cons.mpr (Or.inl same)
    · exact Or.inr (List.mem_cons_of_mem _ late)

theorem not_mem_of_contains {s : PathSet} {p : Path} (fresh : s.contains p = false) :
    ¬ Mem p s := by
  simp [← contains_iff, fresh]

end PathSet
end TripleSlash
