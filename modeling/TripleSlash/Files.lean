import TripleSlash.PathSet
import TripleSlash.ReferenceError

/-! What a program sees of a file system at one moment. Only finitely many paths can be
read, which is what every walk over references ends by. -/
namespace TripleSlash

structure Files where
  /-- The directory that relative paths start from, as an absolute path. -/
  currentDir : Except IoError Path
  read : Path → Except IoError Text
  /-- Something is there, once links are followed. -/
  present : Path → Bool
  /-- A regular file is there, once links are followed. -/
  isFile : Path → Bool
  finite : ∃ names : List Path, ∀ p t, read p = .ok t → p ∈ names
  rooted : ∀ dir, currentDir = .ok dir → dir.isAbsolute = true

namespace Files

/-- Just these texts, seen from the root. -/
def ofTexts (texts : List (Path × Text)) : Files where
  currentDir := .ok ⟨['/']⟩
  read p := (texts.find? fun entry => entry.1 = p).elim (.error .notFound) fun entry => .ok entry.2
  present p := texts.any fun entry => entry.1 = p
  isFile p := texts.any fun entry => entry.1 = p
  finite := by
    refine ⟨texts.map Prod.fst, fun p t read => ?_⟩
    cases found : texts.find? fun entry => entry.1 = p with
    | none => simp [found] at read
    | some entry =>
      have same : entry.1 = p := by simpa using List.find?_some found
      exact List.mem_map.mpr ⟨entry, List.mem_of_find?_eq_some found, same⟩
  rooted := by
    intro dir h
    cases h
    rfl

/-- How many readable paths are not in `seen` yet. -/
noncomputable def unread (files : Files) (seen : PathSet) : Nat :=
  files.finite.choose.countP fun p => !seen.contains p

theorem countP_lt_of_drop {α : Type} {p q : α → Bool} {xs : List α} {x : α} (hx : x ∈ xs)
    (keeps : ∀ y, p y = true → q y = true) (drops : p x = false) (had : q x = true) :
    xs.countP p < xs.countP q := by
  induction xs with
  | nil => cases hx
  | cons y ys ih =>
    have less : ys.countP p ≤ ys.countP q := List.countP_mono_left fun z _ => keeps z
    rcases List.mem_cons.1 hx with rfl | later
    · simp only [List.countP_cons, drops, had, if_true, Bool.false_eq_true, if_false]
      omega
    · have step := ih later
      simp only [List.countP_cons]
      have : (if p y = true then 1 else 0) ≤ (if q y = true then 1 else 0) := by
        by_cases h : p y = true <;> simp [h, keeps y]
      omega

/-- The more is seen, the less is left to read. -/
theorem unread_le {files : Files} {seen more : PathSet}
    (grows : ∀ p, PathSet.Mem p seen → PathSet.Mem p more) :
    files.unread more ≤ files.unread seen := by
  refine List.countP_mono_left fun p _ hp => ?_
  simp only [Bool.not_eq_true', Bool.eq_false_iff, ne_eq, PathSet.contains_iff] at hp ⊢
  exact fun h => hp (grows p h)

/-- Marking a path that can be read and was not seen leaves fewer to read. -/
theorem unread_insert_lt {files : Files} {seen : PathSet} {p : Path} {t : Text}
    (fresh : seen.contains p = false) (readable : files.read p = .ok t) :
    files.unread (seen.insert p) < files.unread seen := by
  refine countP_lt_of_drop (files.finite.choose_spec p t readable) ?_ ?_ (by simp [fresh])
  · intro q hq
    simp only [Bool.not_eq_true', Bool.eq_false_iff, ne_eq, PathSet.contains_iff] at hq ⊢
    exact fun h => hq (PathSet.mem_insert.2 (Or.inl h))
  · simp only [Bool.not_eq_false', PathSet.contains_iff]
    exact PathSet.mem_insert.2 (Or.inr (Path.Same.refl p))

/-- The absolute normal form of a path. Only a relative one needs the current directory. -/
def absolute (files : Files) (p : Path) : Except ReferenceError Path :=
  if p.isAbsolute then .ok p.normalize
  else
    match files.currentDir with
    | .error cause => .error (.currentDir p cause)
    | .ok dir => .ok (dir.resolve p)

end Files
end TripleSlash
