import Mathlib.Data.List.Basic
import TripleSlash.Proofs.NormalForm

/-! What normal forms look like and what they say. Each is written in one of four ways, without
dots, empty segments or a slash at the end. Absolute paths have one normal form just if they lead
to the same place from the root, and a directory can be normalized before or after something is
seen from it. -/
namespace TripleSlash.Path
open TripleSlash.Part

/-- The texts of normal forms: a dot, a slash, names below the root, and names behind steps up. -/
inductive Canonical : Text → Prop where
  | here : Canonical ['.']
  | root : Canonical ['/']
  | below {names : List Text} : names ≠ [] → (∀ name ∈ names, IsName name) →
      Canonical ('/' :: Text.joinWith '/' names)
  | away {n : Nat} {names : List Text} : 0 < n ∨ names ≠ [] → (∀ name ∈ names, IsName name) →
      Canonical (Text.joinWith '/' (List.replicate n ['.', '.'] ++ names))

/-- Where a part leads from a place below the root, which is given by the names on the way. The
root has nothing above it. -/
def enter (names : List Text) : Part → List Text
  | .root => []
  | .here => names
  | .up => names.dropLast
  | .name text => names ++ [text]

/-- Where a path leads, part by part, from the root. -/
def destination (p : Path) : List Text := p.parts.foldl enter []

section Shape
variable {parts : List Part} {p : Path}

theorem canonical_rooted (rooted : Rooted parts) : Canonical (ofParts parts).text := by
  obtain ⟨names, proper, rfl⟩ := rooted
  rw [ofParts_rooted]
  by_cases none_left : names = []
  · subst none_left
    exact .root
  · exact .below none_left proper

theorem canonical_relative (relative : Relative parts) : Canonical (ofParts parts).text := by
  obtain ⟨n, names, proper, rfl⟩ := relative
  by_cases none_left : List.replicate n Part.up ++ names.map Part.name = []
  · rw [none_left]
    exact .here
  · rw [ofParts_relative none_left]
    refine .away ?_ proper
    rw [List.append_eq_nil_iff, not_and_or, List.replicate_eq_nil_iff, List.map_eq_nil_iff]
      at none_left
    exact none_left.imp_left Nat.pos_of_ne_zero

theorem canonical_normalize (p : Path) : Canonical p.normalize.text := by
  rcases folded_shape p with rooted | relative
  · exact canonical_rooted rooted
  · exact canonical_relative relative

/-- Parts of a relative path do not begin with a root, and neither does their text. -/
theorem isAbsolute_ofParts_relative (relative : Relative parts) :
    (ofParts parts).isAbsolute = false := by
  by_cases none_left : parts = []
  · subst none_left
    rfl
  · have again := parts_ofParts_relative relative none_left
    cases absolute : (ofParts parts).isAbsolute with
    | false => rfl
    | true =>
      obtain ⟨inside, shape, -⟩ := parts_of_absolute absolute
      obtain ⟨n, names, -, rfl⟩ := relative
      rw [again] at shape
      cases n with
      | succ n => simp [List.replicate_succ] at shape
      | zero => cases names <;> simp at shape

theorem isAbsolute_normalize_eq (p : Path) : p.normalize.isAbsolute = p.isAbsolute := by
  cases absolute : p.isAbsolute with
  | true => exact isAbsolute_normalize absolute
  | false => exact isAbsolute_ofParts_relative (folded_relative absolute)

end Shape

section Destination
variable {p q : Path}

/-- A part is put on a stack of names below the root as it leads on from there. -/
theorem push_inner {part : Part} (inner : Inner part) (names : List Text) :
    push ((names.map .name).reverse ++ [.root]) part =
      ((enter names part).map .name).reverse ++ [.root] := by
  cases inner with
  | up => exact push_up_rooted names
  | @name text isName => simp [push_name, enter]

theorem foldl_push_rooted {inside : List Part} (inner : ∀ part ∈ inside, Inner part)
    (names : List Text) :
    inside.foldl push ((names.map .name).reverse ++ [.root]) =
      ((inside.foldl enter names).map .name).reverse ++ [.root] := by
  induction inside generalizing names with
  | nil => rfl
  | cons part inside ih =>
    rw [List.foldl_cons, List.foldl_cons, push_inner (inner part List.mem_cons_self),
      ih fun part h => inner part (List.mem_cons_of_mem _ h)]

/-- The folded parts of an absolute path name the place that it leads to. -/
theorem folded_absolute (absolute : p.isAbsolute = true) :
    folded p.parts = .root :: p.destination.map .name := by
  obtain ⟨inside, shape, inner⟩ := parts_of_absolute absolute
  have stacked := foldl_push_rooted inner []
  have start : push [] .root = ([].map Part.name).reverse ++ [.root] := rfl
  rw [folded, destination, shape, List.foldl_cons, List.foldl_cons, start, stacked,
    List.reverse_append, List.reverse_reverse]
  rfl

/-- Absolute paths have one normal form just if they lead to one place. -/
theorem normalize_eq_iff (hp : p.isAbsolute = true) (hq : q.isAbsolute = true) :
    p.normalize = q.normalize ↔ p.destination = q.destination := by
  rw [normalize, normalize]
  constructor
  · intro same
    have parts := congrArg Path.parts same
    rw [parts_ofParts_rooted (folded_rooted hp), parts_ofParts_rooted (folded_rooted hq),
      folded_absolute hp, folded_absolute hq] at parts
    have injective : Function.Injective Part.name := fun _ _ h => Part.name.inj h
    exact List.map_injective_iff.mpr injective (List.cons.inj parts).2
  · intro same
    rw [folded_absolute hp, folded_absolute hq, same]

end Destination

section Joining
variable {p q : Path}

/-- The parts of a path that are behind its beginning, where a dot does not count. -/
def segments (p : Path) : List Part := (Text.splitAt '/' p.text).filterMap inner?

/-- In front of its segments a path has a mark of how it begins, or nothing. -/
theorem parts_cases (p : Path) :
    p.isAbsolute = true ∧ p.parts = .root :: p.segments ∨
      p.isAbsolute = false ∧ (p.parts = p.segments ∨ p.parts = .here :: p.segments) := by
  obtain ⟨first, more, cut⟩ := List.exists_cons_of_ne_nil (Text.splitAt_ne_nil '/' p.text)
  simp only [parts, segments, cut]
  cases absolute : p.isAbsolute with
  | true =>
    obtain ⟨rest, shape⟩ := isAbsolute_iff.mp absolute
    rw [shape, Text.splitAt_mark] at cut
    obtain ⟨rfl, -⟩ := List.cons.inj cut
    have unseen : inner? [] = none := rfl
    exact Or.inl ⟨rfl, by simp [List.filterMap_cons_none unseen]⟩
  | false =>
    refine Or.inr ⟨rfl, ?_⟩
    by_cases dot : first = ['.']
    · have unseen : inner? ['.'] = none := rfl
      exact Or.inr (by simp [dot, List.filterMap_cons_none unseen])
    · refine Or.inl ?_
      cases seen : inner? first with
      | none => simp [dot, List.filterMap_cons_none seen]
      | some part => simp [dot, List.filterMap_cons_some seen]

theorem fileName?_eq_some_iff {name : Text} :
    p.fileName? = some name ↔ p.parts.getLast? = some (.name name) := by
  unfold fileName?
  split
  · rename_i text last
    simp [last]
  · rename_i other
    simp only [reduceCtorEq, false_iff]
    exact other name

/-- Folding the parts of a path is to put all that its segments say on what it begins with. -/
theorem foldl_push_parts (p : Path) :
    p.parts.foldl push [] = p.segments.foldl push (if p.isAbsolute then [.root] else []) := by
  rcases parts_cases p with ⟨absolute, parts⟩ | ⟨relative, parts | parts⟩
  · rw [parts, absolute]
    rfl
  · rw [parts, relative]
    rfl
  · rw [parts, relative]
    rfl

theorem folded_normalize (p : Path) : folded p.normalize.parts = folded p.parts := by
  rcases folded_shape p with rooted | relative
  · rw [normalize, parts_ofParts_rooted rooted, folded_of_rooted rooted]
  · by_cases none_left : folded p.parts = []
    · rw [normalize, none_left]
      rfl
    · rw [normalize, parts_ofParts_relative relative none_left, folded_of_relative relative]

/-- An absolute path stands for itself, whatever it is seen from. -/
theorem join_absolute (p : Path) (absolute : q.isAbsolute = true) : p.join q = q :=
  if_pos absolute

/-- A slash at the end of a path is not seen. -/
theorem segments_append_slash (text : Text) :
    segments ⟨text ++ ['/']⟩ = segments ⟨text⟩ := by
  simp only [segments, Text.splitAt_append_mark, List.filterMap_append]
  exact List.append_nil _

/-- What is seen from a path has the segments of the path in front of its own. -/
theorem segments_join (p : Path) (relative : q.isAbsolute = false) :
    (p.join q).segments = p.segments ++ q.segments := by
  have mark (text : Text) : segments ⟨text ++ '/' :: q.text⟩ = segments ⟨text⟩ ++ q.segments := by
    simp only [segments, Text.splitAt_append_mark, List.filterMap_append]
  obtain ⟨text⟩ := p
  simp only [join, relative, Bool.false_eq_true, if_false]
  rcases List.eq_nil_or_concat text with rfl | ⟨init, last, rfl⟩
  · rfl
  · rw [List.concat_eq_append]
    by_cases slash : last = '/'
    · subst slash
      rw [if_pos (Or.inr List.getLast?_concat), segments_append_slash]
      simpa using mark init
    · have unfinished : ¬ (init ++ [last] = [] ∨ (init ++ [last]).getLast? = some '/') := by
        simp [slash]
      rw [if_neg unfinished, mark]

theorem isAbsolute_join_eq (p : Path) (relative : q.isAbsolute = false) :
    (p.join q).isAbsolute = p.isAbsolute := by
  obtain ⟨text⟩ := p
  simp only [join, relative, Bool.false_eq_true, if_false]
  cases text with
  | nil => exact relative
  | cons c rest => split <;> rfl

/-- The stack of a path goes on with the segments of what is seen from it. -/
theorem foldl_push_join (p : Path) (relative : q.isAbsolute = false) :
    (p.join q).parts.foldl push [] = q.segments.foldl push (p.parts.foldl push []) := by
  rw [foldl_push_parts, foldl_push_parts p, segments_join p relative, isAbsolute_join_eq p relative,
    List.foldl_append]

/-- It makes no difference if a directory is normalized before something is seen from it. -/
theorem normalize_join (p q : Path) :
    (p.join q).normalize = (p.normalize.join q).normalize := by
  cases relative : q.isAbsolute with
  | true => rw [join_absolute p relative, join_absolute p.normalize relative]
  | false =>
    have stack : p.normalize.parts.foldl push [] = p.parts.foldl push [] :=
      List.reverse_injective (folded_normalize p)
    rw [normalize, normalize, folded, folded, foldl_push_join p relative,
      foldl_push_join p.normalize relative, stack]

end Joining

/-- Normalizing gives one of the canonical texts, and the same one again. It keeps absolute paths
absolute and relative paths relative, it tells absolute paths apart just if they lead to different
places, and it can be put off until something is seen from the path. -/
theorem normalize_laws (p q : Path) :
    Canonical p.normalize.text ∧
    p.normalize.isAbsolute = p.isAbsolute ∧
    (p.isAbsolute = true → q.isAbsolute = true →
      (p.normalize = q.normalize ↔ p.destination = q.destination)) ∧
    p.normalize.normalize = p.normalize ∧
    (p.join q).normalize = (p.normalize.join q).normalize :=
  ⟨canonical_normalize p, isAbsolute_normalize_eq p, normalize_eq_iff, normalize_idem p,
    normalize_join p q⟩

/-- One place, with detours and without. -/
def detour : Path := .ofString "/../x/..//a/./b/"

def direct : Path := .ofString "/a/b"

theorem detour_straightened :
    (detour.isAbsolute = true ∧ direct.isAbsolute = true ∧
      detour.destination = direct.destination) ∧ detour.normalize = direct.normalize := by
  have same : detour.destination = direct.destination := by decide
  exact ⟨⟨rfl, rfl, same⟩, ((normalize_laws detour direct).2.2.1 rfl rfl).mpr same⟩

end TripleSlash.Path
