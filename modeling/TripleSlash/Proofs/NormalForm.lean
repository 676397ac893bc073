import TripleSlash.Files

/-! Folded parts are a root and names below it, or steps up and names below them. The text
written for such parts is read as the same parts again, so a normal form is its own normal
form, and two normal forms that name the same path are one text. -/
namespace TripleSlash

namespace Part

/-- What a segment can hold that counts as a name. -/
structure IsName (text : Text) : Prop where
  not_empty : text ≠ []
  not_here : text ≠ ['.']
  not_up : text ≠ ['.', '.']
  no_slash : '/' ∉ text

instance (text : Text) : Decidable (IsName text) :=
  decidable_of_iff (text ≠ [] ∧ text ≠ ['.'] ∧ text ≠ ['.', '.'] ∧ '/' ∉ text)
    ⟨fun h => ⟨h.1, h.2.1, h.2.2.1, h.2.2.2⟩,
      fun h => ⟨h.not_empty, h.not_here, h.not_up, h.no_slash⟩⟩

/-- A part that can stand behind another one. -/
inductive Inner : Part → Prop where
  | up : Inner .up
  | name {text} : IsName text → Inner (.name text)

/-- A root with names below it. -/
def Rooted (parts : List Part) : Prop :=
  ∃ names : List Text, (∀ text ∈ names, IsName text) ∧ parts = .root :: names.map .name

/-- Steps up with names below them. -/
def Relative (parts : List Part) : Prop :=
  ∃ (n : Nat) (names : List Text), (∀ text ∈ names, IsName text) ∧
    parts = List.replicate n .up ++ names.map .name

theorem push_name (stack : List Part) (text : Text) : push stack (.name text) = .name text :: stack := by
  unfold push
  split <;> simp_all

theorem foldl_push_names (stack : List Part) (names : List Text) :
    (names.map .name).foldl push stack = (names.map .name).reverse ++ stack := by
  induction names generalizing stack with
  | nil => rfl
  | cons text names ih =>
    simp only [List.map_cons, List.foldl_cons, push_name, ih, List.reverse_cons,
      List.append_assoc, List.singleton_append]

theorem push_ups (n : Nat) : push (List.replicate n .up) .up = List.replicate (n + 1) .up := by
  cases n with
  | zero => rfl
  | succ n => rfl

theorem foldl_push_ups (n : Nat) : (List.replicate n .up).foldl push [] = List.replicate n .up := by
  induction n with
  | zero => rfl
  | succ n ih =>
    rw [List.replicate_succ', List.foldl_append, ih, List.foldl_cons, List.foldl_nil, push_ups,
      ← List.replicate_succ']

/-- A step up takes the last of some names back. -/
theorem push_up_names (names : List Text) (text : Text) (below : List Part) :
    push (((names ++ [text]).map .name).reverse ++ below) .up = (names.map .name).reverse ++ below := by
  simp [push]

/-- Below a root it does so too, and with no names left it stays at the root. -/
theorem push_up_rooted (names : List Text) :
    push ((names.map .name).reverse ++ [.root]) .up =
      (names.dropLast.map .name).reverse ++ [.root] := by
  rcases List.eq_nil_or_concat names with rfl | ⟨init, last, rfl⟩
  · rfl
  · rw [List.concat_eq_append, push_up_names, List.dropLast_concat]

theorem Rooted.push {stack : List Part} {part : Part} (rooted : Rooted stack.reverse)
    (inner : Inner part) : Rooted (push stack part).reverse := by
  obtain ⟨names, proper, shape⟩ := rooted
  have stacked : stack = (names.map .name).reverse ++ [.root] := by
    rw [← List.reverse_reverse stack, shape, List.reverse_cons]
  cases inner with
  | @name text isName =>
    refine ⟨names ++ [text], ?_, ?_⟩
    · simpa only [List.forall_mem_append, List.forall_mem_singleton] using ⟨proper, isName⟩
    · rw [push_name, List.reverse_cons, shape, List.map_append, List.cons_append]
      rfl
  | up =>
    rcases List.eq_nil_or_concat names with rfl | ⟨init, last, rfl⟩
    · exact ⟨[], by simp, by rw [stacked]; rfl⟩
    · rw [List.concat_eq_append] at stacked proper
      refine ⟨init, fun t h => proper t (List.mem_append_left _ h), ?_⟩
      rw [stacked, push_up_names, List.reverse_append, List.reverse_reverse]
      rfl

theorem Relative.push {stack : List Part} {part : Part} (relative : Relative stack.reverse)
    (inner : Inner part) : Relative (push stack part).reverse := by
  obtain ⟨n, names, proper, shape⟩ := relative
  have stacked : stack = (names.map .name).reverse ++ List.replicate n .up := by
    rw [← List.reverse_reverse stack, shape, List.reverse_append, List.reverse_replicate]
  cases inner with
  | @name text isName =>
    refine ⟨n, names ++ [text], ?_, ?_⟩
    · simpa only [List.forall_mem_append, List.forall_mem_singleton] using ⟨proper, isName⟩
    · rw [push_name, List.reverse_cons, shape, List.map_append, List.append_assoc]
      rfl
  | up =>
    rcases List.eq_nil_or_concat names with rfl | ⟨init, last, rfl⟩
    · refine ⟨n + 1, [], by simp, ?_⟩
      rw [stacked, List.map_nil, List.reverse_nil, List.nil_append, push_ups,
        List.reverse_replicate, List.append_nil]
    · rw [List.concat_eq_append] at stacked proper
      refine ⟨n, init, fun t h => proper t (List.mem_append_left _ h), ?_⟩
      rw [stacked, push_up_names, List.reverse_append, List.reverse_reverse,
        List.reverse_replicate]

/-- What holds of a stack and is kept by every part that can stand behind another one holds in
the end. -/
theorem foldl_push_keeps {shape : List Part → Prop}
    (keeps : ∀ {stack part}, shape stack.reverse → Inner part → shape (push stack part).reverse)
    {parts : List Part} (inner : ∀ part ∈ parts, Inner part) {stack : List Part}
    (start : shape stack.reverse) : shape (parts.foldl push stack).reverse := by
  induction parts generalizing stack with
  | nil => exact start
  | cons part parts ih =>
    exact ih (fun p h => inner p (List.mem_cons_of_mem _ h))
      (keeps start (inner part List.mem_cons_self))

end Part

namespace Path
open TripleSlash.Part

theorem folded_of_rooted {parts : List Part} (rooted : Rooted parts) : folded parts = parts := by
  obtain ⟨names, -, rfl⟩ := rooted
  simp only [folded, List.foldl_cons, foldl_push_names, List.reverse_append,
    List.reverse_reverse]
  rfl

theorem folded_of_relative {parts : List Part} (relative : Relative parts) :
    folded parts = parts := by
  obtain ⟨n, names, -, rfl⟩ := relative
  simp only [folded, List.foldl_append, foldl_push_ups, foldl_push_names,
    List.reverse_append, List.reverse_reverse, List.reverse_replicate]

theorem inner?_name {text : Text} (isName : IsName text) : inner? text = some (.name text) := by
  simp [inner?, isName.not_empty, isName.not_here, isName.not_up]

/-- A segment that is there is a dot, a step up or a name. -/
theorem inner?_cases {segment : Text} (some_char : segment ≠ []) :
    segment = ['.'] ∧ inner? segment = none ∨ segment = ['.', '.'] ∧ inner? segment = some .up ∨
      segment ≠ ['.'] ∧ segment ≠ ['.', '.'] ∧ inner? segment = some (.name segment) := by
  by_cases here : segment = ['.']
  · exact .inl ⟨here, by simp [inner?, here]⟩
  · by_cases up : segment = ['.', '.']
    · exact .inr (.inl ⟨up, by simp [inner?, up]⟩)
    · exact .inr (.inr ⟨here, up, by simp [inner?, some_char, here, up]⟩)

theorem inner?_sound {segment : Text} {part : Part} (no_slash : '/' ∉ segment)
    (seen : inner? segment = some part) : Inner part := by
  unfold inner? at seen
  split at seen
  · contradiction
  · split at seen
    · cases seen
      exact .up
    · cases seen
      rename_i visible notUp
      simp only [not_or] at visible
      exact .name ⟨visible.1, visible.2, notUp, no_slash⟩

theorem filterMap_inner?_sound {segments : List Text} (no_slash : ∀ s ∈ segments, '/' ∉ s) :
    ∀ part ∈ segments.filterMap inner?, Inner part := by
  intro part h
  obtain ⟨segment, member, seen⟩ := List.mem_filterMap.mp h
  exact inner?_sound (no_slash segment member) seen

/-- An absolute path is read as a root and parts that can stand behind it. -/
theorem parts_of_absolute {p : Path} (absolute : p.isAbsolute = true) :
    ∃ inside, p.parts = .root :: inside ∧ ∀ part ∈ inside, Inner part := by
  unfold parts
  cases cut : Text.splitAt '/' p.text with
  | nil => exact absurd cut (Text.splitAt_ne_nil _ _)
  | cons first more =>
    refine ⟨more.filterMap inner?, by simp [absolute], filterMap_inner?_sound fun s h => ?_⟩
    exact Text.not_mem_of_mem_splitAt (by rw [cut]; exact List.mem_cons_of_mem _ h)

/-- Any other path is read as such parts alone, or with a dot in front of them. -/
theorem parts_of_relative {p : Path} (relative : p.isAbsolute = false) :
    ∃ inside, (p.parts = inside ∨ p.parts = .here :: inside) ∧ ∀ part ∈ inside, Inner part := by
  unfold parts
  cases cut : Text.splitAt '/' p.text with
  | nil => exact absurd cut (Text.splitAt_ne_nil _ _)
  | cons first more =>
    have free : ∀ s ∈ first :: more, '/' ∉ s := fun s h =>
      Text.not_mem_of_mem_splitAt (by rw [cut]; exact h)
    have later := filterMap_inner?_sound fun s h => free s (List.mem_cons_of_mem _ h)
    by_cases dot : first = ['.']
    · exact ⟨more.filterMap inner?, Or.inr (by simp [relative, dot]), later⟩
    · refine ⟨(inner? first).toList ++ more.filterMap inner?, Or.inl (by simp [relative, dot]), ?_⟩
      intro part h
      rcases List.mem_append.mp h with here | there
      · exact inner?_sound (free first List.mem_cons_self) (Option.mem_toList.mp here)
      · exact later part there

theorem folded_rooted {p : Path} (absolute : p.isAbsolute = true) : Rooted (folded p.parts) := by
  obtain ⟨inside, shape, inner⟩ := parts_of_absolute absolute
  rw [folded, shape, List.foldl_cons]
  exact foldl_push_keeps Rooted.push inner ⟨[], by simp, rfl⟩

theorem folded_relative {p : Path} (relative : p.isAbsolute = false) :
    Relative (folded p.parts) := by
  obtain ⟨inside, shape, inner⟩ := parts_of_relative relative
  have start : Relative ([] : List Part).reverse := ⟨0, [], by simp, rfl⟩
  rcases shape with shape | shape
  · rw [folded, shape]
    exact foldl_push_keeps Relative.push inner start
  · rw [folded, shape, List.foldl_cons]
    exact foldl_push_keeps Relative.push inner start

theorem map_text_names (names : List Text) : (names.map Part.name).map Part.text = names := by
  simp [Function.comp_def, Part.text]

theorem filterMap_inner?_names {names : List Text} (proper : ∀ text ∈ names, IsName text) :
    names.filterMap inner? = names.map .name := by
  induction names with
  | nil => rfl
  | cons text names ih =>
    rw [List.filterMap_cons, inner?_name (proper text List.mem_cons_self),
      ih fun t h => proper t (List.mem_cons_of_mem _ h)]
    rfl

theorem parts_ofParts_rooted {parts : List Part} (rooted : Rooted parts) :
    (ofParts parts).parts = parts := by
  obtain ⟨names, proper, rfl⟩ := rooted
  simp only [ofParts, map_text_names, Path.parts, Text.splitAt_mark, isAbsolute, List.head?_cons, BEq.rfl,
    if_true]
  cases names with
  | nil => rfl
  | cons name rest =>
    rw [Text.splitAt_joinWith (fun s h => (proper s h).no_slash) (List.cons_ne_nil _ _),
      filterMap_inner?_names proper]

theorem filterMap_inner?_ups (n : Nat) :
    (List.replicate n ['.', '.']).filterMap inner? = List.replicate n Part.up := by
  induction n with
  | zero => rfl
  | succ n ih =>
    rw [List.replicate_succ, List.filterMap_cons, ih]
    rfl

/-- Segments that do not begin with a dot alone are read one by one. -/
theorem parts_joinWith {first : Text} {more : List Text} (visible : first ≠ [] ∧ first ≠ ['.'])
    (no_slash : ∀ s ∈ first :: more, '/' ∉ s) :
    (Path.mk (Text.joinWith '/' (first :: more))).parts = (first :: more).filterMap inner? := by
  have relative : (Path.mk (Text.joinWith '/' (first :: more))).isAbsolute = false := by
    obtain ⟨c, rest, rfl⟩ := List.exists_cons_of_ne_nil visible.1
    have plain : c ≠ '/' := fun h => no_slash _ List.mem_cons_self (h ▸ List.mem_cons_self)
    cases more <;> simp [isAbsolute, Text.joinWith, plain]
  simp only [parts, Text.splitAt_joinWith no_slash (List.cons_ne_nil _ _), relative, visible.2,
    Bool.false_eq_true, if_false, List.filterMap_cons]
  cases inner? first <;> rfl

theorem ofParts_relative {n : Nat} {names : List Text}
    (some_part : List.replicate n Part.up ++ names.map Part.name ≠ []) :
    ofParts (List.replicate n Part.up ++ names.map Part.name) =
      ⟨Text.joinWith '/' (List.replicate n ['.', '.'] ++ names)⟩ := by
  have texts : (List.replicate n Part.up ++ names.map Part.name).map Part.text =
      List.replicate n ['.', '.'] ++ names := by
    rw [List.map_append, map_text_names, List.map_replicate]
    rfl
  rw [← texts]
  cases n with
  | succ n => rfl
  | zero =>
    cases names with
    | nil => exact absurd rfl some_part
    | cons name rest => rfl

theorem parts_ofParts_relative {parts : List Part} (relative : Relative parts)
    (some_part : parts ≠ []) : (ofParts parts).parts = parts := by
  obtain ⟨n, names, proper, rfl⟩ := relative
  have seen : (List.replicate n ['.', '.'] ++ names).filterMap inner? =
      List.replicate n Part.up ++ names.map .name := by
    rw [List.filterMap_append, filterMap_inner?_ups, filterMap_inner?_names proper]
  have no_slash : ∀ s ∈ List.replicate n ['.', '.'] ++ names, '/' ∉ s := by
    intro s h
    rcases List.mem_append.mp h with up | name
    · rw [List.eq_of_mem_replicate up]
      decide
    · exact (proper s name).no_slash
  rw [ofParts_relative some_part, ← seen]
  cases n with
  | succ n => exact parts_joinWith (by decide) no_slash
  | zero =>
    cases names with
    | nil => exact absurd rfl some_part
    | cons name rest =>
      have isName := proper name List.mem_cons_self
      exact parts_joinWith ⟨isName.not_empty, isName.not_here⟩ no_slash

/-- Writing folded parts and folding what is read changes nothing. -/
theorem normalize_ofParts {parts : List Part} (shape : Rooted parts ∨ Relative parts) :
    (ofParts parts).normalize = ofParts parts := by
  rcases shape with rooted | relative
  · rw [normalize, parts_ofParts_rooted rooted, folded_of_rooted rooted]
  · by_cases none_left : parts = []
    · subst none_left
      rfl
    · rw [normalize, parts_ofParts_relative relative none_left, folded_of_relative relative]

theorem folded_shape (p : Path) : Rooted (folded p.parts) ∨ Relative (folded p.parts) := by
  cases h : p.isAbsolute with
  | true => exact Or.inl (folded_rooted h)
  | false => exact Or.inr (folded_relative h)

theorem normalize_idem (p : Path) : p.normalize.normalize = p.normalize :=
  normalize_ofParts (folded_shape p)

theorem isAbsolute_ofParts {parts : List Part} (rooted : Rooted parts) :
    (ofParts parts).isAbsolute = true := by
  obtain ⟨names, -, rfl⟩ := rooted
  rfl

theorem isAbsolute_normalize {p : Path} (absolute : p.isAbsolute = true) :
    p.normalize.isAbsolute = true :=
  isAbsolute_ofParts (folded_rooted absolute)

theorem normalize_eq_of_same {p q : Path} (same : Same p q) : p.normalize = q.normalize := by
  rw [normalize, normalize, same]

/-- A path in normal form. -/
def IsNormal (p : Path) : Prop := p.normalize = p

theorem isNormal_normalize (p : Path) : p.normalize.IsNormal := normalize_idem p

/-- Two normal forms of one path are the same text. -/
theorem IsNormal.eq_of_same {p q : Path} (hp : p.IsNormal) (hq : q.IsNormal) (same : Same p q) :
    p = q := by
  rw [← hp, ← hq, normalize_eq_of_same same]

theorem trimEnd_names {names : List Text} (proper : ∀ text ∈ names, IsName text) :
    trimEnd names = names := by
  rcases List.eq_nil_or_concat names with rfl | ⟨init, last, rfl⟩
  · rfl
  · have isName : IsName last := proper last (by simp)
    simp [trimEnd, inner?_name isName]

/-- The directory of an absolute normal form drops its last name. -/
theorem dir_ofParts {names : List Text} (proper : ∀ text ∈ names, IsName text) :
    (ofParts (.root :: names.map .name)).dir = ofParts (.root :: names.dropLast.map .name) := by
  cases names with
  | nil => decide
  | cons name rest =>
    have trimmed := trimEnd_names fun t h => proper t (List.dropLast_subset _ h)
    simp only [dir, parent?, ofParts, map_text_names, Text.splitAt_mark,
      Text.splitAt_joinWith (fun s h => (proper s h).no_slash) (List.cons_ne_nil _ _),
      trimEnd_names proper, trimmed, isAbsolute, List.head?_cons, BEq.rfl, and_true,
      Option.getD_some]
    cases (name :: rest).dropLast with
    | nil => rfl
    | cons next more => simp [Text.joinWith]

theorem isAbsolute_iff {p : Path} : p.isAbsolute = true ↔ ∃ rest, p.text = '/' :: rest := by
  rw [← List.head?_eq_some_iff]
  simp [isAbsolute]

theorem isAbsolute_join {dir : Path} (absolute : dir.isAbsolute = true) (p : Path) :
    (dir.join p).isAbsolute = true := by
  obtain ⟨rest, shape⟩ := isAbsolute_iff.mp absolute
  unfold join
  split
  · assumption
  · split <;> simp [isAbsolute, shape]

theorem ofParts_rooted (names : List Text) :
    ofParts (.root :: names.map .name) = ⟨'/' :: Text.joinWith '/' names⟩ := by
  rw [ofParts, map_text_names]

/-- A path from the root without detours: each of its segments is a name. -/
def IsResolved (p : Path) : Prop :=
  ∃ names : List Text, (∀ text ∈ names, Part.IsName text) ∧
    p.text = '/' :: Text.joinWith '/' names

theorem isResolved_iff {p : Path} : p.IsResolved ↔ p.isAbsolute = true ∧ p.IsNormal := by
  constructor
  · rintro ⟨names, proper, text⟩
    obtain rfl : p = ofParts (.root :: names.map .name) := by
      rw [ofParts_rooted, ← text]
    exact ⟨rfl, normalize_ofParts (Or.inl ⟨names, proper, rfl⟩)⟩
  · rintro ⟨absolute, normal⟩
    obtain ⟨names, proper, shape⟩ := folded_rooted absolute
    refine ⟨names, proper, ?_⟩
    rw [← normal, normalize, shape, ofParts_rooted]

instance (p : Path) : Decidable p.IsResolved :=
  decidable_of_iff (p.isAbsolute = true ∧ p.normalize = p) isResolved_iff.symm

theorem isResolved_resolve {dir : Path} (absolute : dir.isAbsolute = true) (p : Path) :
    (dir.resolve p).IsResolved :=
  isResolved_iff.mpr ⟨isAbsolute_normalize (isAbsolute_join absolute p), isNormal_normalize _⟩

theorem IsResolved.isAbsolute_dir {p : Path} (resolved : p.IsResolved) :
    p.dir.isAbsolute = true := by
  obtain ⟨names, proper, text⟩ := resolved
  obtain rfl : p = ofParts (.root :: names.map .name) := by
    rw [ofParts_rooted, ← text]
  rw [dir_ofParts proper]
  rfl

end Path

/-- The absolute form of a path is a root with names below it. -/
theorem Files.absolute_shape {files : Files} {p file : Path} (located : files.absolute p = .ok file) :
    ∃ names : List Text, (∀ text ∈ names, Part.IsName text) ∧
      file = Path.ofParts (.root :: names.map .name) := by
  have rooted : ∃ q : Path, q.isAbsolute = true ∧ file = q.normalize := by
    unfold Files.absolute at located
    split at located
    · cases located
      exact ⟨p, ‹_›, rfl⟩
    · split at located
      · contradiction
      · rename_i dir current
        cases located
        exact ⟨dir.join p, Path.isAbsolute_join (files.rooted dir current) p, rfl⟩
  obtain ⟨q, absolute, rfl⟩ := rooted
  obtain ⟨names, proper, shape⟩ := Path.folded_rooted absolute
  exact ⟨names, proper, by rw [Path.normalize, shape]⟩

theorem Files.absolute_normal {files : Files} {p file : Path}
    (located : files.absolute p = .ok file) : file.IsNormal := by
  obtain ⟨names, proper, rfl⟩ := Files.absolute_shape located
  exact Path.normalize_ofParts (Or.inl ⟨names, proper, rfl⟩)

theorem Files.absolute_resolved {files : Files} {p file : Path}
    (located : files.absolute p = .ok file) : file.IsResolved := by
  obtain ⟨names, proper, rfl⟩ := Files.absolute_shape located
  exact ⟨names, proper, congrArg Path.text (Path.ofParts_rooted names)⟩

end TripleSlash
