import TripleSlash.Text

/-! The pieces of a text are its lines, each with the line feed that ends it. They are the
only way to cut the text so that a line feed stands at the end of every piece but the last,
where it may be missing, and nowhere else. -/
namespace TripleSlash.Text

/-- One line, with or without the line feed that ends it. -/
structure IsLine (t : Text) : Prop where
  not_empty : t ≠ []
  no_break : '\n' ∉ t.dropLast

/-- A text ends where a line does. -/
def Closed (t : Text) : Prop := t.getLast? = some '\n'

/-- Lines one after another, of which only the last may miss its line feed. -/
inductive Cut : List Text → Prop where
  | nil : Cut []
  | last {line} : IsLine line → Cut [line]
  | cons {line more} : IsLine line → Closed line → Cut more → Cut (line :: more)

variable {s t : Text}

theorem isLine_append_break (free : '\n' ∉ t) : IsLine (t ++ ['\n']) := by
  refine ⟨by simp, ?_⟩
  rwa [List.dropLast_concat]

theorem closed_append_break (t : Text) : Closed (t ++ ['\n']) := by
  simp [Closed]

/-- A line ends at its end only. -/
theorem isLine_append (some_char : t ≠ []) : IsLine (s ++ t) ↔ '\n' ∉ s ∧ IsLine t := by
  have shape : (s ++ t).dropLast = s ++ t.dropLast := List.dropLast_append_of_ne_nil some_char
  constructor
  · rintro ⟨-, free⟩
    rw [shape, List.mem_append, not_or] at free
    exact ⟨free.1, some_char, free.2⟩
  · rintro ⟨front, -, back⟩
    refine ⟨List.append_ne_nil_of_right_ne_nil s some_char, ?_⟩
    rw [shape, List.mem_append, not_or]
    exact ⟨front, back⟩

theorem IsLine.cons {c : Char} (line : IsLine t) (plain : c ≠ '\n') : IsLine (c :: t) :=
  (isLine_append (s := [c]) line.not_empty).mpr ⟨by simpa using plain.symm, line⟩

theorem Closed.cons {c : Char} (closed : Closed t) : Closed (c :: t) := by
  unfold Closed at closed ⊢
  rw [List.getLast?_cons, closed]
  rfl

theorem pieces_break (t : Text) : pieces ('\n' :: t) = ['\n'] :: pieces t := by
  simp [pieces]

theorem pieces_cons {c : Char} {piece : Text} {more : List Text} (plain : c ≠ '\n')
    (cut : pieces t = piece :: more) : pieces (c :: t) = (c :: piece) :: more := by
  simp [pieces, plain, cut]

theorem pieces_single {c : Char} (plain : c ≠ '\n') : pieces [c] = [[c]] := by
  simp [pieces, plain]

theorem pieces_ne_nil (some_char : t ≠ []) : pieces t ≠ [] := by
  intro none_left
  have joined := flatten_pieces t
  rw [none_left] at joined
  exact some_char joined.symm

theorem cut_pieces (t : Text) : Cut (pieces t) := by
  induction t with
  | nil => exact .nil
  | cons c t ih =>
    by_cases break_here : c = '\n'
    · subst break_here
      rw [pieces_break]
      exact .cons ⟨List.cons_ne_nil _ _, List.not_mem_nil⟩ rfl ih
    · cases cut : pieces t with
      | nil =>
        have empty : t = [] := Decidable.byContradiction fun h => pieces_ne_nil h cut
        rw [empty, pieces_single break_here]
        exact .last ⟨List.cons_ne_nil _ _, List.not_mem_nil⟩
      | cons piece more =>
        rw [pieces_cons break_here cut]
        rw [cut] at ih
        cases ih with
        | last line => exact .last (line.cons break_here)
        | cons line closed rest => exact .cons (line.cons break_here) closed.cons rest

theorem isLine_of_mem_pieces {piece : Text} (member : piece ∈ pieces t) : IsLine piece := by
  have cut := cut_pieces t
  generalize pieces t = all at cut member
  induction cut with
  | nil => exact absurd member List.not_mem_nil
  | last line => rwa [List.mem_singleton.mp member]
  | cons line _ _ ih =>
    rcases List.mem_cons.mp member with rfl | later
    · exact line
    · exact ih later

theorem pieces_append (closed : Closed s) (t : Text) : pieces (s ++ t) = pieces s ++ pieces t := by
  induction s with
  | nil => exact nomatch closed
  | cons c s ih =>
    cases s with
    | nil =>
      obtain rfl : c = '\n' := by simpa [Closed] using closed
      exact pieces_break t
    | cons d s =>
      have ih := ih (by simpa [Closed] using closed)
      by_cases break_here : c = '\n'
      · subst break_here
        rw [List.cons_append, pieces_break, pieces_break, ih, List.cons_append]
      · cases cut : pieces (d :: s) with
        | nil => exact absurd cut (pieces_ne_nil (List.cons_ne_nil d s))
        | cons piece more =>
          rw [cut] at ih
          rw [pieces_cons break_here cut, List.cons_append, pieces_cons break_here ih]
          rfl

theorem pieces_line (line : IsLine t) : pieces t = [t] := by
  induction t with
  | nil => exact absurd rfl line.not_empty
  | cons c t ih =>
    cases t with
    | nil => by_cases break_here : c = '\n' <;> simp [pieces, break_here]
    | cons d t =>
      obtain ⟨_, free⟩ := line
      simp only [List.dropLast_cons_of_ne_nil (List.cons_ne_nil d t), List.mem_cons, not_or] at free
      exact pieces_cons (Ne.symm free.1) (ih ⟨List.cons_ne_nil d t, free.2⟩)

/-- A text that is put together from changed lines is cut where the lines were, if the change
leaves a line feed at the end of each line that had one. -/
theorem pieces_flatMap {all : List Text} (cut : Cut all) {change : Text → Text}
    (keeps : ∀ line ∈ all, Closed line → Closed (change line)) :
    pieces (all.flatMap change) = all.flatMap fun line => pieces (change line) := by
  induction cut with
  | nil => rfl
  | last _ => simp only [List.flatMap_cons, List.flatMap_nil, List.append_nil]
  | @cons line more _ closed _ ih =>
    rw [List.flatMap_cons, pieces_append (keeps line List.mem_cons_self closed),
      ih fun l h => keeps l (List.mem_cons_of_mem _ h), List.flatMap_cons]

/-- The first line ends at the first line feed. -/
theorem pieces_first (free : '\n' ∉ s) (t : Text) :
    pieces (s ++ '\n' :: t) = (s ++ ['\n']) :: pieces t := by
  have split := pieces_append (closed_append_break s) t
  rwa [pieces_line (isLine_append_break free), List.append_assoc] at split

/-- A piece behind the first character starts with it, or is a piece of what follows it. -/
theorem mem_pieces_cons {c : Char} {piece : Text} (member : piece ∈ pieces (c :: t)) :
    (∃ begun, piece = c :: begun ∧ begun <+: t) ∨ piece ∈ pieces t := by
  by_cases break_here : c = '\n'
  · subst break_here
    rw [pieces_break] at member
    rcases List.mem_cons.mp member with rfl | later
    · exact Or.inl ⟨[], rfl, List.nil_prefix⟩
    · exact Or.inr later
  · cases cut : pieces t with
    | nil =>
      have empty : t = [] := Decidable.byContradiction fun h => pieces_ne_nil h cut
      rw [empty, pieces_single break_here] at member
      exact Or.inl ⟨[], List.mem_singleton.mp member, List.nil_prefix⟩
    | cons first more =>
      rw [pieces_cons break_here cut] at member
      rcases List.mem_cons.mp member with rfl | later
      · refine Or.inl ⟨first, rfl, more.flatten, ?_⟩
        rw [← List.flatten_cons, ← cut, flatten_pieces]
      · exact Or.inr (List.mem_cons_of_mem _ later)

end TripleSlash.Text
