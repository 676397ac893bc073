import TripleSlash.Proofs.Json.Words

/-! Passing over a value of any depth. A row of tokens takes the machine from one turn and
stack to another, and rows are put one behind the other; a value starts at its turn and comes to
the separator with the stack that it found. It never takes more rounds than there are tokens, so
the rounds that a text gets are enough. -/
namespace TripleSlash.Json

variable {s : Scalar} {v : Value} {key text rest : Text} {tokens front more : List Token} {c : Char}
  {turn turn' turn'' : Turn} {stack stack' stack'' : List Bracket} {b : Bracket}

/-- The first characters of a value's writings. -/
def Value.starts : Value → Char → Prop
  | .scalar s, c => s.starts c
  | .list _, c => c = '['
  | .object _, c => c = '\x7b'

theorem Value.starts.ne_listEnd (start : v.starts c) : c ≠ ']' := by
  cases v with
  | scalar s => exact Scalar.starts.plain start |>.2 .listEnd
  | list vs => cases start; decide
  | object ms => cases start; decide

theorem Value.exists_start (spelled : Spells (v.tokens ++ more) text) :
    ∃ c rest, blanks text = c :: rest ∧ v.starts c := by
  cases v with
  | scalar s =>
    obtain ⟨word, rest, behind, written, -⟩ := Spells.exists_word spelled
    obtain ⟨c, tail, rfl, start⟩ := Scalar.Written.starts written
    exact ⟨c, tail ++ rest, behind, start⟩
  | list vs =>
    obtain ⟨rest, behind, -⟩ := spelled.list
    exact ⟨'[', rest, behind, rfl⟩
  | object ms =>
    obtain ⟨rest, behind, -⟩ := spelled.object
    exact ⟨'\x7b', rest, behind, rfl⟩

theorem skipKey_spelled (spelled : Spells (.scalar (.string key) :: .mark .colon :: more) text) :
    ∃ rest, skipKey text = .ok rest ∧ Spells more rest := by
  obtain ⟨body, tail, behind, escaped, later⟩ := spelled.string
  obtain ⟨rest, colon, later⟩ := later.mark
  refine ⟨rest, ?_, later⟩
  simp only [skipKey, behind, skipString_escaped escaped, bind, Except.bind, colon, Mark.char]

def Bracket.start : Bracket → Mark
  | list => .listStart
  | object => .objectStart

def Bracket.stop : Bracket → Mark
  | list => .listEnd
  | object => .objectEnd

/-- The rounds lead from one state to the other. -/
def Skips (rounds : Nat) (turn : Turn) (stack : List Bracket) (text : Text) (turn' : Turn)
    (stack' : List Bracket) (text' : Text) : Prop :=
  ∀ n, skipRounds (n + rounds) turn stack text = skipRounds n turn' stack' text'

/-- The tokens take the machine from one turn and stack to the other. -/
def Passes (tokens : List Token) (turn : Turn) (stack : List Bracket) (turn' : Turn)
    (stack' : List Bracket) : Prop :=
  ∀ more text, Delimits more → Spells (tokens ++ more) text →
    ∃ rounds rest, rounds ≤ tokens.length ∧ Spells more rest ∧
      Skips rounds turn stack text turn' stack' rest

namespace Passes

theorem refl : Passes [] turn stack turn stack :=
  fun _ text _ spelled => ⟨0, text, Nat.le_refl _, spelled, fun _ => rfl⟩

/-- One round in front. What it does may depend on the tokens behind it. -/
theorem step (front : List Token) (going : turn = .value ∨ stack ≠ []) (some : front ≠ [])
    (round : ∀ more text, Delimits more → Spells (front ++ (tokens ++ more)) text →
      ∃ rest, Spells (tokens ++ more) rest ∧ skipRound turn stack text = .ok (turn', stack', rest))
    (passes : Passes tokens turn' stack' turn'' stack'') :
    Passes (front ++ tokens) turn stack turn'' stack'' := by
  intro more text delimited spelled
  rw [List.append_assoc] at spelled
  obtain ⟨mid, spelled, first⟩ := round more text delimited spelled
  obtain ⟨rounds, rest, few, spelled, skips⟩ := passes more mid delimited spelled
  -- one round for all of `front`, which is one token at least
  refine ⟨rounds + 1, rest, ?_, spelled, fun n => ?_⟩
  · have filled := List.length_pos_iff.mpr some
    rw [List.length_append]
    omega
  · have unfinished : ¬(turn = .separator ∧ stack = []) := by
      rintro ⟨rfl, rfl⟩
      simp at going
    rw [← Nat.add_assoc, skipRounds, if_neg unfinished, first]
    exact skips n

theorem single (going : turn = .value ∨ stack ≠ []) (some : tokens ≠ [])
    (round : ∀ more text, Delimits more → Spells (tokens ++ more) text →
      ∃ rest, Spells more rest ∧ skipRound turn stack text = .ok (turn', stack', rest)) :
    Passes tokens turn stack turn' stack' := by
  have steps : Passes (tokens ++ []) turn stack turn' stack' := step tokens going some round refl
  rwa [List.append_nil] at steps

theorem append (passes : Passes front turn stack turn' stack')
    (delimited : ∀ more, Delimits (tokens ++ more))
    (later : Passes tokens turn' stack' turn'' stack'') :
    Passes (front ++ tokens) turn stack turn'' stack'' := by
  intro more text ends spelled
  rw [List.append_assoc] at spelled
  obtain ⟨j, mid, few, spelled, skips⟩ := passes _ text (delimited more) spelled
  obtain ⟨k, rest, few', spelled, skips'⟩ := later more mid ends spelled
  refine ⟨k + j, rest, ?_, spelled, fun n => ?_⟩
  · rw [List.length_append]
    omega
  · rw [← Nat.add_assoc, skips, skips']

theorem scalar : Passes [.scalar s] .value stack .separator stack := by
  refine single (.inl rfl) (by simp) ?_
  intro more text delimited spelled
  obtain ⟨word, rest, behind, written, later⟩ := spelled.exists_word
  refine ⟨rest, later, ?_⟩
  have skipped := skipScalar_written written (later.endsNumber delimited)
  obtain ⟨c, tail, rfl, start⟩ := Scalar.Written.starts written
  have list : c ≠ '[' := start.plain.2 .listStart
  have object : c ≠ '\x7b' := start.plain.2 .objectStart
  rw [List.cons_append] at behind skipped
  simp [skipRound, behind, list, object, skipped, bind, Except.bind]

theorem empty : Passes [.mark b.start, .mark b.stop] .value stack .separator stack := by
  refine single (.inl rfl) (by simp) ?_
  intro more text _ spelled
  obtain ⟨mid, start, spelled⟩ := spelled.mark
  obtain ⟨rest, stop, later⟩ := spelled.mark
  refine ⟨rest, later, ?_⟩
  cases b <;> simp [skipRound, start, stop, Bracket.start, Bracket.stop, Mark.char]

theorem stop : Passes [.mark b.stop] .separator (b :: stack) .separator stack := by
  refine single (.inr (by simp)) (by simp) ?_
  intro more text _ spelled
  obtain ⟨rest, stop, later⟩ := spelled.mark
  refine ⟨rest, later, ?_⟩
  cases b <;> simp [skipRound, stop, Bracket.stop, Mark.char]

theorem listStart (later : Passes (v.tokens ++ tokens) .value (.list :: stack) turn' stack') :
    Passes (.mark .listStart :: (v.tokens ++ tokens)) .value stack turn' stack' := by
  refine step [.mark .listStart] (.inl rfl) (by simp) ?_ later
  intro more text _ spelled
  obtain ⟨rest, start, spelled⟩ := spelled.mark
  refine ⟨blanks rest, spelled.skip_blanks, ?_⟩
  -- a value does not start like the end of a list, so the bracket is pushed
  have value : Spells (v.tokens ++ (tokens ++ more)) rest := by simpa using spelled
  obtain ⟨c, tail, behind, first⟩ := Value.exists_start value
  have filled := first.ne_listEnd
  simp [skipRound, start, behind, filled, Mark.char]

theorem objectStart (key : Text)
    (later : Passes tokens .value (.object :: stack) turn' stack') :
    Passes (.mark .objectStart :: .scalar (.string key) :: .mark .colon :: tokens) .value stack
      turn' stack' := by
  refine step [.mark .objectStart, .scalar (.string key), .mark .colon] (.inl rfl)
    (by simp) ?_ later
  intro more text _ spelled
  obtain ⟨mid, start, spelled⟩ := spelled.mark
  obtain ⟨body, _, behind, -, -⟩ := spelled.string
  obtain ⟨rest, skipped, later⟩ := skipKey_spelled spelled.skip_blanks
  refine ⟨rest, later, ?_⟩
  rw [behind] at skipped
  simp [skipRound, start, behind, skipped, Mark.char, bind, Except.bind]

theorem listComma (later : Passes tokens .value (.list :: stack) turn' stack') :
    Passes (.mark .comma :: tokens) .separator (.list :: stack) turn' stack' := by
  refine step [.mark .comma] (.inr (by simp)) (by simp) ?_ later
  intro more text _ spelled
  obtain ⟨rest, comma, later⟩ := spelled.mark
  exact ⟨rest, later, by simp [skipRound, comma, Mark.char]⟩

theorem objectComma (key : Text)
    (later : Passes tokens .value (.object :: stack) turn' stack') :
    Passes (.mark .comma :: .scalar (.string key) :: .mark .colon :: tokens) .separator
      (.object :: stack) turn' stack' := by
  refine step [.mark .comma, .scalar (.string key), .mark .colon] (.inr (by simp))
    (by simp) ?_ later
  intro more text _ spelled
  obtain ⟨mid, comma, spelled⟩ := spelled.mark
  obtain ⟨rest, skipped, later⟩ := skipKey_spelled spelled
  exact ⟨rest, later, by simp [skipRound, comma, skipped, Mark.char, bind, Except.bind]⟩

/-- The elements behind the first one, up to the end of their list. -/
theorem elements {vs : List Value} (stack : List Bracket)
    (each : ∀ v ∈ vs, ∀ stack, Passes v.tokens .value stack .separator stack) :
    Passes (elementTokens false vs ++ [.mark .listEnd]) .separator (.list :: stack) .separator
      stack := by
  induction vs with
  | nil => exact stop (b := .list)
  | cons v vs ih =>
    have first := each v List.mem_cons_self (.list :: stack)
    have others := ih fun w h => each w (List.mem_cons_of_mem _ h)
    have delimited : ∀ more, Delimits (elementTokens false vs ++ [.mark .listEnd] ++ more) := by
      intro more
      simpa using delimits_elements vs .listEnd more
    have both := listComma (first.append delimited others)
    simpa only [elementTokens, separator, List.append_assoc, List.cons_append, List.nil_append]
      using both

theorem members {ms : List (Text × Value)} (stack : List Bracket)
    (each : ∀ m ∈ ms, ∀ stack, Passes m.2.tokens .value stack .separator stack) :
    Passes (memberTokens false ms ++ [.mark .objectEnd]) .separator (.object :: stack) .separator
      stack := by
  induction ms with
  | nil => exact stop (b := .object)
  | cons m ms ih =>
    have first := each m List.mem_cons_self (.object :: stack)
    have others := ih fun n h => each n (List.mem_cons_of_mem _ h)
    have delimited : ∀ more, Delimits (memberTokens false ms ++ [.mark .objectEnd] ++ more) := by
      intro more
      simpa using delimits_members ms .objectEnd more
    have both := objectComma m.1 (first.append delimited others)
    simpa only [memberTokens, separator, List.append_assoc, List.cons_append, List.nil_append]
      using both

end Passes

/-- A value takes the machine from its turn to the separator, the stack as it was. -/
theorem Value.passes (v : Value) : ∀ stack, Passes v.tokens .value stack .separator stack := by
  induction v using Value.induct with
  | scalar s => exact fun stack => Passes.scalar
  | list vs each =>
    intro stack
    cases vs with
    | nil => exact Passes.empty (b := .list)
    | cons v vs =>
      have first := each v List.mem_cons_self (.list :: stack)
      have others := Passes.elements stack fun w h => each w (List.mem_cons_of_mem _ h)
      have delimited : ∀ more, Delimits (elementTokens false vs ++ [.mark .listEnd] ++ more) := by
        intro more
        simpa using delimits_elements vs .listEnd more
      have both := Passes.listStart (first.append delimited others)
      simpa only [tokens, elementTokens, separator, List.append_assoc, List.cons_append,
        List.nil_append] using both
  | object ms each =>
    intro stack
    cases ms with
    | nil => exact Passes.empty (b := .object)
    | cons m ms =>
      have first := each m List.mem_cons_self (.object :: stack)
      have others := Passes.members stack fun n h => each n (List.mem_cons_of_mem _ h)
      have delimited : ∀ more, Delimits (memberTokens false ms ++ [.mark .objectEnd] ++ more) := by
        intro more
        simpa using delimits_members ms .objectEnd more
      have both := Passes.objectStart m.1 (first.append delimited others)
      simpa only [tokens, memberTokens, separator, List.append_assoc, List.cons_append,
        List.nil_append] using both

/-- Every value is passed over, whatever is in it. -/
theorem skipValue_spelled (delimited : Delimits more) (spelled : Spells (v.tokens ++ more) text) :
    ∃ rest, skipValue text = .ok rest ∧ Spells more rest := by
  obtain ⟨rounds, rest, few, later, skips⟩ := v.passes [] more text delimited spelled
  refine ⟨rest, ?_, later⟩
  have bound := spelled.length_le
  rw [List.length_append] at bound
  -- the rounds that are left over meet an empty stack and change nothing
  obtain ⟨spare, enough⟩ := Nat.exists_eq_add_of_le (show rounds ≤ text.length by omega)
  have all : text.length + 1 = spare + 1 + rounds := by omega
  rw [skipValue, all, skips (spare + 1), skipRounds, if_pos ⟨rfl, rfl⟩]

end TripleSlash.Json
