import Mathlib.Algebra.Ring.Parity
import TripleSlash.Proofs.Recognition

/-! Which quotes and backslashes are guarded. Decoding looks one character ahead, and the end of a
body is found by taking backslashes together with what is behind them; both cut a run of units at
the same seams. Seen from a quote, the backslashes in front of it are odd in number, and they are
even in number at the end of the run, so an escaped text guards each of its quotes and leaves
nothing to guard in what follows it. -/
namespace TripleSlash.Quote

variable {q : Quote} {c : Char} {text front back body rest : Text}

/-- The number of backslashes at the end of a text. -/
def guards (text : Text) : Nat := (text.reverse.takeWhile (· = '\\')).length

/-- Backslashes do not count across another character. -/
theorem guards_behind (plain : c ≠ '\\') (front back : Text) :
    guards (front ++ c :: back) = guards back := by
  have cut : (front ++ c :: back).reverse = back.reverse ++ (c :: front.reverse) := by simp
  have stop : (c :: front.reverse).takeWhile (· = '\\') = [] := by simp [plain]
  rw [guards, guards, cut, List.takeWhile_append, stop]
  split
  · rename_i all
    rw [List.append_nil, all]
  · rfl

theorem guards_cons_cons (text : Text) :
    guards ('\\' :: '\\' :: text) = guards text ∨
      guards ('\\' :: '\\' :: text) = guards text + 2 := by
  have cut : ('\\' :: '\\' :: text).reverse = text.reverse ++ ['\\', '\\'] := by simp
  rw [guards, guards, cut, List.takeWhile_append]
  split
  · rename_i all
    right
    simp [all]
  · exact .inl rfl

/-- A guarded character in front makes no difference to what is guarded behind it. -/
theorem even_guards_guarded (c : Char) (text : Text) :
    Even (guards ('\\' :: c :: text)) ↔ Even (guards text) := by
  by_cases backslash : c = '\\'
  · subst backslash
    rcases guards_cons_cons text with same | more
    · rw [same]
    · rw [more, Nat.even_add]
      simp
  · rw [show '\\' :: c :: text = ['\\'] ++ c :: text from rfl, guards_behind backslash]

/-- In a run of units each quote is guarded. -/
theorem Units.odd_guards (run : q.Units text) (split : text = front ++ q.char :: back) :
    Odd (guards front) := by
  induction run generalizing front with
  | nil => simp at split
  | plain hq hb _ ih =>
    rcases List.cons_eq_append_iff.mp split with ⟨rfl, whole⟩ | ⟨front, rfl, later⟩
    · exact absurd (List.cons.inj whole).1.symm hq
    · rw [← List.nil_append (_ :: front), guards_behind hb]
      exact ih later
  | @guarded c _ _ _ ih =>
    rcases List.cons_eq_append_iff.mp split with ⟨rfl, whole⟩ | ⟨front, rfl, later⟩
    · exact absurd (List.cons.inj whole).1 q.char_ne_backslash
    · rcases List.cons_eq_append_iff.mp later with ⟨rfl, -⟩ | ⟨front, rfl, behind⟩
      · decide
      · rw [← Nat.not_even_iff_odd, even_guards_guarded, Nat.not_even_iff_odd]
        exact ih behind

/-- A run of units does not guard what follows it. -/
theorem Units.even_guards (run : q.Units text) : Even (guards text) := by
  induction run with
  | nil => decide
  | @plain c rest _ hb _ ih =>
    rw [← List.nil_append (c :: rest), guards_behind hb]
    exact ih
  | guarded _ _ ih => exact (even_guards_guarded _ _).mpr ih

/-- What is taken for a body is a run of units, and decoding takes the same units. -/
theorem decode_of_takeBody (taken : q.takeBody text = some (body, rest)) :
    ∃ units : List Text, (∀ u ∈ units, q.IsUnit u) ∧ body = units.flatten ∧
      q.decode body = units.flatMap q.meaning := by
  obtain ⟨units, all, rfl⟩ := (takeBody_sound taken).2.exists_flatten
  exact ⟨units, all, rfl, decode_flatten all⟩

/-- Decoding takes the units of a body as they are taken when its end is found. An escaped text is
such a body, in which no quote is left unguarded and no backslash is left to guard what follows, and
in front of anything it is decoded for itself. -/
theorem decode_keeps_pairing (q : Quote) :
    (∀ text body rest, q.takeBody text = some (body, rest) →
      ∃ units : List Text, (∀ u ∈ units, q.IsUnit u) ∧ body = units.flatten ∧
        q.decode body = units.flatMap q.meaning) ∧
    (∀ units : List Text, (∀ u ∈ units, q.IsUnit u) →
      q.decode units.flatten = units.flatMap q.meaning) ∧
    (∀ text, (∃ units : List Text, (∀ u ∈ units, q.IsUnit u) ∧ q.escape text = units.flatten) ∧
      (∀ front back, q.escape text = front ++ q.char :: back → Odd (guards front)) ∧
      Even (guards (q.escape text))) ∧
    ∀ text rest, q.decode (q.escape text ++ rest) = text ++ q.decode rest := by
  refine ⟨fun text body rest => decode_of_takeBody, fun units => decode_flatten, ?_,
    q.decode_escape_append⟩
  intro text
  have run := q.units_escape text
  exact ⟨run.exists_flatten, fun front back => run.odd_guards, run.even_guards⟩

/-- A guarded quote, the other quote, a guarded backslash, a guarded letter and a bare letter. -/
def mixedUnits : List Text := ["\\\"".toList, "'".toList, "\\\\".toList, "\\n".toList, "n".toList]

/-- Two backslashes behind each other may be one unit, or belong to two. -/
theorem mixedUnits_paired :
    (∀ u ∈ mixedUnits, Quote.double.IsUnit u) ∧
      Quote.double.decode mixedUnits.flatten = mixedUnits.flatMap Quote.double.meaning ∧
      mixedUnits.flatMap Quote.double.meaning = "\"'\\\\nn".toList := by
  have all : ∀ u ∈ mixedUnits, Quote.double.IsUnit u := by
    simp only [mixedUnits, List.forall_mem_cons]
    exact ⟨.guarded (by decide), .plain (by decide) (by decide), .guarded (by decide),
      .guarded (by decide), .plain (by decide) (by decide), by simp⟩
  exact ⟨all, (decode_keeps_pairing .double).2.1 mixedUnits all, by decide⟩

end TripleSlash.Quote
