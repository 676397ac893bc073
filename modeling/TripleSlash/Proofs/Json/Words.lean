import TripleSlash.Json.Skip
import TripleSlash.Proofs.Json.Tokens

/-! Reading and passing over a single word. Every writing of a text is read back as that text,
and any scalar is passed over up to its last character; a number needs a delimiter behind it. -/
namespace TripleSlash.Json

variable {t body rest word : Text} {n : Nat} {a b c d e : Char}

theorem IsHex.read (digit : IsHex c n) : hex? c = some n := by
  have all : ∀ n < 16, hex? n.digitChar = some n ∧ hex? n.digitChar.toUpper = some n := by decide
  obtain ⟨bound, rfl | rfl⟩ := digit
  · exact (all n bound).1
  · exact (all n bound).2

theorem IsHex4.read (unit : IsHex4 a b c d n) : hex4? a b c d = some n := by
  have value : ((n / 0x1000 * 16 + n / 0x100 % 0x10) * 16 + n / 0x10 % 0x10) * 16 + n % 0x10 = n := by
    omega
  simp only [hex4?, unit.first.read, unit.second.read, unit.third.read, unit.fourth.read,
    Option.bind_eq_bind, Option.bind_some, value]

theorem escaped?_of_short {letter : Char} (short : (letter, c) ∈ shortEscapes) :
    escaped? letter = some c ∧ letter ≠ 'u' := by
  simp only [shortEscapes, List.mem_cons, Prod.mk.injEq, List.not_mem_nil, or_false] at short
  rcases short with ⟨rfl, rfl⟩ | ⟨rfl, rfl⟩ | ⟨rfl, rfl⟩ | ⟨rfl, rfl⟩ | ⟨rfl, rfl⟩ | ⟨rfl, rfl⟩ |
    ⟨rfl, rfl⟩ | ⟨rfl, rfl⟩ <;> decide

/-- No character is half of a pair. -/
theorem not_surrogate (c : Char) :
    isHighSurrogate c.toNat = false ∧ isLowSurrogate c.toNat = false := by
  have valid : c.toNat < 0xD800 ∨ 0xDFFF < c.toNat ∧ c.toNat < 0x110000 := c.valid
  simp only [isHighSurrogate, isLowSurrogate, Bool.and_eq_false_iff, decide_eq_false_iff_not]
  omega

theorem surrogates (far : 0x10000 ≤ c.toNat) :
    isHighSurrogate (highUnit c) = true ∧ isLowSurrogate (highUnit c) = false ∧
      isLowSurrogate (lowUnit c) = true ∧
      0x10000 + (highUnit c - 0xD800) * 0x400 + (lowUnit c - 0xDC00) = c.toNat := by
  have valid : c.toNat < 0xD800 ∨ 0xDFFF < c.toNat ∧ c.toNat < 0x110000 := c.valid
  have quotient : (c.toNat - 0x10000) / 0x400 < 0x400 := by omega
  have remainder : (c.toNat - 0x10000) % 0x400 < 0x400 := by omega
  unfold highUnit lowUnit
  simp only [isHighSurrogate, isLowSurrogate, Bool.and_eq_true, Bool.and_eq_false_iff,
    decide_eq_true_eq, decide_eq_false_iff_not]
  omega

/-- Every writing of a text is read as the text. -/
theorem readString_escaped (escaped : Escaped t body) :
    readString (body ++ '"' :: rest) = .ok (t, rest) := by
  induction escaped with
  | nil => rw [List.nil_append, readString]
  | plain control quote backslash _ ih =>
    rw [List.cons_append, readString]
    · rw [if_neg (by omega), ih]
      rfl
    all_goals simp_all
  | short short _ ih =>
    obtain ⟨letter, notUnit⟩ := escaped?_of_short short
    rw [List.cons_append, List.cons_append, readString]
    · simp only [letter, ih]
      rfl
    all_goals simp_all
  | unit unit _ ih =>
    simp only [List.cons_append, readString, unit.read, not_surrogate, ih]
    simp [Except.map]
  | @pair c _ _ _ _ _ _ _ _ _ _ far high low _ ih =>
    obtain ⟨isHigh, notLow, isLow, value⟩ := surrogates far
    simp only [List.cons_append, readString, high.read, low.read, isHigh, notLow, isLow, value, ih]
    simp [Except.map]

theorem skipString_escaped (escaped : Escaped t body) :
    skipString (body ++ '"' :: rest) = .ok rest := by
  induction escaped with
  | nil => rw [List.nil_append, skipString]
  | plain control quote backslash _ ih =>
    rw [List.cons_append, skipString]
    · rw [if_neg (by omega), ih]
    all_goals simp_all
  | short short _ ih =>
    obtain ⟨letter, notUnit⟩ := escaped?_of_short short
    rw [List.cons_append, List.cons_append, skipString]
    · simp only [letter, ih, Option.isSome_some, if_true]
    all_goals simp_all
  | unit unit _ ih =>
    simp only [List.cons_append, skipString, unit.read, ih, Option.isSome_some, if_true]
  | pair _ high low _ ih =>
    simp only [List.cons_append, skipString, high.read, low.read, ih, Option.isSome_some, if_true]

/-- No digit stands here. -/
def NoDigit (t : Text) : Prop := ∀ c, t.head? = some c → c.isDigit = false

/-- A number that ends here does not go on. -/
def EndsNumber (t : Text) : Prop :=
  ∀ c, t.head? = some c → c.isDigit = false ∧ c ≠ '.' ∧ c ≠ 'e' ∧ c ≠ 'E'

theorem EndsNumber.noDigit (ends : EndsNumber t) : NoDigit t := fun c head => (ends c head).1

theorem digits_of_noDigit (stop : NoDigit t) : digits t = t := by
  cases t with
  | nil => rfl
  | cons c t => simp [digits, stop c rfl]

theorem digits_append {ds : Text} (inside : ∀ c ∈ ds, c.isDigit = true) (stop : NoDigit rest) :
    digits (ds ++ rest) = rest := by
  rw [digits, List.dropWhile_append_of_pos inside]
  exact digits_of_noDigit stop

theorem skipExponent_append {sign ds : Text} (signed : sign = [] ∨ sign = ['+'] ∨ sign = ['-'])
    (found : IsDigits ds) (ends : EndsNumber rest) :
    skipExponent (sign ++ ds ++ rest) = .ok rest := by
  obtain ⟨c, ds, rfl⟩ := List.exists_cons_of_ne_nil found.1
  have first : c.isDigit = true := found.2 c List.mem_cons_self
  have others := digits_append (fun d h => found.2 d (List.mem_cons_of_mem _ h)) ends.noDigit
  rcases signed with rfl | rfl | rfl
  · have plus : c ≠ '+' := by rintro rfl; simp at first
    have minus : c ≠ '-' := by rintro rfl; simp at first
    simp [skipExponent, plus, minus, first, others]
  · simp [skipExponent, first, others]
  · simp [skipExponent, first, others]

/-- Digits behind a point change nothing. -/
theorem skipFraction_point {ds : Text} (found : IsDigits ds) (stop : NoDigit t)
    (point : t.head? ≠ some '.') : skipFraction ('.' :: (ds ++ t)) = skipFraction t := by
  have behind := digits_append found.2 stop
  -- the reader asks for a digit by comparing the text before and after them
  have some : digits (ds ++ t) ≠ ds ++ t := by
    rw [behind]
    intro same
    have lengths := congrArg List.length same
    have filled := List.length_pos_iff.mpr found.1
    simp only [List.length_append] at lengths
    omega
  rw [skipFraction, if_neg some, behind]
  cases t with
  | nil => rfl
  | cons c t =>
    have noPoint : c ≠ '.' := fun same => point (same ▸ rfl)
    unfold skipFraction
    split <;> simp_all

namespace Numeral

variable (n : Numeral)

theorem exponent_cases (ends : EndsNumber rest) :
    n.exponent = [] ∨ ∃ e t, n.exponent = e :: t ∧ (e = 'e' ∨ e = 'E') ∧
      skipExponent (t ++ rest) = .ok rest := by
  rcases n.exponent_ok with none | ⟨e, sign, ds, written, letter, signed, found⟩
  · exact Or.inl none
  · exact Or.inr ⟨e, sign ++ ds, written, letter, skipExponent_append signed found ends⟩

theorem exponent_noDigit (ends : EndsNumber rest) : NoDigit (n.exponent ++ rest) := by
  intro c head
  rcases n.exponent_cases ends with none | ⟨e, t, written, letter, -⟩
  · rw [none] at head
    exact ends.noDigit c head
  · rw [written] at head
    obtain rfl : e = c := Option.some.inj head
    rcases letter with rfl | rfl <;> rfl

theorem exponent_noPoint (ends : EndsNumber rest) : (n.exponent ++ rest).head? ≠ some '.' := by
  intro head
  rcases n.exponent_cases ends with none | ⟨e, t, written, letter, -⟩
  · rw [none] at head
    exact (ends '.' head).2.1 rfl
  · rw [written] at head
    obtain rfl : e = '.' := Option.some.inj head
    rcases letter with letter | letter <;> cases letter

/-- Neither part behind the whole part starts with a digit. -/
theorem fraction_noDigit (ends : EndsNumber rest) :
    NoDigit (n.fraction ++ (n.exponent ++ rest)) := by
  intro c head
  rcases n.fraction_ok with none | ⟨ds, written, -⟩
  · rw [none] at head
    exact n.exponent_noDigit ends c head
  · rw [written] at head
    obtain rfl : '.' = c := Option.some.inj head
    rfl

theorem skipFraction_exponent (ends : EndsNumber rest) :
    skipFraction (n.exponent ++ rest) = .ok rest := by
  rcases n.exponent_cases ends with none | ⟨e, t, written, letter, skipped⟩
  · rw [none, List.nil_append]
    cases rest with
    | nil => rfl
    | cons c rest =>
      obtain ⟨-, point, small, capital⟩ := ends c rfl
      simp [skipFraction, point, small, capital]
  · rcases letter with rfl | rfl <;> simpa [written, skipFraction] using skipped

theorem skipFraction_written (ends : EndsNumber rest) :
    skipFraction (n.fraction ++ (n.exponent ++ rest)) = .ok rest := by
  have skipped := n.skipFraction_exponent ends
  rcases n.fraction_ok with none | ⟨ds, written, found⟩
  · rw [none, List.nil_append, skipped]
  · rw [written, List.cons_append,
      skipFraction_point found (n.exponent_noDigit ends) (n.exponent_noPoint ends), skipped]

theorem skipNumber_written (ends : EndsNumber rest) :
    skipNumber (n.whole ++ (n.fraction ++ (n.exponent ++ rest))) = .ok rest := by
  have stop := n.fraction_noDigit ends
  have skipped := n.skipFraction_written ends
  rcases n.whole_ok with zero | ⟨found, notZero⟩
  · rw [zero]
    generalize n.fraction ++ (n.exponent ++ rest) = tail at stop skipped
    cases tail with
    | nil => simpa [skipNumber, skipFraction] using skipped
    | cons c tail => simpa [skipNumber, stop c rfl] using skipped
  · obtain ⟨c, ds, whole⟩ := List.exists_cons_of_ne_nil found.1
    have first : c.isDigit = true := found.2 c (whole ▸ List.mem_cons_self)
    have behind := digits_append
      (fun d h => found.2 d (whole ▸ List.mem_cons_of_mem _ h)) stop
    have start : c ≠ '0' := by
      rintro rfl
      exact notZero (by rw [whole, List.head?_cons])
    rw [whole, List.cons_append, skipNumber]
    · rw [if_pos first, behind, skipped]
    all_goals simp_all

end Numeral

theorem literal_append (letters rest : Text) : literal letters (letters ++ rest) = .ok rest := by
  induction letters with
  | nil => rfl
  | cons c letters ih => rw [List.cons_append, literal, if_pos rfl, ih]

theorem skipScalar_of_digit (digit : c.isDigit = true) :
    skipScalar (c :: rest) = skipNumber (c :: rest) := by
  rw [skipScalar, if_pos digit]
  all_goals rintro rfl; simp at digit

/-- A scalar is passed over whatever follows, a number if it ends. -/
theorem skipScalar_written {s : Scalar} (written : s.Written word) (ends : EndsNumber rest) :
    skipScalar (word ++ rest) = .ok rest := by
  cases s with
  | null =>
    obtain rfl := written
    exact literal_append "ull".toList rest
  | boolean value =>
    cases value with
    | true =>
      obtain rfl := written
      exact literal_append "rue".toList rest
    | false =>
      obtain rfl := written
      exact literal_append "alse".toList rest
  | string t =>
    obtain ⟨body, escaped, rfl⟩ := written
    simpa [skipScalar] using skipString_escaped escaped
  | number n =>
    obtain rfl : word = n.text := written
    have skipped := n.skipNumber_written ends
    rw [Numeral.text]
    simp only [List.append_assoc]
    rcases n.sign_ok with none | minus
    -- without a sign the first digit decides that a number is read
    · rw [none, List.nil_append]
      obtain ⟨c, ds, whole, digit⟩ := n.whole_starts
      rw [whole] at skipped ⊢
      exact (skipScalar_of_digit digit).trans skipped
    · rw [minus]
      exact skipped

theorem Spells.endsNumber {more : List Token} (delimited : Delimits more)
    (spelled : Spells more rest) : EndsNumber rest := by
  have blank : ∀ c, isSpace c = true → c.isDigit = false ∧ c ≠ '.' ∧ c ≠ 'e' ∧ c ≠ 'E' := by
    intro c space
    simp only [isSpace, Bool.or_eq_true, beq_iff_eq] at space
    rcases space with ((rfl | rfl) | rfl) | rfl <;> decide
  have behind : ∀ {gap tail : Text}, (∀ c ∈ gap, isSpace c = true) → EndsNumber tail →
      EndsNumber (gap ++ tail) := by
    intro gap tail blanks ends c head
    cases gap with
    | nil => exact ends c head
    | cons d gap =>
      obtain rfl : d = c := Option.some.inj head
      exact blank d (blanks d List.mem_cons_self)
  cases spelled with
  | done blanks =>
    rw [← List.append_nil rest]
    exact behind blanks (by simp [EndsNumber])
  | @next gap word rest token more blanks written later =>
    cases token with
    | scalar => exact absurd delimited id
    | mark m =>
      obtain rfl : word = [m.char] := written
      rw [List.append_assoc]
      refine behind blanks fun c head => ?_
      obtain rfl : m.char = c := Option.some.inj head
      cases m <;> decide

end TripleSlash.Json
