import Mathlib.Data.List.TakeWhile
import TripleSlash.Json.Scalar

/-! JSON values and the texts that write them. A value is a tree and gives a row of tokens; a
text writes a row if it has a writing of each token in turn, with blanks in front of them and at
the end. Strings have many writings, numbers are kept as they are written. -/
namespace TripleSlash.Json

/-- One digit at least, and nothing else. -/
def IsDigits (t : Text) : Prop := t ≠ [] ∧ ∀ c ∈ t, c.isDigit = true

/-- A number as it is written. -/
structure Numeral where
  sign : Text
  whole : Text
  fraction : Text
  exponent : Text
  sign_ok : sign = [] ∨ sign = ['-']
  whole_ok : whole = ['0'] ∨ IsDigits whole ∧ whole.head? ≠ some '0'
  fraction_ok : fraction = [] ∨ ∃ ds, fraction = '.' :: ds ∧ IsDigits ds
  exponent_ok : exponent = [] ∨ ∃ e sign ds, exponent = e :: (sign ++ ds) ∧
    (e = 'e' ∨ e = 'E') ∧ (sign = [] ∨ sign = ['+'] ∨ sign = ['-']) ∧ IsDigits ds

def Numeral.text (n : Numeral) : Text := n.sign ++ n.whole ++ n.fraction ++ n.exponent

inductive Scalar where
  | null
  | boolean (value : Bool)
  | number (numeral : Numeral)
  | string (text : Text)

/-- Members keep their order, and a key may come more than once. -/
inductive Value where
  | scalar (s : Scalar)
  | list (elements : List Value)
  | object (members : List (Text × Value))

inductive Mark where
  | listStart
  | listEnd
  | objectStart
  | objectEnd
  | comma
  | colon
deriving DecidableEq, Repr

def Mark.char : Mark → Char
  | listStart => '['
  | listEnd => ']'
  | objectStart => '\x7b'
  | objectEnd => '\x7d'
  | comma => ','
  | colon => ':'

inductive Token where
  | mark (m : Mark)
  | scalar (s : Scalar)

/-- What stands in front of an entry of a list or an object. -/
def separator : Bool → List Token
  | true => []
  | false => [.mark .comma]

mutual

/-- The tokens of a value in the order of its text. -/
def Value.tokens : Value → List Token
  | .scalar s => [.scalar s]
  | .list vs => .mark .listStart :: elementTokens true vs ++ [.mark .listEnd]
  | .object ms => .mark .objectStart :: memberTokens true ms ++ [.mark .objectEnd]

def elementTokens (first : Bool) : List Value → List Token
  | [] => []
  | v :: vs => separator first ++ v.tokens ++ elementTokens false vs

def memberTokens (first : Bool) : List (Text × Value) → List Token
  | [] => []
  | (key, v) :: ms =>
    separator first ++ .scalar (.string key) :: .mark .colon :: v.tokens ++ memberTokens false ms

end

/-- Letters that stand for one character behind a backslash. -/
def shortEscapes : List (Char × Char) :=
  [('"', '"'), ('\\', '\\'), ('/', '/'), ('b', '\x08'), ('f', '\x0c'), ('n', '\n'), ('r', '\r'),
    ('t', '\t')]

/-- A hexadecimal digit, small or capital. -/
def IsHex (c : Char) (n : Nat) : Prop :=
  n < 16 ∧ (c = n.digitChar ∨ c = n.digitChar.toUpper)

instance (c : Char) (n : Nat) : Decidable (IsHex c n) := inferInstanceAs (Decidable (_ ∧ _))

/-- The four digits of a code unit. -/
structure IsHex4 (a b c d : Char) (n : Nat) : Prop where
  first : IsHex a (n / 0x1000)
  second : IsHex b (n / 0x100 % 0x10)
  third : IsHex c (n / 0x10 % 0x10)
  fourth : IsHex d (n % 0x10)

/-- The first of the two code units of a character beyond the first 65536. -/
def highUnit (c : Char) : Nat := 0xD800 + (c.toNat - 0x10000) / 0x400

def lowUnit (c : Char) : Nat := 0xDC00 + (c.toNat - 0x10000) % 0x400

/-- The writings of a text between double quotes. -/
inductive Escaped : Text → Text → Prop where
  | nil : Escaped [] []
  | plain {c t body} : 0x20 ≤ c.toNat → c ≠ '"' → c ≠ '\\' → Escaped t body →
      Escaped (c :: t) (c :: body)
  | short {letter c t body} : (letter, c) ∈ shortEscapes → Escaped t body →
      Escaped (c :: t) ('\\' :: letter :: body)
  | unit {c a b d e t body} : IsHex4 a b d e c.toNat → Escaped t body →
      Escaped (c :: t) ('\\' :: 'u' :: a :: b :: d :: e :: body)
  | pair {c a b d e a' b' d' e' t body} : 0x10000 ≤ c.toNat → IsHex4 a b d e (highUnit c) →
      IsHex4 a' b' d' e' (lowUnit c) → Escaped t body →
      Escaped (c :: t)
        ('\\' :: 'u' :: a :: b :: d :: e :: '\\' :: 'u' :: a' :: b' :: d' :: e' :: body)

def Scalar.Written : Scalar → Text → Prop
  | null, word => word = "null".toList
  | boolean true, word => word = "true".toList
  | boolean false, word => word = "false".toList
  | number n, word => word = n.text
  | string t, word => ∃ body, Escaped t body ∧ word = '"' :: (body ++ ['"'])

def Token.Written : Token → Text → Prop
  | mark m, word => word = [m.char]
  | scalar s, word => s.Written word

/-- The texts that write a row of tokens. -/
inductive Spells : List Token → Text → Prop where
  | done {gap} : (∀ c ∈ gap, isSpace c = true) → Spells [] gap
  | next {gap word rest token more} : (∀ c ∈ gap, isSpace c = true) → token.Written word →
      Spells more rest → Spells (token :: more) (gap ++ word ++ rest)

/-- The texts that write a value. -/
def Value.Writes (v : Value) (text : Text) : Prop := Spells v.tokens text

/-- Rows in front of which a number ends. -/
def Delimits : List Token → Prop
  | .scalar _ :: _ => False
  | _ => True

/-- Something holds of every value if it passes from the parts to the whole. -/
theorem Value.induct {motive : Value → Prop} (scalar : ∀ s, motive (.scalar s))
    (list : ∀ vs, (∀ v ∈ vs, motive v) → motive (.list vs))
    (object : ∀ ms : List (Text × Value), (∀ m ∈ ms, motive m.2) → motive (.object ms))
    (v : Value) : motive v := by
  refine Value.rec (motive_1 := motive) (motive_2 := fun vs => ∀ v ∈ vs, motive v)
    (motive_3 := fun ms => ∀ m ∈ ms, motive m.2) (motive_4 := fun m => motive m.2)
    scalar list object ?_ ?_ ?_ ?_ ?_ v
  · simp
  · intro v vs first rest
    exact List.forall_mem_cons.mpr ⟨first, rest⟩
  · simp
  · intro m ms first rest
    exact List.forall_mem_cons.mpr ⟨first, rest⟩
  · intro key v holds
    exact holds

/-- A text without quotes, backslashes and control characters may be written as it is. -/
theorem escaped_plain {t : Text}
    (plain : (t.all fun c => 0x20 ≤ c.toNat && c != '"' && c != '\\') = true) : Escaped t t := by
  induction t with
  | nil => exact .nil
  | cons c t ih =>
    simp only [List.all_cons, Bool.and_eq_true, decide_eq_true_eq, bne_iff_ne] at plain
    obtain ⟨⟨⟨control, quote⟩, backslash⟩, others⟩ := plain
    exact .plain control quote backslash (ih others)

theorem Value.tokens_pos (v : Value) : 0 < v.tokens.length := by
  cases v <;> simp [Value.tokens]

theorem length_le_elementTokens (first : Bool) (vs : List Value) :
    vs.length ≤ (elementTokens first vs).length := by
  induction vs generalizing first with
  | nil => exact Nat.zero_le _
  | cons v vs ih =>
    have rest := ih false
    have filled := v.tokens_pos
    simp only [elementTokens, List.length_cons, List.length_append]
    omega

theorem length_le_memberTokens (first : Bool) (ms : List (Text × Value)) :
    ms.length ≤ (memberTokens first ms).length := by
  induction ms generalizing first with
  | nil => exact Nat.zero_le _
  | cons m ms ih =>
    have rest := ih false
    simp only [memberTokens, List.length_cons, List.length_append]
    omega

theorem delimits_elements (vs : List Value) (m : Mark) (more : List Token) :
    Delimits (elementTokens false vs ++ .mark m :: more) := by
  cases vs <;> trivial

theorem delimits_members (ms : List (Text × Value)) (m : Mark) (more : List Token) :
    Delimits (memberTokens false ms ++ .mark m :: more) := by
  cases ms <;> trivial

/-- The first characters of a scalar's writings. -/
def Scalar.starts : Scalar → Char → Prop
  | null, c => c = 'n'
  | boolean true, c => c = 't'
  | boolean false, c => c = 'f'
  | number _, c => c = '-' ∨ c.isDigit = true
  | string _, c => c = '"'

variable {s : Scalar} {token : Token} {tokens more : List Token} {word text rest t body : Text}
  {c : Char}

theorem Numeral.whole_starts (n : Numeral) : ∃ c ds, n.whole = c :: ds ∧ c.isDigit = true := by
  rcases n.whole_ok with zero | ⟨⟨some, digits⟩, -⟩
  · exact ⟨'0', [], zero, rfl⟩
  · obtain ⟨c, ds, whole⟩ := List.exists_cons_of_ne_nil some
    exact ⟨c, ds, whole, digits c (whole ▸ List.mem_cons_self)⟩

theorem Numeral.text_starts (n : Numeral) :
    ∃ c rest, n.text = c :: rest ∧ (c = '-' ∨ c.isDigit = true) := by
  rcases n.sign_ok with none | minus
  · obtain ⟨c, ds, whole, digit⟩ := n.whole_starts
    exact ⟨c, ds ++ n.fraction ++ n.exponent, by simp [text, none, whole], Or.inr digit⟩
  · exact ⟨'-', n.whole ++ n.fraction ++ n.exponent, by simp [text, minus], Or.inl rfl⟩

theorem Scalar.Written.starts (written : s.Written word) :
    ∃ c rest, word = c :: rest ∧ s.starts c := by
  cases s with
  | null => exact ⟨'n', _, written, rfl⟩
  | boolean value =>
    cases value with
    | true => exact ⟨'t', _, written, rfl⟩
    | false => exact ⟨'f', _, written, rfl⟩
  | number n =>
    obtain ⟨c, rest, text, start⟩ := n.text_starts
    exact ⟨c, rest, Eq.trans written text, start⟩
  | string t =>
    obtain ⟨body, -, word⟩ := written
    exact ⟨'"', _, word, rfl⟩

/-- No scalar starts like a blank or a mark. -/
theorem Scalar.starts.plain (start : s.starts c) : isSpace c = false ∧ ∀ m : Mark, c ≠ m.char := by
  have digit : ∀ c : Char, c.isDigit = true → isSpace c = false ∧ ∀ m : Mark, c ≠ m.char := by
    intro c digit
    constructor
    · rw [Bool.eq_false_iff]
      intro space
      simp only [isSpace, Bool.or_eq_true, beq_iff_eq] at space
      rcases space with ((rfl | rfl) | rfl) | rfl <;> simp at digit
    · rintro m rfl
      cases m <;> simp [Mark.char] at digit
  cases s with
  | null =>
    cases start
    exact ⟨rfl, fun m => by cases m <;> decide⟩
  | boolean value =>
    cases value <;> cases start <;> exact ⟨rfl, fun m => by cases m <;> decide⟩
  | number n =>
    rcases start with rfl | found
    · exact ⟨rfl, fun m => by cases m <;> decide⟩
    · exact digit c found
  | string t =>
    cases start
    exact ⟨rfl, fun m => by cases m <;> decide⟩

/-- Only a string starts with a quote. -/
theorem Scalar.starts.quote (start : s.starts '"') : ∃ t, s = .string t := by
  cases s with
  | null => cases start
  | boolean value => cases value <;> cases start
  | number n =>
    rcases start with minus | digit
    · cases minus
    · simp at digit
  | string t => exact ⟨t, rfl⟩

theorem Token.Written.starts (written : token.Written word) :
    ∃ c rest, word = c :: rest ∧ isSpace c = false := by
  cases token with
  | mark m => exact ⟨m.char, [], written, by cases m <;> rfl⟩
  | scalar s =>
    obtain ⟨c, rest, word, start⟩ := Scalar.Written.starts written
    exact ⟨c, rest, word, start.plain.1⟩

theorem blanks_append {gap : Text} (blank : ∀ c ∈ gap, isSpace c = true) :
    blanks (gap ++ text) = blanks text :=
  List.dropWhile_append_of_pos blank

theorem blanks_cons (solid : isSpace c = false) : blanks (c :: text) = c :: text := by
  simp [blanks, solid]

namespace Spells

theorem of_word (written : token.Written word) (spelled : Spells more rest) :
    Spells (token :: more) (word ++ rest) := by
  have none : ∀ c ∈ ([] : Text), isSpace c = true := by simp
  exact next none written spelled

theorem of_mark {m : Mark} (spelled : Spells more rest) :
    Spells (.mark m :: more) (m.char :: rest) := by
  have written : Token.Written (.mark m) [m.char] := rfl
  exact of_word written spelled

theorem of_string (escaped : Escaped t body) (spelled : Spells more rest) :
    Spells (.scalar (.string t) :: more) ('"' :: (body ++ '"' :: rest)) := by
  have written : Token.Written (.scalar (.string t)) ('"' :: (body ++ ['"'])) := ⟨body, escaped, rfl⟩
  simpa using of_word written spelled

theorem blanks_eq_nil (spelled : Spells [] text) : blanks text = [] := by
  cases spelled with
  | done blank => exact List.dropWhile_eq_nil_iff.mpr blank

/-- Behind its blanks a text goes on with the first token. -/
theorem exists_word (spelled : Spells (token :: more) text) :
    ∃ word rest, blanks text = word ++ rest ∧ token.Written word ∧ Spells more rest := by
  cases spelled with
  | @next gap word rest _ _ blank written later =>
    obtain ⟨c, tail, rfl, solid⟩ := written.starts
    refine ⟨c :: tail, rest, ?_, written, later⟩
    rw [List.append_assoc, blanks_append blank, List.cons_append, blanks_cons solid]

theorem skip_blanks (spelled : Spells tokens text) : Spells tokens (blanks text) := by
  cases tokens with
  | nil =>
    rw [spelled.blanks_eq_nil]
    exact done (by simp)
  | cons token more =>
    obtain ⟨word, rest, behind, written, later⟩ := spelled.exists_word
    rw [behind]
    exact Spells.of_word written later

theorem mark {m : Mark} (spelled : Spells (.mark m :: more) text) :
    ∃ rest, blanks text = m.char :: rest ∧ Spells more rest := by
  obtain ⟨word, rest, behind, rfl, later⟩ := spelled.exists_word
  exact ⟨rest, behind, later⟩

theorem string (spelled : Spells (.scalar (.string t) :: more) text) :
    ∃ body rest, blanks text = '"' :: (body ++ '"' :: rest) ∧ Escaped t body ∧
      Spells more rest := by
  obtain ⟨word, rest, behind, ⟨body, escaped, rfl⟩, later⟩ := spelled.exists_word
  exact ⟨body, rest, by simpa using behind, escaped, later⟩

theorem list {vs : List Value} (spelled : Spells ((Value.list vs).tokens ++ more) text) :
    ∃ rest, blanks text = '[' :: rest ∧
      Spells (elementTokens true vs ++ .mark .listEnd :: more) rest := by
  simp only [Value.tokens, List.cons_append, List.append_assoc, List.nil_append] at spelled
  exact spelled.mark

theorem object {ms : List (Text × Value)}
    (spelled : Spells ((Value.object ms).tokens ++ more) text) :
    ∃ rest, blanks text = '\x7b' :: rest ∧
      Spells (memberTokens true ms ++ .mark .objectEnd :: more) rest := by
  simp only [Value.tokens, List.cons_append, List.append_assoc, List.nil_append] at spelled
  exact spelled.mark

/-- A text has a character for each token. -/
theorem length_le (spelled : Spells tokens text) : tokens.length ≤ text.length := by
  induction spelled with
  | done => exact Nat.zero_le _
  | next _ written _ ih =>
    obtain ⟨c, tail, rfl, -⟩ := written.starts
    simp only [List.length_cons, List.length_append]
    omega

end Spells

end TripleSlash.Json
