import TripleSlash.Proofs.Grammar
import TripleSlash.Text.Utf8

/-! Which texts are directives, and what is read off them. The grammar is written out part by
part, with the body as a list of units; a text can be taken apart in one way at most, and it is a
directive exactly if it can. The path is put together from what the units stand for, and the span
counts the bytes of what is in front of the body and of the body. -/
namespace TripleSlash

namespace Utf8

theorem encode_append (s t : Text) : encode (s ++ t) = encode s ++ encode t :=
  List.flatMap_append

theorem length_encode (t : Text) : (encode t).length = Text.size t := by
  induction t with
  | nil => rfl
  | cons c t ih =>
    rw [encode, List.flatMap_cons, List.length_append, String.length_utf8EncodeChar, Text.size_cons]
    exact congrArg (c.utf8Size + ·) ih

end Utf8

namespace Quote

variable {q : Quote} {u v s t body : Text} {units units' : List Text}

/-- A character that is neither the quote nor a backslash, or a backslash with any character
behind it but a line feed. -/
inductive IsUnit (q : Quote) : Text → Prop where
  | plain {c} : c ≠ q.char → c ≠ '\\' → IsUnit q [c]
  | guarded {c} : c ≠ '\n' → IsUnit q ['\\', c]

/-- What a unit stands for: the backslash goes where it guards the quote or a backslash. -/
def meaning (q : Quote) : Text → Text
  | ['\\', c] => if c = q.char ∨ c = '\\' then [c] else ['\\', c]
  | u => u

theorem IsUnit.append (first : q.IsUnit u) (rest : q.Units t) : q.Units (u ++ t) := by
  cases first with
  | plain hq hb => exact .plain hq hb rest
  | guarded hn => exact .guarded hn rest

theorem units_flatten (all : ∀ u ∈ units, q.IsUnit u) : q.Units units.flatten := by
  induction units with
  | nil => exact .nil
  | cons u units ih =>
    have later := ih fun v h => all v (List.mem_cons_of_mem _ h)
    exact (all u List.mem_cons_self).append later

theorem Units.exists_flatten (run : q.Units body) :
    ∃ units : List Text, (∀ u ∈ units, q.IsUnit u) ∧ body = units.flatten := by
  induction run with
  | nil => exact ⟨[], by simp, rfl⟩
  | @plain c rest hq hb _ ih =>
    obtain ⟨units, all, rfl⟩ := ih
    exact ⟨[c] :: units, List.forall_mem_cons.mpr ⟨.plain hq hb, all⟩, rfl⟩
  | @guarded c rest hn _ ih =>
    obtain ⟨units, all, rfl⟩ := ih
    exact ⟨['\\', c] :: units, List.forall_mem_cons.mpr ⟨.guarded hn, all⟩, rfl⟩

/-- A text starts with one unit at most. -/
theorem IsUnit.unique (first : q.IsUnit u) (other : q.IsUnit v) (same : u ++ s = v ++ t) :
    u = v ∧ s = t := by
  cases first with
  | plain hq hb =>
    cases other with
    | plain => simpa using same
    | guarded =>
      obtain ⟨rfl, -⟩ := List.cons.inj same
      exact absurd rfl hb
  | guarded hn =>
    cases other with
    | plain hq hb =>
      obtain ⟨rfl, -⟩ := List.cons.inj same
      exact absurd rfl hb
    | guarded => simpa [and_assoc] using same

theorem IsUnit.ne_nil (unit : q.IsUnit u) : u ≠ [] := by
  cases unit <;> simp

theorem units_unique (all : ∀ u ∈ units, q.IsUnit u) (all' : ∀ u ∈ units', q.IsUnit u)
    (same : units.flatten = units'.flatten) : units = units' := by
  induction units generalizing units' with
  | nil =>
    cases units' with
    | nil => rfl
    | cons v units' =>
      have filled := (all' v List.mem_cons_self).ne_nil
      simp [filled] at same
  | cons u units ih =>
    have first := all u List.mem_cons_self
    cases units' with
    | nil => simp [first.ne_nil] at same
    | cons v units' =>
      obtain ⟨rfl, rest⟩ := first.unique (all' v List.mem_cons_self) same
      rw [ih (fun w h => all w (List.mem_cons_of_mem _ h))
        (fun w h => all' w (List.mem_cons_of_mem _ h)) rest]

theorem meaning_single (q : Quote) (c : Char) : q.meaning [c] = [c] := by
  simp [meaning]

theorem decode_isUnit (unit : q.IsUnit u) (t : Text) :
    q.decode (u ++ t) = q.meaning u ++ q.decode t := by
  cases unit with
  | plain hq hb =>
    rw [meaning_single]
    exact decode_plain hb t
  | @guarded c hn =>
    simp only [List.cons_append, List.nil_append, decode, meaning]
    split <;> rfl

/-- Decoding takes the units one by one. -/
theorem decode_flatten (all : ∀ u ∈ units, q.IsUnit u) :
    q.decode units.flatten = units.flatMap q.meaning := by
  induction units with
  | nil => rfl
  | cons u units ih =>
    rw [List.flatten_cons, decode_isUnit (all u List.mem_cons_self), List.flatMap_cons,
      ih fun v h => all v (List.mem_cons_of_mem _ h)]

end Quote

namespace Layout

/-- A text that the grammar of directives takes apart into these parts, its body into these
units. -/
structure Spells (l : Layout) (units : List Text) (text : Text) : Prop where
  written : text = "///".toList ++ l.lead ++ "<reference".toList ++ l.gap ++ "path=".toList ++
    [l.quote.char] ++ l.body ++ [l.quote.char] ++ l.trail ++ "/>".toList ++ l.rest
  lead : ∀ c ∈ l.lead, Text.isBlank c = true
  gap : ∀ c ∈ l.gap, Text.isBlank c = true
  gap_some : l.gap ≠ []
  body : l.body = units.flatten
  each_unit : ∀ u ∈ units, l.quote.IsUnit u
  some_unit : units ≠ []
  trail : ∀ c ∈ l.trail, Text.isBlank c = true

variable {l l' : Layout} {units units' : List Text} {text : Text}

theorem slashes_eq : "///".toList = slashes := rfl
theorem tag_eq : "<reference".toList = tag := rfl
theorem pathKey_eq : "path=".toList = pathKey := rfl
theorem close_eq : "/>".toList = close := rfl

/-- The text of a layout, written out. -/
theorem text_written (l : Layout) :
    l.text = "///".toList ++ l.lead ++ "<reference".toList ++ l.gap ++ "path=".toList ++
      [l.quote.char] ++ l.body ++ [l.quote.char] ++ l.trail ++ "/>".toList ++ l.rest := by
  rw [slashes_eq, tag_eq, pathKey_eq, close_eq, text, before, after]
  simp only [List.append_assoc, List.cons_append, List.nil_append]

theorem Spells.text_eq (spelled : l.Spells units text) : text = l.text :=
  spelled.written.trans l.text_written.symm

theorem Spells.body_some (spelled : l.Spells units text) : l.body ≠ [] := by
  obtain ⟨u, more, rfl⟩ := List.exists_cons_of_ne_nil spelled.some_unit
  rw [spelled.body, List.flatten_cons]
  exact List.append_ne_nil_of_left_ne_nil (spelled.each_unit u List.mem_cons_self).ne_nil _

theorem Spells.wellFormed (spelled : l.Spells units text) : l.WellFormed where
  lead := spelled.lead
  gap := spelled.gap
  gap_some := spelled.gap_some
  body := spelled.body ▸ Quote.units_flatten spelled.each_unit
  body_some := spelled.body_some
  trail := spelled.trail

theorem WellFormed.spells (formed : l.WellFormed) : ∃ units, l.Spells units l.text := by
  obtain ⟨units, all, body⟩ := formed.body.exists_flatten
  refine ⟨units, l.text_written, formed.lead, formed.gap, formed.gap_some, body, all, ?_,
    formed.trail⟩
  rintro rfl
  exact formed.body_some body

theorem ofText?_eq_some_iff_spells : ofText? text = some l ↔ ∃ units, l.Spells units text := by
  rw [ofText?_eq_some_iff]
  constructor
  · rintro ⟨formed, rfl⟩
    exact formed.spells
  · rintro ⟨units, spelled⟩
    exact ⟨spelled.wellFormed, spelled.text_eq⟩

/-- The grammar takes a text apart in one way at most. -/
theorem Spells.unique (spelled : l.Spells units text) (other : l'.Spells units' text) :
    l = l' ∧ units = units' := by
  have read := ofText?_eq_some_iff_spells.mpr ⟨units, spelled⟩
  have read' := ofText?_eq_some_iff_spells.mpr ⟨units', other⟩
  obtain rfl := Option.some.inj (read.symm.trans read')
  have same := spelled.body.symm.trans other.body
  exact ⟨rfl, Quote.units_unique spelled.each_unit other.each_unit same⟩

end Layout

namespace Directive

variable {l : Layout} {units : List Text} {text : Text}

/-- What there is to say about a line that is taken apart so. -/
def ofUnits (l : Layout) (units : List Text) : Directive where
  line := 1
  lineStart := 0
  span := ⟨(Utf8.encode l.before).length, (Utf8.encode (l.before ++ l.body)).length⟩
  quote := l.quote
  raw := l.body
  path := ⟨units.flatMap l.quote.meaning⟩

theorem ofLayout_eq_ofUnits (spelled : l.Spells units text) : ofLayout 1 0 l = ofUnits l units := by
  simp only [ofLayout, ofUnits, Utf8.length_encode, Text.size_append, spelled.body,
    Quote.decode_flatten spelled.each_unit]

theorem bytes_ofUnits (spelled : l.Spells units text) :
    ((Utf8.encode text).take (ofUnits l units).span.stop).drop (ofUnits l units).span.start =
      Utf8.encode (ofUnits l units).raw := by
  have parts : Utf8.encode text = Utf8.encode (l.before ++ l.body) ++ Utf8.encode l.after := by
    rw [spelled.text_eq, Layout.text, Utf8.encode_append]
  simp only [ofUnits]
  rw [parts, List.take_left, Utf8.encode_append, List.drop_left]

/-- A text is a directive exactly if the grammar takes it apart, which it does in one way at
most; the span has the bytes of the body. -/
theorem parse?_iff_spells (text : Text) :
    (∀ d, parse? text = some d ↔ ∃ l units, Layout.Spells l units text ∧ d = ofUnits l units) ∧
    (∀ l l' units units', Layout.Spells l units text → Layout.Spells l' units' text →
      l = l' ∧ units = units') ∧
    ∀ d, parse? text = some d →
      ((Utf8.encode text).take d.span.stop).drop d.span.start = Utf8.encode d.raw := by
  have accepts : ∀ d, parse? text = some d ↔
      ∃ l units, Layout.Spells l units text ∧ d = ofUnits l units := by
    intro d
    rw [parse?, Option.map_eq_some_iff]
    constructor
    · rintro ⟨l, read, rfl⟩
      obtain ⟨units, spelled⟩ := Layout.ofText?_eq_some_iff_spells.mp read
      exact ⟨l, units, spelled, ofLayout_eq_ofUnits spelled⟩
    · rintro ⟨l, units, spelled, rfl⟩
      exact ⟨l, Layout.ofText?_eq_some_iff_spells.mpr ⟨units, spelled⟩, ofLayout_eq_ofUnits spelled⟩
  refine ⟨accepts, fun l l' units units' spelled other => spelled.unique other, ?_⟩
  intro d parsed
  obtain ⟨l, units, spelled, rfl⟩ := (accepts d).mp parsed
  exact bytes_ofUnits spelled

end Directive
end TripleSlash
