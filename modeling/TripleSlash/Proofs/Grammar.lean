import TripleSlash.Directive
import TripleSlash.Proofs.Quoting

/-! The grammar of directives. A text is read as a layout exactly when it is the text of that
layout and every part is of its kind, so a text has at most one layout. What stands behind the
end mark is free, and so is the body, as long as it stays a run of units. -/
namespace TripleSlash

namespace Text

variable {s t : Text}

theorem takeWhile_blank (blank : ∀ c ∈ s, isBlank c = true)
    (stop : ∀ c ∈ t.head?, isBlank c = false) : (s ++ t).takeWhile isBlank = s := by
  rw [List.takeWhile_append_of_pos blank]
  cases t with
  | nil => simp
  | cons c t => simp [stop c rfl]

theorem dropWhile_blank (blank : ∀ c ∈ s, isBlank c = true)
    (stop : ∀ c ∈ t.head?, isBlank c = false) : (s ++ t).dropWhile isBlank = t := by
  rw [List.dropWhile_append_of_pos blank]
  cases t with
  | nil => rfl
  | cons c t => simp [stop c rfl]

theorem eq_takeWhile_append {u : Text} (dropped : t.dropWhile isBlank = u) :
    t = t.takeWhile isBlank ++ u := by
  rw [← dropped, List.takeWhile_append_dropWhile]

theorem blank_of_mem_takeWhile : ∀ c ∈ t.takeWhile isBlank, isBlank c = true :=
  fun _ h => List.all_eq_true.mp List.all_takeWhile _ h

end Text

namespace Layout

/-- Every part is of its kind. -/
structure WellFormed (l : Layout) : Prop where
  lead : ∀ c ∈ l.lead, Text.isBlank c = true
  gap : ∀ c ∈ l.gap, Text.isBlank c = true
  gap_some : l.gap ≠ []
  body : l.quote.Units l.body
  body_some : l.body ≠ []
  trail : ∀ c ∈ l.trail, Text.isBlank c = true

variable {l : Layout} {line : Text}

theorem text_eq (l : Layout) : l.text = slashes ++ (l.lead ++ (tag ++ (l.gap ++ (pathKey ++
    l.quote.char :: (l.body ++ l.quote.char :: (l.trail ++ (close ++ l.rest))))))) := by
  simp only [text, before, after, List.append_assoc, List.cons_append, List.nil_append]

theorem ofText?_sound (read : ofText? line = some l) : l.WellFormed ∧ line = l.text := by
  simp only [ofText?, Option.bind_eq_bind, Option.bind_eq_some_iff, Text.after?_eq_some_iff] at read
  obtain ⟨afterSlashes, rfl, afterTag, hTag, afterKey, hKey, quote, ⟨c, hc, named⟩,
    ⟨body, afterBody⟩, hBody, rest, hRest, finish⟩ := read
  obtain ⟨inside, rfl⟩ := List.head?_eq_some_iff.mp hc
  obtain rfl := Quote.ofChar?_eq_some_iff.mp named
  obtain ⟨hInside, units⟩ := Quote.takeBody_eq_some_iff.mp hBody
  split at finish
  · contradiction
  · rename_i filled
    simp only [not_or] at filled
    cases finish
    refine ⟨⟨Text.blank_of_mem_takeWhile, Text.blank_of_mem_takeWhile, filled.1, units, filled.2,
      Text.blank_of_mem_takeWhile⟩, ?_⟩
    rw [text_eq, ← Text.eq_takeWhile_append hRest, ← hInside, List.tail_cons,
      ← Text.eq_takeWhile_append hKey, ← Text.eq_takeWhile_append hTag]

theorem tag_stops (t : Text) : ∀ c ∈ (tag ++ t).head?, Text.isBlank c = false := by
  rintro c ⟨⟩
  decide

theorem pathKey_stops (t : Text) : ∀ c ∈ (pathKey ++ t).head?, Text.isBlank c = false := by
  rintro c ⟨⟩
  decide

theorem close_stops (t : Text) : ∀ c ∈ (close ++ t).head?, Text.isBlank c = false := by
  rintro c ⟨⟩
  decide

theorem ofText?_complete (formed : l.WellFormed) : ofText? l.text = some l := by
  have named : Quote.ofChar? l.quote.char = some l.quote := Quote.ofChar?_eq_some_iff.mpr rfl
  simp only [text_eq, ofText?, Option.bind_eq_bind, Text.after?_append, Option.bind_some,
    Text.dropWhile_blank formed.lead (tag_stops _), Text.takeWhile_blank formed.lead (tag_stops _),
    Text.dropWhile_blank formed.gap (pathKey_stops _),
    Text.takeWhile_blank formed.gap (pathKey_stops _),
    List.head?_cons, List.tail_cons, named, Quote.takeBody_complete formed.body,
    Text.dropWhile_blank formed.trail (close_stops _),
    Text.takeWhile_blank formed.trail (close_stops _), formed.gap_some, formed.body_some,
    or_self, if_false]

/-- The layouts that are read off a text are the well-formed ones that are written so. -/
theorem ofText?_eq_some_iff : ofText? line = some l ↔ l.WellFormed ∧ line = l.text := by
  constructor
  · exact ofText?_sound
  · rintro ⟨formed, rfl⟩
    exact ofText?_complete formed

end Layout
end TripleSlash
