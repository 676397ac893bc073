import TripleSlash.Directive.Quoting

/-! Bodies as runs of units. A body ends at the first quote that stands for a unit of its own,
escaping writes units only, and decoding takes an escaped text back in front of whatever
follows it. -/
namespace TripleSlash.Quote

/-- A plain character, or a backslash with the character behind it, and so on. -/
inductive Units (q : Quote) : Text → Prop where
  | nil : Units q []
  | plain {c rest} : c ≠ q.char → c ≠ '\\' → Units q rest → Units q (c :: rest)
  | guarded {c rest} : c ≠ '\n' → Units q rest → Units q ('\\' :: c :: rest)

variable {q : Quote} {c : Char} {s t body rest : Text}

theorem char_ne_backslash (q : Quote) : q.char ≠ '\\' := by
  cases q <;> decide

theorem char_ne_newline (q : Quote) : q.char ≠ '\n' := by
  cases q <;> decide

theorem char_ne_slash (q : Quote) : q.char ≠ '/' := by
  cases q <;> decide

theorem Units.append (hs : Units q s) (ht : Units q t) : Units q (s ++ t) := by
  induction hs with
  | nil => exact ht
  | plain hq hb _ ih => exact .plain hq hb ih
  | guarded hn _ ih => exact .guarded hn ih

/-- What is written for a single character. -/
def unit (q : Quote) (c : Char) : Text := if c = q.char ∨ c = '\\' then ['\\', c] else [c]

theorem escape_cons (q : Quote) (c : Char) (t : Text) : q.escape (c :: t) = q.unit c ++ q.escape t := by
  simp only [escape, unit]
  split <;> rfl

theorem escape_append (q : Quote) (s t : Text) : q.escape (s ++ t) = q.escape s ++ q.escape t := by
  induction s with
  | nil => rfl
  | cons c s ih => rw [List.cons_append, escape_cons, escape_cons, ih, List.append_assoc]

theorem units_unit (q : Quote) (c : Char) : Units q (q.unit c) := by
  unfold unit
  split
  · rename_i special
    refine .guarded (fun newline => ?_) .nil
    subst newline
    rcases special with h | h
    · exact q.char_ne_newline h.symm
    · contradiction
  · rename_i ordinary
    exact .plain (fun h => ordinary (Or.inl h)) (fun h => ordinary (Or.inr h)) .nil

theorem units_escape (q : Quote) (t : Text) : Units q (q.escape t) := by
  induction t with
  | nil => exact .nil
  | cons c t ih =>
    rw [escape_cons]
    exact (q.units_unit c).append ih

theorem decode_plain (h : c ≠ '\\') (t : Text) : q.decode (c :: t) = c :: q.decode t := by
  rw [decode]
  intro d rest same
  exact absurd same h

theorem decode_unit_append (q : Quote) (c : Char) (t : Text) :
    q.decode (q.unit c ++ t) = c :: q.decode t := by
  unfold unit
  split
  · rename_i special
    simp only [List.cons_append, List.nil_append, decode, if_pos special]
  · rename_i ordinary
    exact decode_plain (fun h => ordinary (Or.inr h)) t

/-- No backslash of what follows is taken for one of the escaped text, nor the other way. -/
theorem decode_escape_append (q : Quote) (t r : Text) :
    q.decode (q.escape t ++ r) = t ++ q.decode r := by
  induction t with
  | nil => rfl
  | cons c t ih => rw [escape_cons, List.append_assoc, decode_unit_append, ih, List.cons_append]

theorem getLast?_escape (q : Quote) (t : Text) : (q.escape t).getLast? = t.getLast? := by
  rcases List.eq_nil_or_concat t with rfl | ⟨init, c, rfl⟩
  · rfl
  · rw [List.concat_eq_append, escape_append, escape_cons]
    simp only [escape, List.append_nil, List.getLast?_append, List.getLast?_singleton]
    unfold unit
    split <;> rfl

theorem mem_escape (member : c ∈ q.escape t) : c = '\\' ∨ c ∈ t := by
  induction t with
  | nil => exact absurd member List.not_mem_nil
  | cons d t ih =>
    rw [escape_cons] at member
    rcases List.mem_append.mp member with here | later
    · have written : c = '\\' ∨ c = d := by
        unfold unit at here
        split at here <;> simp_all
      rcases written with guard | rfl
      · exact Or.inl guard
      · exact Or.inr List.mem_cons_self
    · exact (ih later).imp_right (List.mem_cons_of_mem _)

theorem mem_escape_of_mem (member : c ∈ t) : c ∈ q.escape t := by
  induction t with
  | nil => exact absurd member List.not_mem_nil
  | cons d t ih =>
    rw [escape_cons]
    rcases List.mem_cons.mp member with rfl | later
    · refine List.mem_append_left _ ?_
      unfold unit
      split <;> simp
    · exact List.mem_append_right _ (ih later)

theorem head?_decode (q : Quote) (t : Text) : (q.decode t).head? = some '/' ↔ t.head? = some '/' := by
  fun_cases decode q t with
  | case1 c rest special =>
    have other : c ≠ '/' := by
      rintro rfl
      exact special.elim (fun h => q.char_ne_slash h.symm) (by decide)
    simp [other]
  | case2 => simp
  | case3 => simp
  | case4 => simp

theorem takeBody_close (q : Quote) (rest : Text) : q.takeBody (q.char :: rest) = some ([], rest) := by
  rw [takeBody, if_pos rfl]
  intro d more same
  exact absurd same q.char_ne_backslash

theorem takeBody_plain (hq : c ≠ q.char) (hb : c ≠ '\\') (t : Text) :
    q.takeBody (c :: t) = (q.takeBody t).map fun (body, tail) => (c :: body, tail) := by
  rw [takeBody, if_neg hq, if_neg hb]
  intro d more same
  exact absurd same hb

theorem takeBody_guarded (h : c ≠ '\n') (t : Text) :
    q.takeBody ('\\' :: c :: t) =
      (q.takeBody t).map fun (body, tail) => ('\\' :: c :: body, tail) := by
  rw [takeBody, if_neg h]

theorem takeBody_complete (units : Units q body) (rest : Text) :
    q.takeBody (body ++ q.char :: rest) = some (body, rest) := by
  induction units with
  | nil => exact q.takeBody_close rest
  | plain hq hb _ ih => rw [List.cons_append, takeBody_plain hq hb, ih]; rfl
  | guarded hn _ ih => rw [List.cons_append, List.cons_append, takeBody_guarded hn, ih]; rfl

theorem takeBody_sound (taken : q.takeBody t = some (body, rest)) :
    t = body ++ q.char :: rest ∧ Units q body := by
  fun_induction takeBody q t generalizing body with
  | case1 => contradiction
  | case2 tail c plain ih =>
    obtain ⟨⟨first, last⟩, read, same⟩ := Option.map_eq_some_iff.mp taken
    cases same
    obtain ⟨rfl, units⟩ := ih read
    exact ⟨rfl, .guarded plain units⟩
  | case3 tail =>
    cases taken
    exact ⟨rfl, .nil⟩
  | case4 => contradiction
  | case5 c tail _ ordinary unguarded ih =>
    obtain ⟨⟨first, last⟩, read, same⟩ := Option.map_eq_some_iff.mp taken
    cases same
    obtain ⟨rfl, units⟩ := ih read
    exact ⟨rfl, .plain ordinary unguarded units⟩
  | case6 => contradiction

theorem takeBody_eq_some_iff :
    q.takeBody t = some (body, rest) ↔ t = body ++ q.char :: rest ∧ Units q body := by
  constructor
  · exact takeBody_sound
  · rintro ⟨rfl, units⟩
    exact takeBody_complete units rest

end TripleSlash.Quote
