import TripleSlash.Json.Record
import TripleSlash.Proofs.Json.Skipping

/-! Readers against the values that texts write. A reader gives what is meant by a value, with
the text of the tokens behind it, or no result where nothing is meant; inside of brackets a
complaint may still wait for its place. Readers that stand one behind the other have their
meanings combined in the same way. -/
namespace TripleSlash.Json

variable {α β σ : Type} {result : Except Fault (α × Text)} {inside : Except Fault (Inside α)}
  {meant : Option α} {mid left more : List Token} {text rest key : Text} {first : Bool} {v : Value}
  {vs : List Value} {ms : List (Text × Value)}

/-- A result of a reader: what is meant, and the text of the tokens left. -/
inductive Gives : Except Fault (α × Text) → Option α → List Token → Prop where
  | value {a rest left} : Spells left rest → Gives (.ok (a, rest)) (some a) left
  | fault {f left} : Gives (.error f) none left

/-- The same inside of brackets. -/
inductive GivesInside : Except Fault (Inside α) → Option α → List Token → Prop where
  | value {a rest left} : Spells left rest → GivesInside (.ok (.ok a, rest)) (some a) left
  | flaw {cause rest left} : GivesInside (.ok (.error cause, rest)) none left
  | fault {f left} : GivesInside (.error f) none left

/-- A reader gives this for every text of the value. -/
def Reads (read : Text → Except Fault (α × Text)) (v : Value) (meant : Option α) : Prop :=
  ∀ more text, Delimits more → Spells (v.tokens ++ more) text → Gives (read text) meant more

theorem Gives.map (given : Gives result meant left) (g : α → β) :
    Gives (result.map fun (a, rest) => (g a, rest)) (meant.map g) left := by
  cases given with
  | value spelled => exact .value spelled
  | fault => exact .fault

theorem Gives.bindInside {next : α × Text → Except Fault (Inside β)} {k : α → Option β}
    (given : Gives result meant mid)
    (later : ∀ a rest, Spells mid rest → GivesInside (next (a, rest)) (k a) left) :
    GivesInside (result >>= next) (meant.bind k) left := by
  cases given with
  | value spelled => exact later _ _ spelled
  | fault => exact .fault

/-- What was read inside is looked at once more. -/
theorem GivesInside.check {next : α → Except Cause β} {k : α → Option β}
    (given : GivesInside inside meant left) (checked : ∀ a, (next a).toOption = k a) :
    GivesInside (inside >>= fun (a, rest) => .ok (a.bind next, rest)) (meant.bind k) left := by
  cases given with
  | flaw => exact .flaw
  | fault => exact .fault
  | @value a rest _ spelled =>
    rw [Option.bind_some, ← checked a]
    simp only [bind, Except.bind]
    cases next a with
    | ok b => exact .value spelled
    | error cause => exact .flaw

theorem GivesInside.map (given : GivesInside inside meant left) (g : α → β) :
    GivesInside (inside >>= fun (a, rest) => .ok (a.map g, rest)) (meant.map g) left := by
  cases given with
  | value spelled => exact .value spelled
  | flaw => exact .flaw
  | fault => exact .fault

theorem mismatch_gives (expected : Text) (text : Text) :
    Gives (mismatch (α := α × Text) expected text) none left := by
  unfold mismatch
  cases readFound text with
  | ok found => exact .fault
  | error f => exact .fault

theorem closeObject_spelled (spelled : Spells (.mark .objectEnd :: more) text) :
    ∃ rest, closeObject text = .ok rest ∧ Spells more rest := by
  obtain ⟨rest, close, later⟩ := spelled.mark
  exact ⟨rest, by simp [closeObject, close, Mark.char], later⟩

theorem closeList_spelled (spelled : Spells (.mark .listEnd :: more) text) :
    ∃ rest, closeList text = .ok rest ∧ Spells more rest := by
  obtain ⟨rest, close, later⟩ := spelled.mark
  exact ⟨rest, by simp [closeList, close, Mark.char], later⟩

theorem closeList_comma (spelled : Spells (.mark .comma :: more) text) :
    ∃ fault, closeList text = .error fault := by
  obtain ⟨rest, comma, -⟩ := spelled.mark
  simp only [closeList, comma, Mark.char, ahead]
  split <;> exact ⟨_, rfl⟩

theorem GivesInside.closed_object
    (given : GivesInside inside meant (.mark .objectEnd :: more)) :
    Gives (inside >>= fun inside => inside.closed closeObject behindObject) meant more := by
  cases given with
  | flaw => exact .fault
  | fault => exact .fault
  | value spelled =>
    obtain ⟨rest, close, later⟩ := closeObject_spelled spelled
    simp only [bind, Except.bind, Inside.closed, close]
    exact .value later

/-- A list is only closed behind its last element. -/
theorem GivesInside.closed_list (vs : List Value)
    (given : GivesInside inside meant (elementTokens false vs ++ .mark .listEnd :: more)) :
    Gives (inside >>= fun inside => inside.closed closeList behindList)
      (if vs = [] then meant else none) more := by
  cases given with
  | flaw => rw [ite_self]; exact .fault
  | fault => rw [ite_self]; exact .fault
  | value spelled =>
    cases vs with
    | nil =>
      obtain ⟨rest, close, later⟩ := closeList_spelled spelled
      simp only [bind, Except.bind, Inside.closed, close, if_true]
      exact .value later
    | cons v vs =>
      obtain ⟨fault, close⟩ := closeList_comma spelled
      simp only [bind, Except.bind, Inside.closed, close, reduceCtorEq, if_false]
      exact .fault

/-- A text has more characters than a list has elements. -/
theorem elements_fit (spelled : Spells (elementTokens first vs ++ left) text) :
    vs.length < text.length + 1 := by
  have bound := spelled.length_le
  have fewer := length_le_elementTokens first vs
  rw [List.length_append] at bound
  omega

theorem members_fit (spelled : Spells (memberTokens first ms ++ left) text) :
    ms.length < text.length + 1 := by
  have bound := spelled.length_le
  have fewer := length_le_memberTokens first ms
  rw [List.length_append] at bound
  omega

theorem nextElement_end (first : Bool) (spelled : Spells (.mark .listEnd :: more) text) :
    ∃ rest, nextElement first text = .ok (false, rest) ∧ Spells (.mark .listEnd :: more) rest := by
  obtain ⟨rest, close, later⟩ := spelled.mark
  exact ⟨']' :: rest, by simp [nextElement, close, Mark.char], .of_mark later⟩

theorem nextElement_value (spelled : Spells (separator first ++ v.tokens ++ left) text) :
    ∃ rest, nextElement first text = .ok (true, rest) ∧ Spells (v.tokens ++ left) rest := by
  cases first with
  | true =>
    obtain ⟨c, tail, behind, start⟩ := Value.exists_start spelled
    have filled := start.ne_listEnd
    exact ⟨blanks text, by simp [nextElement, behind], spelled.skip_blanks⟩
  | false =>
    obtain ⟨mid, comma, spelled⟩ := Spells.mark spelled
    obtain ⟨c, tail, behind, start⟩ := Value.exists_start spelled
    have filled := start.ne_listEnd
    refine ⟨blanks mid, ?_, spelled.skip_blanks⟩
    simp [nextElement, comma, behind, filled, Mark.char]

theorem nextKey_end (first : Bool) (spelled : Spells (.mark .objectEnd :: more) text) :
    ∃ rest, nextKey first text = .ok (none, rest) ∧ Spells (.mark .objectEnd :: more) rest := by
  obtain ⟨rest, close, later⟩ := spelled.mark
  exact ⟨'\x7d' :: rest, by simp [nextKey, close, Mark.char], .of_mark later⟩

theorem nextKey_key (spelled : Spells (separator first ++ .scalar (.string key) :: left) text) :
    ∃ rest, nextKey first text = .ok (some key, rest) ∧ Spells left rest := by
  cases first with
  | true =>
    obtain ⟨body, rest, behind, escaped, later⟩ := Spells.string spelled
    have read : readString (body ++ '"' :: rest) = .ok (key, rest) := readString_escaped escaped
    exact ⟨rest, by simp [nextKey, behind, read, bind, Except.bind], later⟩
  | false =>
    obtain ⟨mid, comma, spelled⟩ := Spells.mark spelled
    obtain ⟨body, rest, behind, escaped, later⟩ := Spells.string spelled
    have read : readString (body ++ '"' :: rest) = .ok (key, rest) := readString_escaped escaped
    exact ⟨rest, by simp [nextKey, comma, behind, read, Mark.char, bind, Except.bind], later⟩

theorem colon_spelled (spelled : Spells (.mark .colon :: more) text) :
    ∃ rest, colon text = .ok rest ∧ Spells more rest := by
  obtain ⟨rest, behind, later⟩ := spelled.mark
  exact ⟨rest, by simp [colon, behind, Mark.char], later⟩

/-- A list of values that are all read alike. -/
theorem elements_spelled {element : Text → Except Fault (α × Text)} {meaning : Value → Option α}
    {rounds : Nat} (each : ∀ v ∈ vs, Reads element v (meaning v)) (enough : vs.length < rounds)
    (spelled : Spells (elementTokens first vs ++ .mark .listEnd :: more) text) :
    GivesInside (elements element rounds first text) (vs.mapM meaning)
      (.mark .listEnd :: more) := by
  induction vs generalizing rounds first text with
  | nil =>
    obtain ⟨rounds, rfl⟩ := Nat.exists_eq_succ_of_ne_zero (Nat.ne_of_gt enough)
    obtain ⟨rest, done, later⟩ := nextElement_end first spelled
    rw [elements, done]
    exact .value later
  | cons v vs ih =>
    obtain ⟨rounds, rfl⟩ := Nat.exists_eq_succ_of_ne_zero (Nat.ne_zero_of_lt enough)
    rw [elementTokens, List.append_assoc] at spelled
    obtain ⟨mid, next, spelled⟩ := nextElement_value spelled
    have value := each v List.mem_cons_self _ mid (delimits_elements vs .listEnd more) spelled
    rw [elements, next, List.mapM_cons]
    -- the value is put in front of what the rest of the list gives
    refine value.bindInside fun a rest spelled => ?_
    have others := ih (fun w h => each w (List.mem_cons_of_mem _ h)) (Nat.lt_of_succ_lt_succ enough)
      spelled
    have both := others.map (a :: ·)
    rwa [Option.map_eq_bind] at both

/-- What is made of a member with this value. -/
inductive Member.Means (v : Value) (fields : σ) : Member σ → Option σ → Prop where
  | ignored : Means v fields .ignored (some fields)
  | repeated : Means v fields .repeated none
  | read {value meant} : Reads value v meant → Means v fields (.read value) meant

/-- Members are taken in order, each into the fields that were read before it. -/
theorem members_spelled {meaning : σ → Text → Member σ} {means : σ → Text × Value → Option σ}
    {rounds : Nat}
    (each : ∀ fields key v, (meaning fields key).Means v fields (means fields (key, v)))
    (enough : ms.length < rounds)
    (spelled : Spells (memberTokens first ms ++ .mark .objectEnd :: more) text) (fields : σ) :
    GivesInside (members meaning rounds first fields text) (ms.foldlM means fields)
      (.mark .objectEnd :: more) := by
  induction ms generalizing rounds first fields text with
  | nil =>
    obtain ⟨rounds, rfl⟩ := Nat.exists_eq_succ_of_ne_zero (Nat.ne_of_gt enough)
    obtain ⟨rest, done, later⟩ := nextKey_end first spelled
    rw [members, done]
    exact .value later
  | cons m ms ih =>
    obtain ⟨key, v⟩ := m
    obtain ⟨rounds, rfl⟩ := Nat.exists_eq_succ_of_ne_zero (Nat.ne_zero_of_lt enough)
    have fewer : ms.length < rounds := Nat.lt_of_succ_lt_succ enough
    have delimited := delimits_members ms .objectEnd more
    simp only [memberTokens, List.append_assoc, List.cons_append] at spelled
    obtain ⟨mid, next, spelled⟩ := nextKey_key spelled
    obtain ⟨rest, colon, spelled⟩ := colon_spelled spelled
    -- from here on only what the member means counts, not how its key was compared
    have meant := each fields key v
    rw [members, next, List.foldlM_cons]
    simp only [bind, Except.bind]
    generalize meaning fields key = member at meant
    generalize means fields (key, v) = fields' at meant
    cases meant with
    | repeated => exact .flaw
    | ignored =>
      obtain ⟨behind, skipped, spelled⟩ := skipValue_spelled delimited spelled
      simp only [colon, skipped]
      exact ih fewer spelled fields
    | read reads =>
      simp only [colon]
      exact (reads _ rest delimited spelled).bindInside fun fields rest spelled =>
        ih fewer spelled fields

namespace Value

def text? : Value → Option Text
  | .scalar (.string t) => some t
  | _ => none

/-- All elements of a list, each by the same meaning. -/
def all? (meaning : Value → Option α) : Value → Option (List α)
  | .list vs => vs.mapM meaning
  | _ => none

theorem text?_eq_some {t : Text} (found : v.text? = some t) : v = .scalar (.string t) := by
  unfold text? at found
  split at found
  · exact Option.some.inj found ▸ rfl
  · cases found

theorem starts.not_quote {c : Char} (start : v.starts c) (nothing : v.text? = none) : c ≠ '"' := by
  rintro rfl
  cases v with
  | scalar s =>
    obtain ⟨t, rfl⟩ := Scalar.starts.quote start
    cases nothing
  | list vs => cases start
  | object ms => cases start

end Value

theorem textValue_reads (v : Value) : Reads textValue v v.text? := by
  intro more text _ spelled
  cases found : v.text? with
  | none =>
    obtain ⟨c, tail, behind, start⟩ := Value.exists_start spelled
    have other := start.not_quote found
    simp only [textValue, behind]
    split
    · simp_all
    · simp_all
    · exact mismatch_gives _ _
  | some t =>
    obtain rfl := Value.text?_eq_some found
    obtain ⟨body, rest, behind, escaped, later⟩ := Spells.string spelled
    simp only [textValue, behind, readString_escaped escaped]
    exact .value later

theorem listValue_reads {element : Text → Except Fault (α × Text)} {meaning : Value → Option α}
    (each : ∀ v, Reads element v (meaning v)) (v : Value) :
    Reads (listValue element) v (v.all? meaning) := by
  intro more text _ spelled
  cases v with
  | scalar s =>
    obtain ⟨c, tail, behind, start⟩ := Value.exists_start spelled
    have other : c ≠ '[' := Scalar.starts.plain start |>.2 .listStart
    simp only [listValue, behind]
    split
    · simp_all
    · simp_all
    · exact mismatch_gives _ _
  | object ms =>
    obtain ⟨rest, behind, -⟩ := spelled.object
    simp only [listValue, behind]
    exact mismatch_gives _ _
  | list vs =>
    obtain ⟨rest, behind, inner⟩ := spelled.list
    have inside := elements_spelled (fun v _ => each v) (elements_fit inner) inner
    simp only [listValue, behind]
    exact inside.closed_list []

/-- A record that is no scalar is read by the brackets it has. -/
theorem recordValue_reads {name : Text} {object list : Text → Except Fault (Inside α)}
    {meaning : Value → Option α} (scalars : ∀ s, meaning (.scalar s) = none)
    (objects : ∀ ms more text, Spells (memberTokens true ms ++ .mark .objectEnd :: more) text →
      GivesInside (object text) (meaning (.object ms)) (.mark .objectEnd :: more))
    (lists : ∀ vs more text, Spells (elementTokens true vs ++ .mark .listEnd :: more) text →
      Gives (list text >>= fun inside => inside.closed closeList behindList) (meaning (.list vs))
        more) (v : Value) :
    Reads (recordValue name object list) v (meaning v) := by
  intro more text _ spelled
  cases v with
  | scalar s =>
    obtain ⟨c, tail, behind, start⟩ := Value.exists_start spelled
    have noList : c ≠ '[' := Scalar.starts.plain start |>.2 .listStart
    have noObject : c ≠ '\x7b' := Scalar.starts.plain start |>.2 .objectStart
    rw [scalars]
    simp only [recordValue, behind]
    split
    · simp_all
    · simp_all
    · simp_all
    · exact mismatch_gives _ _
  | object ms =>
    obtain ⟨rest, behind, inner⟩ := spelled.object
    simp only [recordValue, behind]
    exact (objects ms more rest inner).closed_object
  | list vs =>
    obtain ⟨rest, behind, inner⟩ := spelled.list
    simp only [recordValue, behind]
    exact lists vs more rest inner

/-- A text holds one value and nothing but blanks behind it. -/
theorem document_spelled {read : Text → Except Fault (α × Text)} (reads : Reads read v meant)
    (written : v.Writes text) : (document read text).toOption = meant := by
  have spelled : Spells (v.tokens ++ []) text := by rwa [List.append_nil]
  have given := reads [] text trivial spelled
  rw [document]
  generalize read text = result at given
  cases given with
  | fault => rfl
  | value later => simp only [bind, Except.bind, later.blanks_eq_nil, Except.toOption]

end TripleSlash.Json
