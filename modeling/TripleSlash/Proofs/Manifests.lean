import TripleSlash.Manifest
import TripleSlash.Proofs.Json.Reading

/-! What a manifest says and what is read from its text. The reader keeps a slot for each key
that it knows; at the end of an object a slot is filled exactly if its key stood there once, with
a value that has a meaning. -/
namespace TripleSlash

namespace Json

variable {α : Type}

/-- The value of a key that stands among the members exactly once. -/
def only? (key : Text) (ms : List (Text × Value)) : Option Value :=
  match ms.filter fun m => m.1 = key with
  | [m] => some m.2
  | _ => none

/-- The first member with the key fills the slot, and there may not be a second one. -/
def fill (key : Text) (meaning : Value → Option α) (slot : Option α) (m : Text × Value) :
    Option (Option α) :=
  if m.1 = key then if slot.isSome then none else (meaning m.2).map some else some slot

variable {key : Text} {meaning : Value → Option α} {ms : List (Text × Value)} {v : Value}

theorem only?_eq_some_iff :
    only? key ms = some v ↔ (ms.filter fun m => m.1 = key) = [(key, v)] := by
  unfold only?
  constructor
  · intro found
    split at found
    · rename_i m alone
      obtain rfl := Option.some.inj found
      have member : m ∈ ms.filter fun m => m.1 = key := alone ▸ List.mem_singleton_self m
      obtain rfl : m.1 = key := by simpa using (List.mem_filter.mp member).2
      exact alone
    · cases found
  · intro alone
    rw [alone]

theorem foldlM_fill_some (ms : List (Text × Value)) (a : α) :
    ms.foldlM (fill key meaning) (some a) =
      if (ms.filter fun m => m.1 = key) = [] then some (some a) else none := by
  induction ms with
  | nil => rfl
  | cons m ms ih =>
    by_cases same : m.1 = key
    · simp [fill, same]
    · have kept : fill key meaning (some a) m = some (some a) := by simp [fill, same]
      rw [List.foldlM_cons, kept, List.filter_cons_of_neg (by simpa using same)]
      exact ih

/-- What is in the slot after all members. -/
theorem foldlM_fill (ms : List (Text × Value)) :
    (ms.foldlM (fill key meaning) none).bind id = (only? key ms).bind meaning := by
  induction ms with
  | nil => rfl
  | cons m ms ih =>
    by_cases same : m.1 = key
    · have filled : fill key meaning none m = (meaning m.2).map some := by simp [fill, same]
      rw [List.foldlM_cons, filled, only?, List.filter_cons_of_pos (by simpa using same)]
      cases meant : meaning m.2 with
      | none =>
        cases ms.filter fun m => m.1 = key with
        | nil => simp [meant]
        | cons => simp
      | some a =>
        -- the slot is full now, so no other member may have the key
        simp only [Option.map_some, Option.bind_eq_bind, Option.bind_some, foldlM_fill_some]
        cases ms.filter fun m => m.1 = key with
        | nil => simp [meant]
        | cons => simp
    · have kept : fill key meaning none m = some none := by simp [fill, same]
      rw [List.foldlM_cons, kept, only?, List.filter_cons_of_neg (by simpa using same)]
      exact ih

end Json

namespace Manifest

open Json

/-- The output file that a value names as compiler options. -/
def outFile? : Value → Option Text
  | .object ms => (only? outFileKey ms).bind Value.text?
  | .list [v] => v.text?
  | _ => none

def written? : Value → Option Written
  | .object ms =>
    ((only? optionsKey ms).bind outFile?).bind fun outFile =>
      ((only? filesKey ms).bind (Value.all? Value.text?)).map fun files => ⟨outFile, files⟩
  | .list [options, files] =>
    (outFile? options).bind fun outFile =>
      (files.all? Value.text?).map fun files => ⟨outFile, files⟩
  | _ => none

/-- A list of texts as a value. -/
def listing (texts : List Text) : Value := .list (texts.map fun t => .scalar (.string t))

/-- Compiler options that name an output file: one member says so among any others, or it is the
only element of a list. -/
inductive NamesOutput (outFile : Text) : Value → Prop where
  | object {ms} :
      (ms.filter fun m => m.1 = outFileKey) = [(outFileKey, .scalar (.string outFile))] →
      NamesOutput outFile (.object ms)
  | list : NamesOutput outFile (.list [.scalar (.string outFile)])

/-- A manifest that says this: two members among any others, or the two elements of a list. -/
inductive Says (w : Written) : Value → Prop where
  | object {ms options} : (ms.filter fun m => m.1 = optionsKey) = [(optionsKey, options)] →
      NamesOutput w.outFile options →
      (ms.filter fun m => m.1 = filesKey) = [(filesKey, listing w.files)] → Says w (.object ms)
  | list {options} : NamesOutput w.outFile options → Says w (.list [options, listing w.files])

variable {α : Type} {v : Value} {w : Written} {text outFile : Text} {ms : List (Text × Value)}

theorem text?_eq_some_iff {t : Text} : v.text? = some t ↔ v = .scalar (.string t) :=
  ⟨Value.text?_eq_some, fun same => same ▸ rfl⟩

theorem all?_eq_some_iff {texts : List Text} :
    v.all? Value.text? = some texts ↔ v = listing texts := by
  have lists : ∀ vs : List Value, vs.mapM Value.text? = some texts ↔
      vs = texts.map fun t => .scalar (.string t) := by
    intro vs
    induction vs generalizing texts with
    | nil => cases texts <;> simp
    | cons v vs ih =>
      cases texts with
      | nil =>
        simp only [List.mapM_cons, List.map_nil, reduceCtorEq, iff_false]
        intro found
        obtain ⟨t, -, found⟩ := Option.bind_eq_some_iff.mp found
        obtain ⟨others, -, same⟩ := Option.bind_eq_some_iff.mp found
        cases same
      | cons t texts => simp [List.mapM_cons, Option.bind_eq_some_iff, text?_eq_some_iff, ih]
  cases v with
  | list vs => simpa [Value.all?, listing] using lists vs
  | scalar s => simp [Value.all?, listing]
  | object ms => simp [Value.all?, listing]

theorem outFile?_eq_some_iff : outFile? v = some outFile ↔ NamesOutput outFile v := by
  constructor
  · intro found
    unfold outFile? at found
    split at found
    · obtain ⟨value, alone, text⟩ := Option.bind_eq_some_iff.mp found
      obtain rfl := text?_eq_some_iff.mp text
      exact .object (only?_eq_some_iff.mp alone)
    · obtain rfl := text?_eq_some_iff.mp found
      exact .list
    · cases found
  · intro named
    cases named with
    | object alone => rw [outFile?, only?_eq_some_iff.mpr alone]; rfl
    | list => rfl

theorem written?_eq_some_iff : written? v = some w ↔ Says w v := by
  constructor
  · intro found
    unfold written? at found
    split at found
    · obtain ⟨outFile, options, found⟩ := Option.bind_eq_some_iff.mp found
      obtain ⟨files, listed, rfl⟩ := Option.map_eq_some_iff.mp found
      obtain ⟨value, alone, named⟩ := Option.bind_eq_some_iff.mp options
      obtain ⟨value', alone', texts⟩ := Option.bind_eq_some_iff.mp listed
      obtain rfl := all?_eq_some_iff.mp texts
      exact .object (only?_eq_some_iff.mp alone) (outFile?_eq_some_iff.mp named)
        (only?_eq_some_iff.mp alone')
    · obtain ⟨outFile, named, found⟩ := Option.bind_eq_some_iff.mp found
      obtain ⟨files, texts, rfl⟩ := Option.map_eq_some_iff.mp found
      obtain rfl := all?_eq_some_iff.mp texts
      exact .list (outFile?_eq_some_iff.mp named)
    · cases found
  · intro said
    have listed : (listing w.files).all? Value.text? = some w.files := all?_eq_some_iff.mpr rfl
    cases said with
    | object options named files =>
      rw [written?, only?_eq_some_iff.mpr options, only?_eq_some_iff.mpr files]
      simp only [Option.bind_some, outFile?_eq_some_iff.mpr named, listed, Option.map_some]
    | list named =>
      simp only [written?, outFile?_eq_some_iff.mpr named, listed, Option.bind_some,
        Option.map_some]

/-- Reading into a slot whose key it is, or leaving it. -/
theorem fill_means {read : Text → Except Fault (α × Text)} {meaning : Value → Option α}
    (reads : ∀ v, Reads read v (meaning v)) (known key : Text) (slot : Option α) (v : Value) :
    (if key = known then
      if slot.isSome then Member.repeated
      else .read fun t => (read t).map fun (value, rest) => (some value, rest)
    else .ignored).Means v slot (fill known meaning slot (key, v)) := by
  unfold fill
  by_cases same : key = known
  · cases slot with
    | some a =>
      simp only [same, if_true, Option.isSome_some]
      exact .repeated
    | none =>
      simp only [same, if_true, Option.isSome_none, Bool.false_eq_true, if_false]
      exact .read fun more text delimited spelled => (reads v more text delimited spelled).map some
  · simp only [same, if_false]
    exact .ignored

theorem optionsObject_spelled {more : List Token}
    (spelled : Spells (memberTokens true ms ++ .mark .objectEnd :: more) text) :
    GivesInside (optionsObject text) (outFile? (.object ms)) (.mark .objectEnd :: more) := by
  have means := fun slot key v => fill_means textValue_reads outFileKey key slot v
  have inside := members_spelled means (members_fit spelled) spelled
  have asked : ∀ found : Option Text,
      (found.elim (Except.error (Cause.missingField outFileKey)) .ok).toOption = id found := by
    intro found
    cases found <;> rfl
  have checked := GivesInside.check (inside none) asked
  rw [foldlM_fill] at checked
  exact checked

theorem optionsList_spelled {vs : List Value} {more : List Token}
    (spelled : Spells (elementTokens true vs ++ .mark .listEnd :: more) text) :
    Gives (optionsList text >>= fun inside => inside.closed closeList behindList)
      (outFile? (.list vs)) more := by
  cases vs with
  | nil =>
    obtain ⟨rest, next, later⟩ := nextElement_end true spelled
    rw [optionsList, next]
    exact .fault
  | cons v vs =>
    rw [elementTokens, List.append_assoc] at spelled
    obtain ⟨mid, next, spelled⟩ := nextElement_value spelled
    have value := textValue_reads v _ mid (delimits_elements vs .listEnd more) spelled
    have inside : GivesInside (optionsList text) (v.text?.bind some)
        (elementTokens false vs ++ .mark .listEnd :: more) := by
      rw [optionsList, next]
      exact value.bindInside fun a rest later => .value later
    rw [Option.bind_fun_some] at inside
    have closed := inside.closed_list vs
    cases vs with
    | nil => exact closed
    | cons => exact closed

theorem optionsValue_reads (v : Value) : Reads optionsValue v (outFile? v) :=
  recordValue_reads (fun _ => rfl) (fun _ _ _ => optionsObject_spelled)
    (fun _ _ _ => optionsList_spelled) v

theorem filesValue_reads (v : Value) : Reads filesValue v (v.all? Value.text?) :=
  listValue_reads textValue_reads v

/-- A member goes into the slot of its key. -/
def place (fields : Fields) (m : Text × Value) : Option Fields :=
  (fill optionsKey outFile? fields.outFile m).bind fun outFile =>
    (fill filesKey (Value.all? Value.text?) fields.files m).map fun files => ⟨outFile, files⟩

theorem manifestMember_means (fields : Fields) (key : Text) (v : Value) :
    (manifestMember fields key).Means v fields (place fields (key, v)) := by
  have apart : optionsKey ≠ filesKey := by decide
  obtain ⟨outFile, files⟩ := fields
  unfold manifestMember place fill
  by_cases options : key = optionsKey
  · subst options
    cases outFile with
    | some outFile =>
      simp only [if_true, Option.isSome_some, Option.bind_none]
      exact .repeated
    | none =>
      simp only [if_true, apart, if_false, Option.isSome_none, Bool.false_eq_true, Option.map_some]
      have meant : ((outFile? v).map some).bind (fun outFile => some (⟨outFile, files⟩ : Fields)) =
          (outFile? v).map fun value => ⟨some value, files⟩ := by
        cases outFile? v <;> rfl
      rw [meant]
      exact .read fun more text delimited spelled =>
        (optionsValue_reads v more text delimited spelled).map fun value =>
          Fields.mk (some value) files
  · by_cases listed : key = filesKey
    · subst listed
      cases files with
      | some files =>
        simp only [options, if_true, if_false, Option.isSome_some, Option.map_none,
          Option.bind_some]
        exact .repeated
      | none =>
        simp only [options, if_true, if_false, Option.isSome_none, Bool.false_eq_true,
          Option.bind_some]
        rw [Option.map_map]
        exact .read fun more text delimited spelled =>
          (filesValue_reads v more text delimited spelled).map fun value =>
            Fields.mk outFile (some value)
    · simp only [options, listed, if_false, Option.bind_some, Option.map_some]
      exact .ignored

/-- The two slots are filled independently of each other. -/
theorem foldlM_place (fields : Fields) (ms : List (Text × Value)) :
    ms.foldlM place fields =
      (ms.foldlM (fill optionsKey outFile?) fields.outFile).bind fun outFile =>
        (ms.foldlM (fill filesKey (Value.all? Value.text?)) fields.files).map fun files =>
          ⟨outFile, files⟩ := by
  induction ms generalizing fields with
  | nil => rfl
  | cons m ms ih =>
    simp only [List.foldlM_cons, place, Option.bind_eq_bind]
    cases fill optionsKey outFile? fields.outFile m with
    | none => rfl
    | some outFile =>
      cases fill filesKey (Value.all? Value.text?) fields.files m with
      | none => simp
      | some files => simp [ih]

theorem manifestObject_spelled {more : List Token}
    (spelled : Spells (memberTokens true ms ++ .mark .objectEnd :: more) text) :
    GivesInside (manifestObject text) (written? (.object ms)) (.mark .objectEnd :: more) := by
  have inside := members_spelled manifestMember_means (members_fit spelled) spelled
  have complete : ∀ fields : Fields, fields.complete.toOption =
      fields.outFile.bind fun outFile => fields.files.map fun files => ⟨outFile, files⟩ := by
    rintro ⟨_ | outFile, _ | files⟩ <;> rfl
  have checked := GivesInside.check (inside ⟨none, none⟩) complete
  have meant : written? (.object ms) = (ms.foldlM place ⟨none, none⟩).bind fun fields =>
      fields.outFile.bind fun outFile => fields.files.map fun files => ⟨outFile, files⟩ := by
    rw [written?, ← foldlM_fill, ← foldlM_fill, foldlM_place]
    generalize ms.foldlM (fill optionsKey outFile?) none = outFile
    generalize ms.foldlM (fill filesKey (Value.all? Value.text?)) none = files
    obtain _ | _ | outFile := outFile <;> obtain _ | _ | files := files <;> rfl
  rw [meant]
  exact checked

theorem manifestList_spelled {vs : List Value} {more : List Token}
    (spelled : Spells (elementTokens true vs ++ .mark .listEnd :: more) text) :
    Gives (manifestList text >>= fun inside => inside.closed closeList behindList)
      (written? (.list vs)) more := by
  cases vs with
  | nil =>
    obtain ⟨rest, next, later⟩ := nextElement_end true spelled
    rw [manifestList, next]
    exact .fault
  | cons options vs =>
    rw [elementTokens, List.append_assoc] at spelled
    obtain ⟨mid, next, spelled⟩ := nextElement_value spelled
    have first := optionsValue_reads options _ mid (delimits_elements vs .listEnd more) spelled
    cases vs with
    | nil =>
      have inside : GivesInside (manifestList text)
          ((outFile? options).bind fun _ => (none : Option Written)) (.mark .listEnd :: more) := by
        rw [manifestList, next]
        refine first.bindInside fun outFile rest spelled => ?_
        obtain ⟨mid', next', later⟩ := nextElement_end false spelled
        simp only [next', bind, Except.bind]
        exact .flaw
      rw [Option.bind_fun_none] at inside
      exact inside.closed_list []
    | cons files vs =>
      have inside : GivesInside (manifestList text)
          ((outFile? options).bind fun outFile => (files.all? Value.text?).map fun files =>
            ⟨outFile, files⟩) (elementTokens false vs ++ .mark .listEnd :: more) := by
        rw [manifestList, next]
        refine first.bindInside fun outFile rest spelled => ?_
        rw [elementTokens, List.append_assoc] at spelled
        obtain ⟨mid', next', spelled⟩ := nextElement_value spelled
        have second := filesValue_reads files _ mid' (delimits_elements vs .listEnd more) spelled
        simp only [next', bind, Except.bind]
        rw [Option.map_eq_bind]
        exact second.bindInside fun files rest later => .value later
      have closed := inside.closed_list vs
      cases vs with
      | nil => exact closed
      | cons => exact closed

theorem ofText_writes (writes : v.Writes text) : (Written.ofText text).toOption = written? v :=
  document_spelled (recordValue_reads (fun _ => rfl) (fun _ _ _ => manifestObject_spelled)
    (fun _ _ _ => manifestList_spelled) v) writes

/-- Parsing a text gives what the value that it writes says, and fails if the value says
nothing. -/
theorem parse_writes_iff {files : Files} {p path : Path} (located : files.absolute p = .ok path)
    (writes : v.Writes text) :
    (∀ manifest, parse files p text = .ok manifest ↔
      ∃ outFile listed, Says ⟨outFile, listed⟩ v ∧
        manifest = ⟨path, (path.dir.join ⟨outFile⟩).normalize,
          listed.map fun file => (path.dir.join ⟨file⟩).normalize⟩) ∧
    ((∀ w, ¬ Says w v) →
      ∃ complaint, parse files p text = .error (.manifestParse path complaint)) := by
  have read := ofText_writes writes
  cases found : Written.ofText text with
  | ok w =>
    rw [found] at read
    have said : Says w v := written?_eq_some_iff.mp read.symm
    have parsed : parse files p text = .ok (ofWritten path w) := by
      simp only [parse, located, found, Except.mapError, bind, Except.bind]
    refine ⟨fun manifest => ?_, fun silent => absurd said (silent w)⟩
    rw [parsed]
    constructor
    · intro same
      exact ⟨w.outFile, w.files, said, (Except.ok.inj same).symm⟩
    · rintro ⟨outFile, listed, said', rfl⟩
      obtain rfl : w = ⟨outFile, listed⟩ :=
        Option.some.inj (read.trans (written?_eq_some_iff.mpr said'))
      rfl
  | error fault =>
    rw [found] at read
    have silent : ∀ w, ¬ Says w v := by
      intro w said
      have meant := read.trans (written?_eq_some_iff.mpr said)
      cases meant
    have parsed : parse files p text = .error (.manifestParse path (fault.located text)) := by
      simp only [parse, located, found, Except.mapError, bind, Except.bind]
    refine ⟨fun manifest => ?_, fun _ => ⟨_, parsed⟩⟩
    rw [parsed]
    constructor
    · intro same
      cases same
    · rintro ⟨outFile, listed, said, -⟩
      exact absurd said (silent _)

/-- Three members, one of them unknown. -/
def smallValue : Value :=
  .object [(['x'], .list []), (filesKey, listing [['a']]),
    (optionsKey, .list [.scalar (.string ['o'])])]

def smallText : Text :=
  "\x7b\"x\":[],\"files\": [\"\\u0061\"],\"compilerOptions\":[\"o\"]\x7d".toList

theorem smallText_writes : smallValue.Writes smallText := by
  have tokens : smallValue.tokens = [.mark .objectStart,
      .scalar (.string ['x']), .mark .colon, .mark .listStart, .mark .listEnd, .mark .comma,
      .scalar (.string filesKey), .mark .colon, .mark .listStart, .scalar (.string ['a']),
      .mark .listEnd, .mark .comma,
      .scalar (.string optionsKey), .mark .colon, .mark .listStart, .scalar (.string ['o']),
      .mark .listEnd, .mark .objectEnd] := rfl
  have cut : smallText = '\x7b' ::
      '"' :: (['x'] ++ '"' :: ':' :: '[' :: ']' :: ',' ::
      '"' :: (filesKey ++ '"' :: ':' :: ([' '] ++ ['['] ++
        '"' :: (['\\', 'u', '0', '0', '6', '1'] ++ '"' :: ']' :: ',' ::
      '"' :: (optionsKey ++ '"' :: ':' :: '[' :: '"' :: (['o'] ++ '"' :: ']' :: '\x7d' :: [])))))) := by
    decide
  have escape : Escaped ['a'] ['\\', 'u', '0', '0', '6', '1'] :=
    .unit ⟨by decide, by decide, by decide, by decide⟩ .nil
  rw [Value.Writes, tokens, cut]
  refine .of_mark (.of_string (escaped_plain (by decide)) ?_)
  refine .of_mark (.of_mark (.of_mark (.of_mark ?_)))
  refine .of_string (escaped_plain (by decide)) (.of_mark (.next (by simp [isSpace]) rfl ?_))
  refine .of_string escape (.of_mark (.of_mark ?_))
  refine .of_string (escaped_plain (by decide)) (.of_mark (.of_mark ?_))
  exact .of_string (escaped_plain (by decide)) (.of_mark (.of_mark (.done (by simp))))

theorem smallText_parsed :
    (Files.ofTexts []).absolute ⟨"/p/c".toList⟩ = .ok ⟨"/p/c".toList⟩ ∧
      smallValue.Writes smallText ∧
      parse (Files.ofTexts []) ⟨"/p/c".toList⟩ smallText =
        .ok ⟨⟨"/p/c".toList⟩, ⟨"/p/o".toList⟩, [⟨"/p/a".toList⟩]⟩ := by
  have located : (Files.ofTexts []).absolute ⟨"/p/c".toList⟩ = .ok ⟨"/p/c".toList⟩ := by rfl
  have said : Says ⟨['o'], [['a']]⟩ smallValue := .object rfl .list rfl
  have parsed := (parse_writes_iff located smallText_writes).1
  exact ⟨located, smallText_writes, (parsed _).mpr ⟨_, _, said, by decide⟩⟩

end Manifest
end TripleSlash
