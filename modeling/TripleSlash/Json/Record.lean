import TripleSlash.Json.Number
import TripleSlash.Json.Skip

/-! Reading records: an object in which some keys mean something, or a list of the same
values in a fixed order. A record that lacks something or repeats a key is only complained
about behind its closing bracket, if that is the next character. -/
namespace TripleSlash.Json

/-- What is inside brackets: a value, or a flaw that still waits for its place, and the rest
of the text. -/
abbrev Inside (α : Type) := Except Cause α × Text

def closeObject (t : Text) : Except Fault Text :=
  match blanks t with
  | '\x7d' :: rest => .ok rest
  | ',' :: rest => ahead .trailingComma (',' :: rest)
  | [] => here .endInObject []
  | rest => ahead .trailingCharacters rest

def closeList (t : Text) : Except Fault Text :=
  match blanks t with
  | ']' :: rest => .ok rest
  | ',' :: rest =>
    match blanks rest with
    | ']' :: rest => ahead .trailingComma (']' :: rest)
    | rest => ahead .trailingCharacters rest
  | [] => here .endInList []
  | rest => ahead .trailingCharacters rest

/-- Where a flaw of an object is complained about. -/
def behindObject (t : Text) : Text :=
  match blanks t with
  | '\x7d' :: rest => rest
  | rest => rest

/-- Where a flaw of a list is complained about. -/
def behindList (t : Text) : Text :=
  match blanks t with
  | ']' :: rest => rest
  | ',' :: rest => blanks rest
  | rest => rest

def Inside.closed {α : Type} (close : Text → Except Fault Text) (behind : Text → Text)
    (inside : Inside α) : Except Fault (α × Text) := do
  match inside with
  | (.ok value, rest) => .ok (value, ← close rest)
  | (.error cause, rest) => here cause (behind rest)

/-- The next key of an object, if there is one more. -/
def nextKey (first : Bool) (t : Text) : Except Fault (Option Text × Text) := do
  match blanks t with
  | [] => here .endInObject []
  | '\x7d' :: rest => .ok (none, '\x7d' :: rest)
  | c :: rest =>
    if first then
      if c = '"' then
        let (key, rest) ← readString rest
        .ok (some key, rest)
      else ahead .keyNotString (c :: rest)
    else if c = ',' then
      match blanks rest with
      | [] => here .endInValue []
      | '"' :: rest =>
        let (key, rest) ← readString rest
        .ok (some key, rest)
      | '\x7d' :: rest => ahead .trailingComma ('\x7d' :: rest)
      | rest => ahead .keyNotString rest
    else ahead .expectedObjectEnd (c :: rest)

def colon (t : Text) : Except Fault Text :=
  match blanks t with
  | [] => here .endInObject []
  | ':' :: rest => .ok rest
  | rest => ahead .expectedColon rest

/-- Whether a list has one more element. -/
def nextElement (first : Bool) (t : Text) : Except Fault (Bool × Text) :=
  match blanks t with
  | [] => here .endInList []
  | ']' :: rest => .ok (false, ']' :: rest)
  | c :: rest =>
    if first then .ok (true, c :: rest)
    else if c = ',' then
      match blanks rest with
      | [] => here .endInValue []
      | ']' :: rest => ahead .trailingComma (']' :: rest)
      | rest => .ok (true, rest)
    else ahead .expectedListEnd (c :: rest)

/-- What a key means to a record of which some fields were read. -/
inductive Member (σ : Type) where
  | ignored
  | repeated
  | read (value : Text → Except Fault (σ × Text))

/-- Reads members up to the closing bracket. Each takes a character, so `rounds` need not
be more than there are characters. -/
def members {σ : Type} (meaning : σ → Text → Member σ) :
    Nat → Bool → σ → Text → Except Fault (Inside σ)
  | 0, _, fields, t => .ok (.ok fields, t)
  | rounds + 1, first, fields, t => do
    match ← nextKey first t with
    | (none, rest) => .ok (.ok fields, rest)
    | (some key, rest) =>
      match meaning fields key with
      | .repeated => .ok (.error (.duplicateField key), rest)
      | .ignored => members meaning rounds false fields (← skipValue (← colon rest))
      | .read value => do
        let (fields, rest) ← value (← colon rest)
        members meaning rounds false fields rest

/-- Reads elements up to the closing bracket. -/
def elements {α : Type} (element : Text → Except Fault (α × Text)) :
    Nat → Bool → Text → Except Fault (Inside (List α))
  | 0, _, t => .ok (.ok [], t)
  | rounds + 1, first, t => do
    let (more, rest) ← nextElement first t
    if more then
      let (value, rest) ← element rest
      let (values, rest) ← elements element rounds false rest
      .ok (values.map (value :: ·), rest)
    else .ok (.ok [], rest)

def textValue (t : Text) : Except Fault (Text × Text) :=
  match blanks t with
  | [] => here .endInValue []
  | '"' :: rest => readString rest
  | rest => mismatch "a string".toList rest

def listValue {α : Type} (element : Text → Except Fault (α × Text)) (t : Text) :
    Except Fault (List α × Text) := do
  match blanks t with
  | [] => here .endInValue []
  | '[' :: rest => (← elements element (rest.length + 1) true rest).closed closeList behindList
  | rest => mismatch "a sequence".toList rest

/-- Reads a record that is written as an object or as a list. -/
def recordValue {α : Type} (name : Text) (object list : Text → Except Fault (Inside α))
    (t : Text) : Except Fault (α × Text) := do
  match blanks t with
  | [] => here .endInValue []
  | '\x7b' :: rest => (← object rest).closed closeObject behindObject
  | '[' :: rest => (← list rest).closed closeList behindList
  | rest => mismatch name rest

/-- A whole text that holds one value. -/
def document {α : Type} (value : Text → Except Fault (α × Text)) (t : Text) :
    Except Fault α := do
  let (result, rest) ← value t
  match blanks rest with
  | [] => .ok result
  | rest => ahead .trailingCharacters rest

end TripleSlash.Json
