import TripleSlash.Json.Scalar

/-! Passing over a JSON value of any depth. The brackets that are still open are kept on a
stack, and every round takes at least one character. -/
namespace TripleSlash.Json

inductive Bracket where
  | list
  | object
deriving DecidableEq, Repr

/-- Passes over a value that is no list and no object. -/
def skipScalar : Text → Except Fault Text
  | 'n' :: rest => literal "ull".toList rest
  | 't' :: rest => literal "rue".toList rest
  | 'f' :: rest => literal "alse".toList rest
  | '"' :: rest => skipString rest
  | '-' :: rest => skipNumber rest
  | c :: rest =>
    if c.isDigit then skipNumber (c :: rest) else ahead .expectedValue (c :: rest)
  | [] => here .endInValue []

/-- Passes over a key and its colon. -/
def skipKey (t : Text) : Except Fault Text := do
  match blanks t with
  | [] => here .endInObject []
  | '"' :: rest =>
    match blanks (← skipString rest) with
    | [] => here .endInObject []
    | ':' :: rest => .ok rest
    | rest => ahead .expectedColon rest
  | rest => ahead .keyNotString rest

/-- What the next characters are for. -/
inductive Turn where
  | value
  | separator
deriving DecidableEq, Repr

/-- One round: the rest of the text, the open brackets and the next turn. -/
def skipRound (turn : Turn) (stack : List Bracket) (t : Text) :
    Except Fault (Turn × List Bracket × Text) := do
  match turn with
  | .value =>
    match blanks t with
    | [] => here .endInValue []
    | '[' :: rest =>
      match blanks rest with
      | [] => here .endInList []
      | ']' :: rest => .ok (.separator, stack, rest)
      | rest => .ok (.value, .list :: stack, rest)
    | '\x7b' :: rest =>
      match blanks rest with
      | [] => here .endInObject []
      | '\x7d' :: rest => .ok (.separator, stack, rest)
      | rest => .ok (.value, .object :: stack, ← skipKey rest)
    | rest => .ok (.separator, stack, ← skipScalar rest)
  | .separator =>
    match stack, blanks t with
    | [], _ => .ok (.separator, [], t)
    | .list :: _, [] => here .endInList []
    | .object :: _, [] => here .endInObject []
    | .list :: stack, ',' :: rest => .ok (.value, .list :: stack, rest)
    | .object :: stack, ',' :: rest => .ok (.value, .object :: stack, ← skipKey rest)
    | .list :: stack, ']' :: rest => .ok (.separator, stack, rest)
    | .object :: stack, '\x7d' :: rest => .ok (.separator, stack, rest)
    | .list :: _, rest => ahead .expectedListEnd rest
    | .object :: _, rest => ahead .expectedObjectEnd rest

/-- Rounds until no bracket is open. -/
def skipRounds : Nat → Turn → List Bracket → Text → Except Fault Text
  | 0, _, _, t => .ok t
  | rounds + 1, turn, stack, t =>
    if turn = .separator ∧ stack = [] then .ok t
    else do
      let (turn, stack, t) ← skipRound turn stack t
      skipRounds rounds turn stack t

/-- Passes over a value. A round takes a character, so there are no more of them than
characters. -/
def skipValue (t : Text) : Except Fault Text := skipRounds (t.length + 1) .value [] t

end TripleSlash.Json
