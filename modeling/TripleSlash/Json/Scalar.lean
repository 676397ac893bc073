import TripleSlash.Json.Fault

/-! Blanks, literals, strings and numbers of JSON. A string or number that means something
is read with all its rules; one that is passed over is held to its shape only. -/
namespace TripleSlash.Json

def isSpace (c : Char) : Bool := c == ' ' || c == '\n' || c == '\t' || c == '\r'

def blanks (t : Text) : Text := t.dropWhile isSpace

def digits (t : Text) : Text := t.dropWhile Char.isDigit

/-- The letters that a literal still needs. -/
def literal : Text → Text → Except Fault Text
  | [], rest => .ok rest
  | _ :: _, [] => here .endInValue []
  | a :: letters, c :: rest =>
    if a = c then literal letters rest else ahead .expectedLiteral (c :: rest)

def hex? (c : Char) : Option Nat :=
  if '0' ≤ c ∧ c ≤ '9' then some (c.toNat - 48)
  else if 'a' ≤ c ∧ c ≤ 'f' then some (c.toNat - 87)
  else if 'A' ≤ c ∧ c ≤ 'F' then some (c.toNat - 55)
  else none

def hex4? (a b c d : Char) : Option Nat := do
  let a ← hex? a
  let b ← hex? b
  let c ← hex? c
  let d ← hex? d
  some (((a * 16 + b) * 16 + c) * 16 + d)

/-- Four bytes are taken for an escape by number, whatever they are. -/
def badHex {α : Type} (rest : Text) : Except Fault α :=
  if Text.size rest < 4 then here .endInString []
  else .error ⟨.invalidEscape, Text.size rest - 4⟩

def escaped? (c : Char) : Option Char :=
  if c = '"' ∨ c = '\\' ∨ c = '/' then some c
  else if c = 'b' then some '\x08'
  else if c = 'f' then some '\x0c'
  else if c = 'n' then some '\n'
  else if c = 'r' then some '\r'
  else if c = 't' then some '\t'
  else none

def isHighSurrogate (n : Nat) : Bool := 0xD800 ≤ n && n ≤ 0xDBFF

def isLowSurrogate (n : Nat) : Bool := 0xDC00 ≤ n && n ≤ 0xDFFF

/-- What must follow a high surrogate does not. -/
def noPair {α : Type} : Text → Except Fault α
  | [] => here .endInString []
  | '\\' :: [] => here .endInString []
  | '\\' :: 'u' :: rest => badHex rest
  | '\\' :: rest => ahead .endOfSurrogate rest
  | rest => ahead .endOfSurrogate rest

/-- Reads a string behind its opening quote. -/
def readString : Text → Except Fault (Text × Text)
  | [] => here .endInString []
  | '"' :: rest => .ok ([], rest)
  | '\\' :: 'u' :: a :: b :: c :: d :: rest =>
    match hex4? a b c d with
    | none => badHex (a :: b :: c :: d :: rest)
    | some high =>
      if isLowSurrogate high then here .loneSurrogate rest
      else if isHighSurrogate high then
        match rest with
        | '\\' :: 'u' :: e :: f :: g :: h :: rest =>
          match hex4? e f g h with
          | none => badHex (e :: f :: g :: h :: rest)
          | some low =>
            if isLowSurrogate low then
              (readString rest).map fun (value, rest) =>
                (Char.ofNat (0x10000 + (high - 0xD800) * 0x400 + (low - 0xDC00)) :: value, rest)
            else here .loneSurrogate rest
        | rest => noPair rest
      else (readString rest).map fun (value, rest) => (Char.ofNat high :: value, rest)
  | '\\' :: 'u' :: rest => badHex rest
  | '\\' :: c :: rest =>
    match escaped? c with
    | none => ahead .invalidEscape (c :: rest)
    | some c => (readString rest).map fun (value, rest) => (c :: value, rest)
  | '\\' :: [] => here .endInString []
  | c :: rest =>
    if c.toNat < 0x20 then here .controlCharacter rest
    else (readString rest).map fun (value, rest) => (c :: value, rest)

/-- Passes over a string behind its opening quote. -/
def skipString : Text → Except Fault Text
  | [] => here .endInString []
  | '"' :: rest => .ok rest
  | '\\' :: 'u' :: a :: b :: c :: d :: rest =>
    if (hex4? a b c d).isSome then skipString rest else badHex (a :: b :: c :: d :: rest)
  | '\\' :: 'u' :: rest => badHex rest
  | '\\' :: c :: rest =>
    if (escaped? c).isSome then skipString rest else ahead .invalidEscape (c :: rest)
  | '\\' :: [] => here .endInString []
  | c :: rest =>
    if c.toNat < 0x20 then here .controlCharacter (c :: rest) else skipString rest

/-- Passes over an exponent behind its letter. -/
def skipExponent (t : Text) : Except Fault Text :=
  let unsigned := match t with
    | '+' :: rest | '-' :: rest => rest
    | t => t
  match unsigned with
  | c :: rest => if c.isDigit then .ok (digits rest) else ahead .invalidNumber (c :: rest)
  | [] => here .invalidNumber []

/-- Passes over what may follow the whole part of a number. -/
def skipFraction (t : Text) : Except Fault Text :=
  match t with
  | '.' :: rest =>
    if digits rest = rest then ahead .invalidNumber rest
    else match digits rest with
      | 'e' :: rest | 'E' :: rest => skipExponent rest
      | rest => .ok rest
  | 'e' :: rest | 'E' :: rest => skipExponent rest
  | rest => .ok rest

/-- Passes over a number without its sign. -/
def skipNumber : Text → Except Fault Text
  | '0' :: c :: rest =>
    if c.isDigit then ahead .invalidNumber (c :: rest) else skipFraction (c :: rest)
  | '0' :: [] => .ok []
  | c :: rest => if c.isDigit then skipFraction (digits rest) else ahead .invalidNumber (c :: rest)
  | [] => here .invalidNumber []

end TripleSlash.Json
