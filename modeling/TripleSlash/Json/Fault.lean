import TripleSlash.Number.Shortest
import TripleSlash.Text.Quoted
import TripleSlash.Text.Utf8

/-! What can be wrong with a JSON text and where. A fault knows how many bytes were not
taken yet when it was met; its line and column follow from that and the whole text. -/
namespace TripleSlash.Json

/-- What stands where something else is expected. -/
inductive Found where
  | null
  | boolean (value : Bool)
  | integer (value : Int)
  | floating (negative : Bool) (value : Binary64)
  | string (value : Text)
  | sequence
  | map
deriving DecidableEq, Repr

def Found.text : Found → Text
  | null => "null".toList
  | boolean true => "boolean `true`".toList
  | boolean false => "boolean `false`".toList
  | integer value => "integer `".toList ++ (toString value).toList ++ ['`']
  | floating negative value => "floating point `".toList ++ value.text negative ++ ['`']
  | string value => "string ".toList ++ value.quoted
  | sequence => "sequence".toList
  | map => "map".toList

inductive Cause where
  | endInValue
  | endInList
  | endInObject
  | endInString
  | expectedValue
  | expectedColon
  | expectedListEnd
  | expectedObjectEnd
  | expectedLiteral
  | keyNotString
  | trailingComma
  | trailingCharacters
  | invalidEscape
  | invalidNumber
  | numberOutOfRange
  | controlCharacter
  | loneSurrogate
  | endOfSurrogate
  | invalidType (found : Found) (expected : Text)
  | invalidLength (length : Nat) (expected : Text)
  | missingField (name : Text)
  | duplicateField (name : Text)
deriving DecidableEq, Repr

def Cause.message : Cause → Text
  | endInValue => "EOF while parsing a value".toList
  | endInList => "EOF while parsing a list".toList
  | endInObject => "EOF while parsing an object".toList
  | endInString => "EOF while parsing a string".toList
  | expectedValue => "expected value".toList
  | expectedColon => "expected `:`".toList
  | expectedListEnd => "expected `,` or `]`".toList
  | expectedObjectEnd => "expected `,` or `\x7d`".toList
  | expectedLiteral => "expected ident".toList
  | keyNotString => "key must be a string".toList
  | trailingComma => "trailing comma".toList
  | trailingCharacters => "trailing characters".toList
  | invalidEscape => "invalid escape".toList
  | invalidNumber => "invalid number".toList
  | numberOutOfRange => "number out of range".toList
  | controlCharacter =>
    "control character (\\u0000-\\u001F) found while parsing a string".toList
  | loneSurrogate => "lone leading surrogate in hex escape".toList
  | endOfSurrogate => "unexpected end of hex escape".toList
  | invalidType found expected =>
    "invalid type: ".toList ++ found.text ++ ", expected ".toList ++ expected
  | invalidLength length expected =>
    "invalid length ".toList ++ Text.ofNat length ++ ", expected ".toList ++ expected
  | missingField name => "missing field `".toList ++ name ++ ['`']
  | duplicateField name => "duplicate field `".toList ++ name ++ ['`']

structure Fault where
  cause : Cause
  /-- The bytes behind the place of the fault. -/
  left : Nat
deriving DecidableEq, Repr

/-- A line, from one, and the bytes of it up to the place. -/
structure Place where
  line : Nat
  column : Nat
deriving DecidableEq, Repr

def Place.advance (p : Place) (byte : UInt8) : Place :=
  if byte = 10 then ⟨p.line + 1, 0⟩ else ⟨p.line, p.column + 1⟩

def Fault.place (f : Fault) (source : Text) : Place :=
  let bytes := Utf8.encode source
  (bytes.take (bytes.length - f.left)).foldl Place.advance ⟨1, 0⟩

/-- A cause together with its place. -/
structure Complaint where
  cause : Cause
  place : Place
deriving DecidableEq, Repr

def Fault.located (f : Fault) (source : Text) : Complaint := ⟨f.cause, f.place source⟩

def Complaint.message (c : Complaint) : Text :=
  c.cause.message ++ " at line ".toList ++ Text.ofNat c.place.line
    ++ " column ".toList ++ Text.ofNat c.place.column

/-- A fault at the next byte that is not taken. -/
def here {α : Type} (cause : Cause) (rest : Text) : Except Fault α :=
  .error ⟨cause, Text.size rest⟩

/-- A fault one byte further on, or at the end of the text. -/
def ahead {α : Type} (cause : Cause) (rest : Text) : Except Fault α :=
  .error ⟨cause, Text.size rest - 1⟩

end TripleSlash.Json
