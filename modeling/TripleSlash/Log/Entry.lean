import TripleSlash.Event
import TripleSlash.Text.Quoted

/-! Entries of the log: which events have one, what it says, and how it is written on a line.
What a message quotes from outside cannot steer the terminal; the fields are written as they
are. -/
namespace TripleSlash.Log

inductive Level where
  | error
  | warn
  | info
  | debug
  | trace
deriving DecidableEq, Repr

namespace Level

/-- The rank of a level; each lets through the entries of those below it. -/
def rank : Level → Nat
  | error => 1
  | warn => 2
  | info => 3
  | debug => 4
  | trace => 5

def label : Level → Text
  | error => "ERROR".toList
  | warn => " WARN".toList
  | info => " INFO".toList
  | debug => "DEBUG".toList
  | trace => "TRACE".toList

end Level

structure Entry where
  level : Level
  /-- The part of the program that speaks. -/
  target : Text
  message : Text
  fields : List (Text × Text)
deriving DecidableEq, Repr

def discovery : Text := "tsasset_refs::discover".toList

def anchoring : Text := "tsasset_refs::rewrite".toList

def building : Text := "tsasset_driver::orchestrator".toList

def compiling : Text := "tsasset_driver::compiler".toList

def field (name : String) (value : Text) : Text × Text := (name.toList, value)

def entry? : Event → Option Entry
  | .walked (.known target) =>
    some ⟨.trace, discovery, "already visited".toList, [field "path" target.text]⟩
  | .walked (.found target file line) =>
    some ⟨.debug, discovery, "discovered reference".toList,
      [field "path" target.text, field "from" file.text, field "line" (Text.ofNat line)]⟩
  | .anchored file change =>
    some ⟨.debug, anchoring, "rewrote reference".toList,
      [field "file" file.text, field "from" change.raw, field "to" change.replaced]⟩
  | .compiling path args =>
    some ⟨.debug, building, "compiling source".toList,
      [field "path" path.text, field "args" (Text.quotedList args)]⟩
  | .projectStarted manifest =>
    some ⟨.info, building, "Compiling ".toList ++ manifest.text, []⟩
  | .projectWithoutOutput manifest =>
    some ⟨.warn, building, "project build produced no output file".toList,
      [field "manifest" manifest.text]⟩
  | .started program options =>
    some ⟨.debug, compiling, "running compiler".toList,
      [field "program" program.text, field "options" (Text.quotedList options)]⟩
  | .startedProject program manifest =>
    some ⟨.debug, compiling, "running project build".toList,
      [field "program" program.text, field "manifest" manifest.text]⟩
  | _ => none

namespace Entry

/-- Whether an entry has a field of a name. The message is one. -/
def has (e : Entry) (name : Text) : Bool :=
  name == "message".toList || e.fields.any fun f => f.1 == name

/-- A character of a message. Those that could steer a terminal are spelled out. -/
def messageChar (c : Char) : Text :=
  let n := c.toNat
  if n = 0x07 ∨ n = 0x08 ∨ n = 0x0C ∨ n = 0x1B ∨ n = 0x7F then
    "\\x".toList ++ (if n < 0x10 then ['0'] else []) ++ Text.hexDigits n
  else if 0x80 ≤ n ∧ n ≤ 0x9F then Text.hexEscape c
  else [c]

/-- The line of an entry, with the name of its speaker if that is asked for. -/
def line (e : Entry) (named : Bool) : Text :=
  e.level.label ++ ' ' :: (if named then e.target ++ ": ".toList else [])
    ++ e.message.flatMap messageChar
    ++ (e.fields.flatMap fun (name, value) => ' ' :: name ++ '=' :: value) ++ ['\n']

end Entry
end TripleSlash.Log
