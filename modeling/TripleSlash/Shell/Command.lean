import TripleSlash.Text

/-! Commands of shell scripts and the words they consist of. A word is a run of pieces, each
plain text or something that is put in its place when the command is run, and each piece
knows whether it was quoted, which keeps it in one field and its characters out of patterns. -/
namespace TripleSlash.Shell

/-- What stands for a parameter. Where a form is about the parameter being unset, `empty` says
whether an empty value counts as that. -/
inductive Form where
  | value
  | length
  /-- A word, where the parameter is unset. -/
  | fallback (empty : Bool)
  /-- A word that the parameter is set to, where it is unset. -/
  | assign (empty : Bool)
  /-- A complaint, where the parameter is unset. -/
  | demand (empty : Bool)
  /-- A word, where the parameter is set. -/
  | alternative (empty : Bool)
  /-- The value without what fits a pattern at one of its ends. -/
  | trim (atEnd longest : Bool)
  /-- What no shell understands. -/
  | broken
deriving DecidableEq, Repr

/-- What a redirection does with its target. -/
inductive Direction where
  | create
  /-- Makes a new file even where an old one is protected. -/
  | replace
  | append
  | read
  /-- Stands for another open file. -/
  | share
  /-- The target is itself what is read. -/
  | document
deriving DecidableEq, Repr

mutual

inductive Piece where
  | text (text : Text) (quoted : Bool)
  | parameter (name : Text) (form : Form) (word : List Piece) (quoted : Bool)
  /-- The output of a command. -/
  | output (command : Command) (quoted : Bool)
  | arithmetic (word : List Piece) (quoted : Bool)

inductive Redirect where
  | mk (number : Nat) (direction : Direction) (target : List Piece)

/-- A command. The lines are those that its messages name. -/
inductive Command where
  | nothing
  | simple (line : Nat) (assignments : List (Text × List Piece)) (words : List (List Piece))
      (redirects : List Redirect)
  | sequence (first next : Command)
  | both (first next : Command)
  | either (first next : Command)
  | negate (command : Command)
  | pipe (first next : Command)
  | background (command : Command)
  /-- What the command changes, files apart, is forgotten afterwards. -/
  | apart (command : Command)
  | branch (condition consequence alternative : Command)
  | loop (negated : Bool) (condition body : Command)
  /-- Without a list of words the arguments are gone through. -/
  | each (line : Nat) (name : Text) (words : Option (List (List Piece))) (body : Command)
  | choose (line : Nat) (subject : List Piece) (arms : List (List (List Piece) × Command))
  | define (name : Text) (body : Command)
  | redirected (line : Nat) (command : Command) (redirects : List Redirect)

end

abbrev Word := List Piece

namespace Word

/-- The text of a word that is nothing but plain text without quotes. -/
def bare? : Word → Option Text
  | [.text text false] => some text
  | _ => none

/-- The text of a word without its quotes, and whether it had any. What would be put in place
is spelled out no further. -/
def unquoted (w : Word) : Text × Bool :=
  w.foldl (fun (text, any) piece => match piece with
    | .text more quoted => (text ++ more, any || quoted)
    | .parameter name _ _ _ => (text ++ '$' :: name, any)
    | _ => (text, any)) ([], false)

end Word

def isNameStart (c : Char) : Bool := c.isAlpha || c == '_'

def isNameRest (c : Char) : Bool := c.isAlphanum || c == '_'

def isName (t : Text) : Bool := (t.head?.map isNameStart).getD false && t.all isNameRest

/-- The name and value of a word that assigns. -/
def Word.assignment? : Word → Option (Text × Word)
  | .text text false :: more =>
    let name := text.takeWhile isNameRest
    match text.dropWhile isNameRest with
    | '=' :: value =>
      if isName name then some (name, if value = [] then more else .text value false :: more)
      else none
    | _ => none
  | _ => none

/-- The built-in commands whose errors end a script. -/
def special : List String :=
  [":", ".", "break", "continue", "eval", "exec", "exit", "export", "readonly", "return", "set",
    "shift", "times", "trap", "unset"]

end TripleSlash.Shell
