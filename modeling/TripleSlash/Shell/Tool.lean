import TripleSlash.Machine
import TripleSlash.Shell.Arithmetic
import TripleSlash.Text.Octets

/-! Tools, the programs that every machine has for its files and for texts. A tool acts on the
machine, takes what it needs of its input, says things and complains, and ends with a status.
All texts hold one character for each byte. -/
namespace TripleSlash.Shell

/-- A tool at work. -/
structure Work where
  /-- The name by which the tool was called. -/
  name : Text
  machine : Machine
  environment : List (Text × Text)
  /-- What is left of the input. -/
  input : Text
  /-- What was said so far, the last first, and whether as a complaint. -/
  said : List (Bool × Text)
  status : Nat

abbrev Tool := StateM Work

namespace Tool

def say (t : Text) : Tool Unit := modify fun w => { w with said := (false, t) :: w.said }

def sayLine (t : Text) : Tool Unit := say (t ++ ['\n'])

/-- Says something as a complaint. -/
def mention (t : Text) : Tool Unit :=
  modify fun w => { w with said := (true, t ++ ['\n']) :: w.said }

/-- A complaint that starts with the name of the tool. -/
def complain (t : Text) : Tool Unit := do
  mention ((← get).name ++ ": ".toList ++ t)

def finish (status : Nat) : Tool Unit := modify fun w => { w with status }

/-- A complaint with which a tool does not end well. -/
def fail (status : Nat) (t : Text) : Tool Unit := do
  complain t
  finish status

def path (t : Text) : Path := ⟨Octets.toText t⟩

def ofPath (p : Path) : Text := Octets.ofText p.text

def quoted (t : Text) : Text := '\'' :: t ++ ['\'']

/-- The words for what is wrong with a file, without its number. -/
def problem (cause : IoError) : Text :=
  let words := cause.message.takeWhile (· ≠ '(')
  if words.getLast? = some ' ' then words.dropLast else words

/-- The options of a command, each with its value, and its other words. -/
structure Options where
  flags : List (Char × Text)
  words : List Text

namespace Options

def has (o : Options) (flag : Char) : Bool := o.flags.any (·.1 == flag)

/-- The value of an option that was given last. -/
def value? (o : Options) (flag : Char) : Option Text := o.flags.reverse.lookup flag

end Options

/-- What options a command knows: those without and those with a value, and the long names
of some. -/
structure Known where
  plain : String
  valued : String
  long : List (String × Char)

/-- The letters of one word; a value is the rest of it or the next word. -/
def letters (k : Known) (o : Options) : Text → List Text → Except Text (Options × List Text)
  | [], rest => .ok (o, rest)
  | c :: more, rest =>
    if k.valued.toList.contains c then
      if more ≠ [] then .ok ({ o with flags := o.flags ++ [(c, more)] }, rest)
      else match rest with
        | value :: rest => .ok ({ o with flags := o.flags ++ [(c, value)] }, rest)
        | [] => .error ("option requires an argument -- ".toList ++ quoted [c])
    else if k.plain.toList.contains c then
      letters k { o with flags := o.flags ++ [(c, [])] } more rest
    else .error ("invalid option -- ".toList ++ quoted [c])

/-- Reads the options of a command. Where it `stops`, what follows the first other word belongs
to the command that this word names. -/
def options (k : Known) (stops : Bool) : Nat → Options → List Text → Except Text Options
  | 0, o, _ => .ok o
  | fuel + 1, o, words =>
    match words with
    | [] => .ok o
    | ['-', '-'] :: rest => .ok { o with words := o.words ++ rest }
    | ('-' :: '-' :: name) :: rest =>
      let bare := name.takeWhile (· ≠ '=')
      let value? := (name.drop bare.length).tail?
      match k.long.lookup (String.ofList bare) with
      | none => .error ("unrecognized option ".toList ++ quoted ('-' :: '-' :: name))
      | some c =>
        if k.valued.toList.contains c ∧ value?.isNone then
          match rest with
          | value :: rest => options k stops fuel { o with flags := o.flags ++ [(c, value)] } rest
          | [] =>
            .error ("option ".toList ++ quoted ('-' :: '-' :: bare)
              ++ " requires an argument".toList)
        else options k stops fuel { o with flags := o.flags ++ [(c, value?.getD [])] } rest
    | ('-' :: c :: more) :: rest => do
      let (o, rest) ← letters k o (c :: more) rest
      options k stops fuel o rest
    | word :: rest =>
      if stops then .ok { o with words := o.words ++ word :: rest }
      else options k stops fuel { o with words := o.words ++ [word] } rest

/-- The words that point to the help of a tool. -/
def advice (name : Text) : Text :=
  "Try '".toList ++ name ++ " --help' for more information.".toList

/-- Points to the help of the tool, after a complaint about how it was called. -/
def advise (status : Nat) : Tool Unit := do
  mention (advice (← get).name)
  finish status

/-- Acts on the options of a command, or advises where they are wrong. -/
def reading (stops : Bool) (advise : Tool Unit) (k : Known) (words : List Text)
    (act : Options → Tool Unit) : Tool Unit :=
  match options k stops (words.length + 1) ⟨[], []⟩ words with
  | .ok o => act o
  | .error what => do
    complain what
    advise

/-- Acts on the options of a command, which may stand anywhere, unless they are wrong. -/
def withOptions (status : Nat) : Known → List Text → (Options → Tool Unit) → Tool Unit :=
  reading false (advise status)

/-- Acts on the options of a command, which stand in front, unless they are wrong. -/
def withLeadingOptions (status : Nat) : Known → List Text → (Options → Tool Unit) → Tool Unit :=
  reading true (advise status)

/-- A complaint about an operand too many. -/
def surplus (status : Nat) (word : Text) : Tool Unit := do
  complain ("extra operand ".toList ++ quoted word)
  advise status

/-- A complaint about an operand that is missing. -/
def missing (what : String) (status : Nat) : Tool Unit := do
  complain what.toList
  advise status

/-- Takes the whole input. -/
def takeInput : Tool Text := modifyGet fun w => (w.input, { w with input := [] })

/-- The bytes of a file, or the input for a dash. -/
def source (p : Text) : Tool (Except IoError Text) := do
  if p = ['-'] ∨ p = "/dev/stdin".toList then return .ok (← takeInput)
  let m := (← get).machine
  return (m.tree.readBytes m.cwd (path p)).map Octets.ofBytes

/-- The contents of the files that are there, each with its name. A file that cannot be read
is complained about. -/
def sources (status : Nat) (complaint : Text → IoError → Text) :
    List Text → Tool (List (Text × Text))
  | [] => pure []
  | p :: more => do
    match ← source p with
    | .ok t => return (p, t) :: (← sources status complaint more)
    | .error cause =>
      fail status (complaint p cause)
      sources status complaint more

/-- The contents of some files with their names, up to the first that cannot be read. -/
def sourcesUpToFault (status : Nat) (complaint : Text → IoError → Text) :
    List Text → Tool (List (Text × Text))
  | [] => pure []
  | p :: more => do
    match ← source p with
    | .ok t => return (p, t) :: (← sourcesUpToFault status complaint more)
    | .error cause =>
      fail status (complaint p cause)
      return []

/-- The words, or the input where there are none. -/
def orInput (words : List Text) : List Text := if words = [] then [['-']] else words

/-- What is wrong with a file, after its name. -/
def about (p : Text) (cause : IoError) : Text := p ++ ": ".toList ++ problem cause

/-- The lines of a text without their ends. -/
def lines (t : Text) : List Text :=
  let all := Text.splitAt '\n' t
  if all.getLast? = some [] then all.dropLast else all

def unlines (all : List Text) : Text := all.flatMap (· ++ ['\n'])

def setMachine (m : Machine) : Tool Unit := modify fun w => { w with machine := m }

def setTree (tree : FileTree) : Tool Unit :=
  modify fun w => { w with machine := { w.machine with tree } }

/-- Changes the file tree, or complains. -/
def change (complaint : Text) (r : Except IoError FileTree) : Tool Unit :=
  match r with
  | .ok tree => setTree tree
  | .error cause => fail 1 (complaint ++ ": ".toList ++ problem cause)

end Tool
end TripleSlash.Shell
