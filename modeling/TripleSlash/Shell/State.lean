import TripleSlash.Child
import TripleSlash.Machine
import TripleSlash.Shell.Arithmetic
import TripleSlash.Shell.Fields
import TripleSlash.Text.Octets

/-! What a running script has at hand: the machine, its parameters, its open files, and how
it goes on. All texts hold one character for each byte. -/
namespace TripleSlash.Shell

/-- Something that is open, shared by all the numbers that stand for it. -/
inductive Opened where
  | nothing
  /-- What was written and not read yet. -/
  | queue (bytes : Bytes)
  | file (place : Location) (position : Nat) (appends : Bool)
deriving DecidableEq, Repr

structure Variable where
  value : Option Text
  exported : Bool
  fixed : Bool
deriving DecidableEq, Repr

/-- Why a script does not go on with the next command. -/
inductive Flow where
  | leaving (loops : Nat)
  | repeating (loops : Nat)
  | returning
  | exiting
  /-- A command gave up with a complaint. -/
  | failed
  | killed (signal : Nat)
deriving DecidableEq, Repr

structure State where
  machine : Machine
  opened : Array Opened
  /-- The numbers of open files and what they stand for. -/
  numbers : List (Nat × Nat)
  /-- The name that the script was started by. -/
  script : Text
  /-- The built-in command that is running, which complaints name. -/
  command : Option Text
  line : Nat
  arguments : List Text
  named : List (Text × Variable)
  functions : List (Text × Command)
  /-- The letters of the options that are set. -/
  options : List Char
  status : Nat
  /-- The status of the last command whose output was put in place. -/
  captured : Nat
  /-- How many loops are around the current command. -/
  loops : Nat
  /-- For each function that is running what its own variables hide. -/
  hidden : List (List (Text × Option Variable))
  /-- What is done when the script ends, as signal zero, and on signals. -/
  traps : List (Nat × Text)
  /-- Signals that came and whose commands did not run yet. -/
  due : List Nat
  /-- The status that the script had when it began to end. -/
  last : Option Nat
  /-- The commands that were sent to the background, by their process numbers. -/
  jobs : List (Nat × Nat)
  /-- How far the current option argument was read. -/
  letters : Nat

abbrev Run := ExceptT Flow (StateM State)

namespace State

/-- The number of the process, which every script finds to be its own. -/
def processNumber : Nat := 4242

def standardPath : Text := "/usr/bin:/bin".toList

/-- The numbers for input, output and complaints. -/
def standardNumbers : List (Nat × Nat) := [(0, 0), (1, 1), (2, 2)]

/-- A state in which nothing has run yet. -/
def start (m : Machine) : State :=
  { machine := m, opened := #[.nothing, .queue [], .queue []], numbers := standardNumbers
    script := [], command := none, line := 0, arguments := []
    named := (("PWD".toList, (Machine.place m.cwd).text) :: m.environment.filter fun e =>
      e.1 ≠ "PWD".toList).map fun (name, value) =>
        (Octets.ofText name, ⟨some (Octets.ofText value), true, false⟩)
    functions := [], options := [], status := 0, captured := 0, loops := 0, hidden := []
    traps := [], due := [], last := none, jobs := [], letters := 0 }

def valueOf? (s : State) (name : Text) : Option Text := (s.named.lookup name).bind (·.value)

/-- The directories that programs are searched in. -/
def directories (s : State) : List Text :=
  Text.splitAt ':' ((s.valueOf? "PATH".toList).getD standardPath)

def environment (s : State) : List (Text × Text) :=
  s.named.filterMap fun (name, v) => if v.exported then v.value.map (name, ·) else none

def keepVariable (s : State) (name : Text) (v : Option Variable) : State :=
  let others := s.named.filter (·.1 ≠ name)
  { s with named := match v with
    | some v => others ++ [(name, v)]
    | none => others }

def assign (s : State) (name value : Text) : State :=
  let old := (s.named.lookup name).getD ⟨none, s.options.contains 'a', false⟩
  s.keepVariable name (some { old with value := some value })

def opened? (s : State) (number : Nat) : Option Opened :=
  (s.numbers.lookup number).bind (s.opened[·]?)

def bytesAt (s : State) (place : Location) : Bytes :=
  match s.machine.tree.find? place with
  | some (.file bytes _) => bytes
  | _ => []

/-- Writes bytes to what a number stands for. -/
def emit (s : State) (number : Nat) (bytes : Bytes) : State :=
  match s.numbers.lookup number with
  | none => s
  | some index =>
    match s.opened[index]? with
    | some (.queue old) => { s with opened := s.opened.set! index (.queue (old ++ bytes)) }
    | some (.file place position appends) =>
      match s.machine.tree.find? place with
      | some (.file old executable) =>
        let offset := if appends then old.length else position
        let gap := List.replicate (offset - old.length) 0
        let new := old.take offset ++ gap ++ bytes ++ old.drop (offset + bytes.length)
        let tree := if bytes = [] then s.machine.tree
          else s.machine.tree.put place (.file new executable)
        { s with
          machine := { s.machine with tree }
          opened := s.opened.set! index (.file place (offset + bytes.length) appends) }
      | _ => s
    | _ => s

/-- What can still be read from what a number stands for. -/
def pending (s : State) (number : Nat) : Bytes :=
  match s.opened? number with
  | some (.queue bytes) => bytes
  | some (.file place position _) => (s.bytesAt place).drop position
  | _ => []

/-- Leaves so many bytes to be read. -/
def leave (s : State) (number : Nat) (rest : Bytes) : State :=
  match s.numbers.lookup number with
  | none => s
  | some index =>
    match s.opened[index]? with
    | some (.queue _) => { s with opened := s.opened.set! index (.queue rest) }
    | some (.file place position appends) =>
      let left := ((s.bytesAt place).drop position).length
      let position := position + (left - rest.length)
      { s with opened := s.opened.set! index (.file place position appends) }
    | _ => s

/-- Lets a number stand for something new. -/
def bind (s : State) (number : Nat) (o : Opened) : State :=
  { s with
    opened := s.opened.push o
    numbers := (number, s.opened.size) :: s.numbers.filter (·.1 ≠ number) }

/-- The separators of fields. -/
def separators (s : State) : Text :=
  match s.named.lookup "IFS".toList with
  | some ⟨some t, _, _⟩ => t
  | _ => [' ', '\t', '\n']

/-- The values of a parameter, if it is set: the arguments one by one for those that mean
them all. -/
def parameter? (s : State) (name : Text) : Option (List Text) :=
  match name with
  | ['@'] | ['*'] => if s.arguments = [] then none else some s.arguments
  | ['#'] => some [Text.ofNat s.arguments.length]
  | ['?'] => some [Text.ofNat s.status]
  | ['$'] => some [Text.ofNat processNumber]
  | ['!'] => s.jobs.head?.map fun (number, _) => [Text.ofNat number]
  | ['-'] => some [s.options]
  | ['0'] => some [s.script]
  | _ =>
    if name.all Char.isDigit then
      (s.arguments[(String.ofList name).toNat?.getD 0 - 1]?).map fun t => [t]
    else (s.valueOf? name).map fun t => [t]

def path (t : Text) : Path := ⟨Octets.toText t⟩

end State

namespace Run

def say (t : Text) : Run Unit := modify (·.emit 1 (Octets.toBytes t))

def complain (t : Text) : Run Unit := modify (·.emit 2 (Octets.toBytes (t ++ ['\n'])))

/-- A complaint that names the script, a line, and the built-in command that is running. -/
def report (line : Nat) (t : Text) : Run Unit := do
  let s ← get
  let command := (s.command.map (· ++ ": ".toList)).getD []
  complain (s.script ++ ": ".toList ++ Text.ofNat line ++ ": ".toList ++ command ++ t)

def warn (t : Text) : Run Unit := do report (← get).line t

/-- Gives a command up with a complaint. -/
def fail {α : Type} (t : Text) : Run α := do
  warn t
  modify fun s => { s with status := 2 }
  throw .failed

def finish (status : Nat) : Run Unit := modify fun s => { s with status }

/-- Acts, and then lets the state be mended, however the action ended. -/
def mending {α : Type} (mend : State → State) (act : Run α) : Run α := fun s =>
  let (result, s) := act s
  (result, mend s)

/-- What an action does to a state, and how it ended. -/
def catching (act : Run Unit) : Run (Option Flow) := fun s =>
  match act s with
  | (.ok (), s) => (.ok none, s)
  | (.error flow, s) => (.ok (some flow), s)

/-- Sets a variable, unless it is fixed. -/
def assign (name value : Text) : Run Unit := do
  if ((← get).named.lookup name).any (·.fixed) then fail (name ++ ": is read only".toList)
  modify (·.assign name value)

def separatorsForJoin (s : State) : Text :=
  match s.named.lookup "IFS".toList with
  | some ⟨some t, _, _⟩ => t.take 1
  | _ => [' ']

end Run
end TripleSlash.Shell
