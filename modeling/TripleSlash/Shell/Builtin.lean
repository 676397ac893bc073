import TripleSlash.Shell.Condition
import TripleSlash.Shell.Format
import TripleSlash.Shell.Signal
import TripleSlash.Shell.State

/-! The built-in commands of scripts that run no other commands. Each acts on the state and
leaves a status. -/
namespace TripleSlash.Shell.Builtin

open Run

abbrev Routine := List Text → Run Unit

/-- Takes the options of a command, each of one letter, up to the first other word. -/
def options (allowed : String) : Nat → List Text → Run (Text × List Text)
  | 0, words => pure ([], words)
  | fuel + 1, words => do
    match words with
    | ['-', '-'] :: rest => return ([], rest)
    | ('-' :: c :: letters) :: rest =>
      match (c :: letters).find? fun c => !allowed.toList.contains c with
      | some bad => fail ("Illegal option -".toList ++ [bad])
      | none =>
        let (more, rest) ← options allowed fuel rest
        return ((c :: letters) ++ more, rest)
    | _ => return ([], words)

def number (t : Text) : Run Nat := do
  let n := (Arithmetic.digits 10 t).1
  if t ≠ [] ∧ t.all Char.isDigit ∧ n ≤ 2147483647 then return n
  else fail ("Illegal number: ".toList ++ t)

def echo : Routine := fun words => do
  let quiet := words.head? = some "-n".toList
  let (text, ended) := Format.expanded (Text.joinWith ' ' (if quiet then words.tail else words))
  say (if quiet || ended then text else text ++ ['\n'])
  finish 0

def printf : Routine := fun words => do
  let (_, words) ← options "" (words.length + 1) words
  match words with
  | [] => fail "usage: printf format [arg ...]".toList
  | format :: arguments =>
    let printed := Format.print format arguments
    for c in printed.complaints do warn c
    say printed.text
    match printed.fault with
    | some what => fail what
    | none => finish (if printed.complaints = [] then 0 else 1)

def test (closes : Bool) : Routine := fun words => do
  if closes ∧ words.getLast? ≠ some [']'] then fail "missing ]".toList
  let words := if closes then words.dropLast else words
  match Condition.holds (← get).machine (words.length + 1) words with
  | .ok found => finish (if found then 0 else 1)
  | .error what => fail what

def exit : Routine := fun words => do
  let s ← get
  let code ← match words with
    | [] => pure (s.last.getD s.status)
    | t :: _ => number t
  set { s with status := code % 256, last := s.last.map fun _ => code % 256 }
  throw .exiting

def returns : Routine := fun words => do
  let s ← get
  let code ← match words with
    | [] => pure (s.last.getD s.status)
    | t :: _ => number t
  finish (code % 256)
  throw .returning

/-- Ends some of the loops around, or their current rounds. -/
def loops (flow : Nat → Flow) : Routine := fun words => do
  let n ← match words with
    | [] => pure 1
    | t :: _ =>
      let n ← number t
      if n = 0 then fail ("Illegal number: ".toList ++ t) else pure n
  finish 0
  let around := (← get).loops
  if 0 < around then throw (flow (min n around))

def shift : Routine := fun words => do
  let n ← match words with
    | [] => pure 1
    | t :: _ => number t
  let s ← get
  if s.arguments.length < n then fail "can't shift that many".toList
  set { s with arguments := s.arguments.drop n, status := 0 }

/-- A name and what is assigned to it, if anything is. -/
def assignment (t : Text) : Text × Option Text :=
  let name := t.takeWhile (· ≠ '=')
  (name, match t.drop name.length with
    | '=' :: value => some value
    | _ => none)

def checkName (name : Text) : Run Unit := do
  if !isName name then fail (name ++ ": bad variable name".toList)

/-- A text between single quotes, with those inside of it between double ones. -/
def inQuotes (t : Text) : Text :=
  let parts := Text.splitAt '\'' t
  let quoted (p : Text) : Text := if p = [] then [] else '\'' :: p ++ ['\'']
  let shown := List.intercalate "\"'\"".toList (parts.map quoted)
  if t = [] then ['\'', '\''] else shown

/-- Marks variables, after they are set where a value is given. -/
def marking (word : String) (mark : Variable → Variable) (isMarked : Variable → Bool) : Routine :=
  fun words => do
    let (letters, words) ← options "p" (words.length + 1) words
    if letters.contains 'p' || words = [] then
      let named := (← get).named.mergeSort fun a b => Text.isLe a.1 b.1
      for (name, v) in named do
        if isMarked v then
          let value := (v.value.map fun t => '=' :: inQuotes t).getD []
          say (word.toList ++ ' ' :: name ++ value ++ ['\n'])
    for t in words do
      let (name, value) := assignment t
      checkName name
      match value with
      | some value => assign name value
      | none => pure ()
      let old := ((← get).named.lookup name).getD ⟨none, false, false⟩
      modify (·.keepVariable name (some (mark old)))
    finish 0

def unset : Routine := fun words => do
  let (letters, words) ← options "vf" (words.length + 1) words
  for t in words do
    let s ← get
    if letters.contains 'f' then
      set { s with functions := s.functions.filter (·.1 ≠ t) }
    else
      let (name, _) := assignment t
      checkName name
      if (s.named.lookup name).any (·.fixed) then fail (name ++ ": is read only".toList)
      set (s.keepVariable name none)
  finish 0

/-- Lets variables be those of the function that is running. -/
def localOnes : Routine := fun words => do
  match (← get).hidden with
  | [] => fail "not in a function".toList
  | _ => pure ()
  for t in words do
    let (name, value) := assignment t
    checkName name
    modify fun s => match s.hidden with
      | frame :: more =>
        if (frame.lookup name).isSome then s
        else { s with hidden := ((name, s.named.lookup name) :: frame) :: more }
      | [] => s
    match value with
    | some value => assign name value
    | none => pure ()
  finish 0

/-- The options of a script by letter and name. -/
def settings : List (Char × String) :=
  [('e', "errexit"), ('f', "noglob"), ('I', "ignoreeof"), ('i', "interactive"), ('m', "monitor"),
    ('n', "noexec"), ('s', "stdin"), ('x', "xtrace"), ('v', "verbose"), ('V', "vi"),
    ('E', "emacs"), ('C', "noclobber"), ('a', "allexport"), ('b', "notify"), ('u', "nounset")]

def setOption (c : Char) (on : Bool) : Run Unit :=
  modify fun s =>
    let others := s.options.filter (· ≠ c)
    { s with options := if on then others ++ [c] else others }

/-- Sets the options that words start with, up to the arguments; whether those were marked
off. -/
def settingsOf : Nat → List Text → Run (Bool × List Text)
  | 0, words => pure (false, words)
  | fuel + 1, words => do
    match words with
    | ['-', '-'] :: rest => return (true, rest)
    | ['-'] :: rest =>
      setOption 'x' false
      setOption 'v' false
      return (rest ≠ [], rest)
    | (sign :: c :: letters) :: rest =>
      if sign ≠ '-' ∧ sign ≠ '+' then return (words ≠ [], words)
      let mut rest := rest
      for c in c :: letters do
        if c = 'o' then
          match rest with
          | [] => pure ()
          | name :: more =>
            match settings.find? fun (_, n) => n.toList = name with
            | some (letter, _) => setOption letter (sign = '-')
            | none => fail ("Illegal option ".toList ++ sign :: "o ".toList ++ name)
            rest := more
        else if (settings.lookup c).isSome then setOption c (sign = '-')
        else fail ("Illegal option ".toList ++ [sign, c])
      settingsOf fuel rest
    | _ => return (words ≠ [], words)

def setting : Routine := fun words => do
  if words = [] then
    let named := (← get).named.mergeSort fun a b => Text.isLe a.1 b.1
    for (name, v) in named do
      match v.value with
      | some value => say (name ++ '=' :: inQuotes value ++ ['\n'])
      | none => pure ()
  else
    let (given, arguments) ← settingsOf (words.length + 1) words
    if given then modify fun s => { s with arguments }
  finish 0

/-- Sets, takes away or shows what is done on signals. -/
def trap : Routine := fun words => do
  let (_, words) ← options "" (words.length + 1) words
  match words with
  | [] =>
    for (signal, action) in (← get).traps.mergeSort fun a b => decide (a.1 ≤ b.1) do
      say ("trap -- ".toList ++ inQuotes action ++ ' ' :: Signal.name signal ++ ['\n'])
    finish 0
  | first :: rest =>
    let (action, signals) : Option Text × List Text :=
      if rest = [] ∧ (Signal.ofText? 0 first).isSome then (none, [first])
      else if first = ['-'] then (none, rest)
      else if first ≠ [] ∧ first.all Char.isDigit then (none, first :: rest)
      else (some first, rest)
    finish 0
    for t in signals do
      match Signal.ofText? 0 t with
      | none =>
        complain ("trap: ".toList ++ t ++ ": bad trap".toList)
        finish 1
        return
      | some signal =>
        modify fun s =>
          let others := s.traps.filter (·.1 ≠ signal)
          { s with traps := match action with
            | some action => others ++ [(signal, action)]
            | none => others }

/-- Sends a signal to the script itself. -/
def receive (signal : Nat) : Run Unit := do
  let s ← get
  match if Signal.certain.contains signal then none else s.traps.lookup signal with
  | some [] => pure ()
  | some _ => if signal ≠ 0 then set { s with due := s.due ++ [signal] }
  | none => if !Signal.harmless.contains signal then throw (.killed signal)

def kill : Routine := fun words => do
  let usage := "Usage: kill [-s sigspec | -signum | -sigspec] [pid | job]... or\n".toList
    ++ "kill -l [exitstatus]".toList
  let (signal, targets) ← match words with
    | ['-', 'l'] :: rest =>
      match rest with
      | [] =>
        for n in List.range 64 do say (Signal.name (n + 1) ++ ['\n'])
      | t :: _ =>
        let n ← number t
        let n := if 128 < n then n - 128 else n
        if n = 0 ∨ Signal.count ≤ n then
          fail ("invalid signal number or exit status: ".toList ++ t)
        else say (Signal.name n ++ ['\n'])
      finish 0
      return
    | ['-', 's'] :: name :: rest =>
      match Signal.ofText? 0 name with
      | some n => pure (n, rest)
      | none => fail ("invalid signal number or name: ".toList ++ name)
    | ['-', '-'] :: rest => pure (15, rest)
    | ('-' :: c :: name) :: rest =>
      match Signal.ofText? 0 (c :: name) with
      | some n => pure (n, rest)
      | none => fail ("Illegal option -".toList ++ [c])
    | rest => pure (15, rest)
  let targets := match targets with
    | ['-', '-'] :: rest => rest
    | _ => targets
  if targets = [] then fail usage
  finish 0
  for t in targets do
    let digits := if t.head? = some '-' then t.tail else t
    let n ← number digits
    if n = State.processNumber then receive signal
    else if ((← get).jobs.lookup n).isNone then
      warn "No such process\n".toList
      finish 1

/-- The directory that a script takes itself to be in. -/
def directory (s : State) : Text :=
  (s.valueOf? "PWD".toList).getD (Octets.ofText (Machine.place s.machine.cwd).text)

/-- A path from the root without dots, taken by its text alone. -/
def plain (p : Text) : Text :=
  let kept := (Text.splitAt '/' p).foldl (fun (kept : List Text) name =>
    if name = [] ∨ name = ['.'] then kept
    else if name = ['.', '.'] then kept.tail
    else name :: kept) []
  '/' :: Text.joinWith '/' kept.reverse

def cd : Routine := fun words => do
  let (letters, words) ← options "LP" (words.length + 1) words
  let s ← get
  let (target, shows) := match words with
    | [] => ((s.valueOf? "HOME".toList).getD [], false)
    | ['-'] :: _ => ((s.valueOf? "OLDPWD".toList).getD (directory s), true)
    | t :: _ => (t, false)
  let here := directory s
  let goal := if target = [] then here
    else plain (if target.head? = some '/' then target else here ++ '/' :: target)
  let m := s.machine
  match m.tree.spot m.cwd (State.path goal) with
  | .ok (.taken place) =>
    if m.tree.find? place = some .directory then
      let now := if letters.contains 'P' then Octets.ofText (Machine.place place).text else goal
      let keep (s : State) (name value : Text) : State :=
        let old := (s.named.lookup name).getD ⟨none, false, false⟩
        s.keepVariable name (some { old with value := some value })
      set (keep (keep { s with machine := { m with cwd := place } } "OLDPWD".toList here)
        "PWD".toList now)
      if shows then say (now ++ ['\n'])
      finish 0
    else fail ("can't cd to ".toList ++ target)
  | _ => fail ("can't cd to ".toList ++ target)

def pwd : Routine := fun words => do
  let (letters, _) ← options "LP" (words.length + 1) words
  let s ← get
  let shown := if letters.contains 'P' then Octets.ofText (Machine.place s.machine.cwd).text
    else directory s
  say (shown ++ ['\n'])
  finish 0

/-- A line of input as far as it was read: its characters, and whether it had an end. With
`raw` a backslash is a character as any other, else it quotes the next one. -/
def line (raw : Bool) : Text → Marked × Bool × Text
  | [] => ([], false, [])
  | '\n' :: rest => ([], true, rest)
  | '\x00' :: rest => line raw rest
  | c :: rest =>
    if c = '\\' ∧ !raw then
      match rest with
      | [] => ([], false, [])
      | '\n' :: rest => line raw rest
      | d :: rest =>
        let (more, ended, rest) := line raw rest
        ((d, true) :: more, ended, rest)
    else
      let (more, ended, rest) := line raw rest
      ((c, false) :: more, ended, rest)

def read : Routine := fun words => do
  let raw := words.head? = some "-r".toList
  let words := if raw then words.tail else words
  let words := match words with
    | ['-', 'p'] :: _ :: rest => rest
    | ['-', '-'] :: rest => rest
    | _ => words
  if words = [] then fail "arg count".toList
  let s ← get
  let (found, ended, rest) := line raw (Octets.ofBytes (s.pending 0))
  set (s.leave 0 (Octets.toBytes rest))
  let values := Fields.parts s.separators words.length found
  for (name, value) in words.zip values do
    checkName name
    assign name value
  finish (if ended then 0 else 1)

/-- Goes through options of arguments one by one. -/
def getopts : Routine := fun words => do
  match words with
  | allowed :: name :: given =>
    let s ← get
    let arguments := if given = [] then s.arguments else given
    let index := max 1 ((s.valueOf? "OPTIND".toList).bind (fun t =>
      (Arithmetic.number? false t).map Int.toNat) |>.getD 1)
    let quiet := allowed.head? = some ':'
    let current := (arguments[index - 1]?).getD []
    let letters := s.letters
    let optionIndex := "OPTIND".toList
    let value := "OPTARG".toList
    let stop : Run Unit := do
      modify fun s => { s with letters := 0 }
      assign optionIndex (Text.ofNat index)
      assign name ['?']
      finish 1
    if current.length < 2 ∨ current.head? ≠ some '-' then stop
    else if current = ['-', '-'] then
      modify fun s => { s with letters := 0 }
      assign optionIndex (Text.ofNat (index + 1))
      assign name ['?']
      finish 1
    else
      let position := max 1 letters
      let c := (current[position]?).getD '?'
      let last := current.length ≤ position + 1
      let takes := match allowed.dropWhile (· ≠ c) with
        | _ :: ':' :: _ => true
        | _ => false
      let next (index letters : Nat) : Run Unit := do
        modify fun s => { s with letters }
        assign optionIndex (Text.ofNat index)
      if c = ':' ∨ !allowed.contains c then
        next (if last then index + 1 else index) (if last then 0 else position + 1)
        if quiet then assign value [c]
        else
          complain ("Illegal option -".toList ++ [c])
          modify (·.keepVariable value none)
        assign name ['?']
        finish 0
      else if !takes then
        next (if last then index + 1 else index) (if last then 0 else position + 1)
        modify (·.keepVariable value none)
        assign name [c]
        finish 0
      else if !last then
        next (index + 1) 0
        assign value (current.drop (position + 1))
        assign name [c]
        finish 0
      else match arguments[index]? with
        | some found =>
          next (index + 2) 0
          assign value found
          assign name [c]
          finish 0
        | none =>
          next (index + 1) 0
          if quiet then
            assign value [c]
            assign name [':']
          else
            complain ("No arg for -".toList ++ c :: " option".toList)
            modify (·.keepVariable value none)
            assign name ['?']
          finish 0
  | _ => fail "usage: getopts optstring var [arg]".toList

def wait : Routine := fun words => do
  finish 0
  for t in words do
    let n ← number t
    match (← get).jobs.lookup n with
    | some status => finish status
    | none => finish 127

def umask : Routine := fun words => do
  if words = [] then say "0022\n".toList
  finish 0

def succeed : Routine := fun _ => finish 0

/-- The commands that end no script when they fail. -/
def plainOnes : List (String × Routine) :=
  [("echo", echo), ("printf", printf), ("test", test false), ("[", test true), ("true", succeed),
    ("false", fun _ => finish 1), ("cd", cd), ("chdir", cd), ("pwd", pwd), ("read", read),
    ("kill", kill), ("local", localOnes), ("getopts", getopts), ("wait", wait), ("umask", umask),
    ("alias", succeed), ("unalias", succeed), ("hash", succeed), ("jobs", succeed),
    ("fg", succeed), ("bg", succeed), ("ulimit", succeed)]

/-- The commands that end a script when they fail. -/
def specialOnes : List (String × Routine) :=
  [(":", succeed), ("exit", exit), ("return", returns), ("break", loops .leaving),
    ("continue", loops .repeating), ("shift", shift), ("set", setting), ("unset", unset),
    ("export", marking "export" (fun v => { v with exported := true }) (·.exported)),
    ("readonly", marking "readonly" (fun v => { v with fixed := true }) (·.fixed)),
    ("trap", trap), ("times", fun _ => do
      say "0m0.000000s 0m0.000000s\n0m0.000000s 0m0.000000s\n".toList
      finish 0)]

/-- The commands that run others. -/
def runningOnes : List String := ["eval", ".", "exec", "command", "type"]

def find? (name : Text) : Option Routine :=
  let name := String.ofList name
  (specialOnes.lookup name).orElse fun _ => plainOnes.lookup name

/-- Whether a command is one of the shell's own. -/
def isOne (name : Text) : Bool :=
  (find? name).isSome || runningOnes.contains (String.ofList name)

end TripleSlash.Shell.Builtin
