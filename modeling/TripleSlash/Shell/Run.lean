import TripleSlash.Shell.Builtin
import TripleSlash.Shell.Glob
import TripleSlash.Shell.Program
import TripleSlash.Shell.Reader
import TripleSlash.Shell.Runner

/-! Running scripts and starting programs. Commands run one after the other, those of a
pipeline too: each reads all that the one before it wrote. What a command changes apart from
the rest, files excepted, is forgotten when it ends. -/
namespace TripleSlash.Shell

namespace Run

/-- Tells why a file cannot be opened. -/
def openProblem (creating : Bool) : IoError → Text
  | .notFound | .notDirectory =>
    if creating then "Directory nonexistent".toList else "No such file".toList
  | cause => Tool.problem cause

/-- The number that a path of an open file stands for. -/
def openNumber? (p : Text) : Option Nat :=
  [("/dev/stdin".toList, 0), ("/dev/stdout".toList, 1), ("/dev/stderr".toList, 2),
    ("/dev/fd/0".toList, 0), ("/dev/fd/1".toList, 1), ("/dev/fd/2".toList, 2)].lookup p

/-- Opens a file for a number; the text says what is wrong with it. -/
def openAt (number : Nat) (direction : Direction) (p : Text) : Run (Option Text) := do
  let s ← get
  let m := s.machine
  let creating := direction ≠ .read
  let refused (cause : IoError) : Text :=
    (if creating then "cannot create ".toList else "cannot open ".toList) ++ p ++ ": ".toList
      ++ openProblem creating cause
  match (openNumber? p).bind (List.lookup · s.numbers) with
  | some index =>
    set { s with numbers := (number, index) :: s.numbers.filter (·.1 ≠ number) }
    return none
  | none => pure ()
  if creating then
    match m.tree.spotToWrite m.cwd (State.path p) with
    | .error cause => return some (refused cause)
    | .ok place =>
      let old := m.tree.find? place
      if direction = .create ∧ s.options.contains 'C' ∧ old.isSome ∧ old ≠ some .void then
        return some (refused .alreadyExists)
      let tree := match old with
        | some (.file _ executable) =>
          if direction = .append then m.tree else m.tree.put place (.file [] executable)
        | some .void => m.tree
        | _ => m.tree.put place (.file [] false)
      let s := { s with machine := { m with tree } }
      set (s.bind number (.file place 0 (direction = .append)))
      return none
  else
    match m.tree.spot m.cwd (State.path p) with
    | .error cause => return some (refused cause)
    | .ok (.free ..) => return some (refused .notFound)
    | .ok (.taken place) =>
      set (s.bind number (.file place 0 false))
      return none

/-- Lets a number stand for what another one stands for, or for nothing. -/
def share (number : Nat) (target : Text) : Run (Option Text) := do
  let s ← get
  let others := s.numbers.filter (·.1 ≠ number)
  if target = ['-'] then
    set { s with numbers := others }
    return none
  if target = [] ∨ !target.all Char.isDigit then return some "Bad fd number".toList
  match s.numbers.lookup (Arithmetic.digits 10 target).1 with
  | some index =>
    set { s with numbers := (number, index) :: others }
    return none
  | none => return some (target ++ ": Bad file descriptor".toList)

/-- Runs a tool on what is open. -/
def work (name : Text) (tool : Tool Unit) : Run Nat := do
  let s ← get
  let input := Octets.ofBytes (s.pending 0)
  let (_, w) := tool.run ⟨name, s.machine, s.environment, input, [], 0⟩
  let s := { s with machine := w.machine }
  let s := if w.input.length = input.length then s else s.leave 0 (Octets.toBytes w.input)
  set (w.said.reverse.foldl (fun s (isComplaint, t) =>
    s.emit (if isComplaint then 2 else 1) (Octets.toBytes t)) s)
  return w.status

/-- How a shell is asked to run: its options, and a script from a text, a file or the input. -/
structure Asked where
  options : List (Char × Bool)
  text : Bool
  input : Bool

def asked : Nat → Asked → List Text → Except Text (Asked × List Text)
  | 0, a, words => .ok (a, words)
  | fuel + 1, a, words =>
    match words with
    | ['-', '-'] :: rest | ['-'] :: rest => .ok (a, rest)
    | ('-' :: '-' :: _) :: _ => .error "Illegal option --".toList
    | (sign :: c :: letters) :: rest =>
      if sign ≠ '-' ∧ sign ≠ '+' then .ok (a, words)
      else do
        let step (found : Asked × List Text) (c : Char) : Except Text (Asked × List Text) :=
          let (a, rest) := found
          if c = 'c' then .ok ({ a with text := true }, rest)
          else if c = 's' then .ok ({ a with input := true }, rest)
          else if c = 'o' then
            let name := rest.head?.getD []
            match Builtin.settings.find? fun (_, n) => n.toList = name with
            | some (letter, _) =>
              .ok ({ a with options := a.options ++ [(letter, sign == '-')] }, rest.tail)
            | none => .error ("Illegal option ".toList ++ sign :: "o ".toList ++ name)
          else if (Builtin.settings.lookup c).isSome then
            .ok ({ a with options := a.options ++ [(c, sign == '-')] }, rest)
          else .error ("Illegal option ".toList ++ [sign, c])
        let (a, rest) ← (c :: letters).foldlM step (a, rest)
        asked fuel a rest
    | _ => .ok (a, words)

/-- What remains of a script's state in a new one that is started by it. -/
def child (s : State) : State :=
  let ignored := s.traps.filter fun (_, action) => action = []
  { State.start s.machine with
    opened := s.opened, numbers := s.numbers, traps := ignored
    named := s.named.filter fun (_, v) => v.exported }

/-- Runs what is kept apart: the machine and what is open stay as they become, and so does
the status. -/
def forgetting (act : Run Unit) : Run Unit := fun s =>
  let ignored := s.traps.filter fun (_, action) => action = []
  let (result, t) := act { s with traps := ignored, due := [] }
  let s := { s with machine := { t.machine with cwd := s.machine.cwd }, opened := t.opened
                    status := t.status }
  match result with
  | .error (.killed signal) => (.error (.killed signal), s)
  | _ => (.ok (), s)

/-- Runs a program of its own in a new state. -/
def starting (fresh : State → State) (act : Run Unit) : Run ExitStatus := fun s =>
  let (result, t) := act (fresh (child s))
  let s := { s with machine := { t.machine with cwd := s.machine.cwd }, opened := t.opened }
  match result with
  | .error (.killed signal) => (.ok (.signaled signal), s)
  | _ => (.ok (.exited t.status), s)

/-- Leaves the status of a program that ended. -/
def conclude (status : ExitStatus) : Run Unit :=
  match status with
  | .exited code => finish code
  | .signaled signal => do
    if signal ≠ 2 ∧ signal ≠ 13 then complain (Signal.words signal)
    finish (128 + signal)

def isSpecial (name : Text) : Bool := special.contains (String.ofList name)

/-- Says what names stand for. -/
def describe (verbose : Bool) : List Text → Run Unit
  | [] => pure ()
  | name :: more => do
    let s ← get
    let tell (t : String) : Run Unit := do
      say (if verbose then name ++ t.toList ++ ['\n'] else name ++ ['\n'])
    finish 0
    if Reader.reserved.contains name then tell " is a shell keyword"
    else if isSpecial name then tell " is a special shell builtin"
    else if (s.functions.lookup name).isSome then tell " is a shell function"
    else if Builtin.isOne name then tell " is a shell builtin"
    else match search s.machine s.directories name with
      | .ok p =>
        if (canStart s.machine p).toOption.isSome then
          say (if verbose then name ++ " is ".toList ++ p ++ ['\n'] else p ++ ['\n'])
        else
          if verbose then say (name ++ ": not found\n".toList)
          finish 127
      | .error _ =>
        if verbose then say (name ++ ": not found\n".toList)
        finish 127
    let status := (← get).status
    describe verbose more
    if status ≠ 0 then finish status

mutual

/-- What a word is with everything put in place. Characters of the word itself separate fields
only where `splits` says so. -/
def bits : Nat → Bool → Word → Run (List Bit)
  | 0, _, _ => pure []
  | _, _, [] => pure []
  | fuel + 1, splits, piece :: more => do
    let first ← match piece with
      | .text t quoted =>
        pure (if quoted then .quotes :: Bit.ofText t true false else Bit.ofText t false splits)
      | .parameter name form word quoted => parameter fuel name form word quoted
      | .output c quoted => do
        let t ← capture fuel c
        pure (if quoted then .quotes :: Bit.ofText t true false else Bit.ofText t false true)
      | .arithmetic word quoted => do
        let t ← joined fuel word
        let s ← get
        match Arithmetic.evaluate (fun name => (s.valueOf? name).getD []) t with
        | .error what => fail what
        | .ok (n, named) =>
          for (name, value) in named.reverse do assign name value
          let t := (toString n).toList
          pure (if quoted then .quotes :: Bit.ofText t true false else Bit.ofText t false true)
    return first ++ (← bits fuel splits more)

/-- What stands for a parameter. -/
def parameter : Nat → Text → Form → Word → Bool → Run (List Bit)
  | 0, _, _, _, _ => pure []
  | fuel + 1, name, form, word, quoted => do
    let s ← get
    let found := s.parameter? name
    let glue := separatorsForJoin s
    let put (values : List Text) : List Bit :=
      if name = ['@'] then Bit.ofTexts quoted glue values
      else if name = ['*'] then
        if quoted then .quotes :: Bit.ofText (List.intercalate glue values) true false
        else Bit.ofTexts false glue values
      else if quoted then .quotes :: Bit.ofText values.flatten true false
      else Bit.ofText values.flatten false true
    let isSet (empty : Bool) : Bool := match found with
      | none => false
      | some values => !(empty && values.all List.isEmpty)
    let strict : Run Unit := do
      if found.isNone ∧ s.options.contains 'u' ∧ name ≠ ['@'] ∧ name ≠ ['*'] then
        fail (name ++ ": parameter not set".toList)
    let instead : Run (List Bit) := do
      let inner ← bits fuel (!quoted) word
      return if quoted then .quotes :: inner else inner
    match form with
    | .value =>
      strict
      return put (found.getD [])
    | .length =>
      strict
      let n := (List.intercalate glue (found.getD [])).length
      return (if quoted then [.quotes] else []) ++ Bit.ofText (Text.ofNat n) quoted true
    | .fallback empty => if isSet empty then return put (found.getD []) else instead
    | .alternative empty =>
      if isSet empty then instead else return if quoted ∧ name ≠ ['@'] then [.quotes] else []
    | .assign empty =>
      if isSet empty then return put (found.getD [])
      if !isName name then fail (name ++ ": bad variable name".toList)
      let value := Bit.text (← bits fuel false word)
      assign name value
      return put [value]
    | .demand empty =>
      if isSet empty then return put (found.getD [])
      let text := Bit.text (← bits fuel false word)
      let text := if word ≠ [] then text
        else if empty then "parameter not set or null".toList else "parameter not set".toList
      fail (name ++ ": ".toList ++ text)
    | .trim atEnd longest =>
      strict
      let pattern := Pattern.ofMarked (Bit.marked (← bits fuel false word))
      return put ((found.getD []).map (pattern.trim atEnd longest))
    | .broken => fail "Bad substitution".toList

/-- The text of a word that is not cut into fields. -/
def joined : Nat → Word → Run Text
  | 0, _ => pure []
  | fuel + 1, word => do return Bit.text (← bits fuel false word)

/-- The fields that words stand for. -/
def fields : Nat → List Word → Run (List Text)
  | 0, _ => pure []
  | _, [] => pure []
  | fuel + 1, word :: more => do
    let found ← bits fuel false word
    let s ← get
    let cut := Fields.ofBits s.separators found
    let texts := if s.options.contains 'f' then cut.map fun f => f.map (·.1)
      else cut.flatMap (Glob.texts s.machine)
    return texts ++ (← fields fuel more)

/-- The output of a command without the line ends behind it. -/
def capture : Nat → Command → Run Text
  | 0, _ => pure []
  | fuel + 1, c => do
    let before ← get
    let index := before.opened.size
    forgetting do
      modify (·.bind 1 (.queue []))
      ending fuel (run fuel false c)
    let s ← get
    set { s with captured := s.status, status := before.status }
    match s.opened[index]? with
    | some (.queue bytes) =>
      let t := (Octets.ofBytes bytes).filter (· ≠ '\x00')
      return (t.reverse.dropWhile (· = '\n')).reverse
    | _ => return []

/-- Acts, and then does what is to be done when a script ends. -/
def ending : Nat → Run Unit → Run Unit
  | 0, act => act
  | fuel + 1, act => do
    match ← catching act with
    | some (.killed signal) => throw (.killed signal)
    | _ => pure ()
    let s ← get
    match s.traps.lookup 0 with
    | none | some [] => pure ()
    | some action =>
      set { s with
        traps := s.traps.filter (·.1 ≠ 0), last := some s.status, loops := 0, hidden := [] }
      match ← catching (evaluate fuel false action) with
      | some (.killed signal) => throw (.killed signal)
      | some .exiting | some .failed => pure ()
      | _ => finish s.status

/-- Does what is to be done on the signals that came. -/
def deliver : Nat → Run Unit
  | 0 => pure ()
  | fuel + 1 => do
    let s ← get
    match s.due with
    | [] => pure ()
    | signal :: more =>
      match s.traps.lookup signal with
      | none => set { s with due := more }
      | some action =>
        set { s with due := more, last := some s.status }
        evaluate fuel false action
        modify fun t => { t with status := s.status, last := s.last }
      deliver fuel

/-- Runs a text as commands, line by line. -/
def evaluate : Nat → Bool → Text → Run Unit
  | 0, _, _ => pure ()
  | fuel + 1, tested, t => lines fuel tested false (Reader.ofText t)

/-- Runs the lines that are still to be read. Without any command the status is zero. -/
def lines : Nat → Bool → Bool → Reader → Run Unit
  | 0, _, _, _ => pure ()
  | fuel + 1, tested, any, r => do
    match r.next with
    | .error fault =>
      report fault.line fault.message
      finish 2
      throw .failed
    | .ok none => if !any then finish 0
    | .ok (some (.nothing, r)) => lines fuel tested any r
    | .ok (some (c, r)) =>
      run fuel tested c
      lines fuel tested true r

/-- Runs a command. It is `tested` where it may fail without ending a script that ends when
a command fails. -/
def run : Nat → Bool → Command → Run Unit
  | 0, _, _ => pure ()
  | fuel + 1, tested, c => do
    let checked : Run Unit := do
      let s ← get
      if s.status ≠ 0 ∧ !tested ∧ s.options.contains 'e' then throw .exiting
    if (← get).options.contains 'n' then return
    match c with
    | .nothing => pure ()
    | .simple line assignments words redirects =>
      simple fuel tested line assignments words redirects
      deliver fuel
      checked
    | .sequence first next =>
      run fuel tested first
      run fuel tested next
    | .both first next =>
      run fuel true first
      if (← get).status = 0 then run fuel tested next
    | .either first next =>
      run fuel true first
      if (← get).status ≠ 0 then run fuel tested next
    | .negate c =>
      run fuel true c
      finish (if (← get).status = 0 then 1 else 0)
    | .pipe first next =>
      let index := (← get).opened.size
      forgetting do
        modify (·.bind 1 (.queue []))
        ending fuel (run fuel tested first)
      forgetting do
        modify fun s => { s with numbers := (0, index) :: s.numbers.filter (·.1 ≠ 0) }
        ending fuel (run fuel tested next)
      deliver fuel
      checked
    | .background c =>
      forgetting do
        modify (·.bind 0 .nothing)
        ending fuel (run fuel false c)
      modify fun s =>
        let number := State.processNumber + 1 + s.jobs.length
        { s with jobs := (number, s.status) :: s.jobs, status := 0 }
    | .apart c =>
      forgetting (ending fuel (run fuel tested c))
      deliver fuel
      checked
    | .branch condition consequence alternative =>
      run fuel true condition
      if (← get).status = 0 then run fuel tested consequence
      else match alternative with
        | .nothing => finish 0
        | alternative => run fuel tested alternative
    | .loop negated condition body =>
      modify fun s => { s with loops := s.loops + 1 }
      mending (fun s => { s with loops := s.loops - 1 }) do
        rounds fuel tested negated condition body 0
    | .each line name words body =>
      modify fun s => { s with line }
      let values ← match words with
        | some words => fields fuel words
        | none => pure (← get).arguments
      if values = [] then finish 0
      modify fun s => { s with loops := s.loops + 1 }
      mending (fun s => { s with loops := s.loops - 1 }) (eachValue fuel tested name values body)
    | .choose line subject arms =>
      modify fun s => { s with line }
      let t ← joined fuel subject
      choose fuel tested t arms
    | .define name body =>
      modify fun s =>
        { s with functions := (name, body) :: s.functions.filter (·.1 ≠ name), status := 0 }
    | .redirected line c redirects =>
      modify fun s => { s with line }
      let before := (← get).numbers
      mending (fun s => { s with numbers := before }) do
        match ← redirect fuel redirects with
        | some what =>
          warn what
          finish 2
        | none => run fuel tested c

/-- Runs a body and says whether the loop goes on. -/
def round : Nat → Bool → Command → Run Bool
  | 0, _, _ => pure false
  | fuel + 1, tested, body => do
    match ← catching (run fuel tested body) with
    | none => return true
    | some (.leaving n) => if n ≤ 1 then return false else throw (.leaving (n - 1))
    | some (.repeating n) => if n ≤ 1 then return true else throw (.repeating (n - 1))
    | some flow => throw flow

/-- Goes round in a loop whose last status is known. -/
def rounds : Nat → Bool → Bool → Command → Command → Nat → Run Unit
  | 0, _, _, _, _, _ => pure ()
  | fuel + 1, tested, negated, condition, body, status => do
    match ← catching (run fuel true condition) with
    | none =>
      if ((← get).status = 0) = !negated then
        if ← round fuel tested body then
          rounds fuel tested negated condition body (← get).status
        else pure ()
      else finish status
    | some (.leaving n) => if n ≤ 1 then finish status else throw (.leaving (n - 1))
    | some (.repeating n) =>
      if n ≤ 1 then rounds fuel tested negated condition body status
      else throw (.repeating (n - 1))
    | some flow => throw flow

/-- Runs a body for each value of a variable. -/
def eachValue : Nat → Bool → Text → List Text → Command → Run Unit
  | 0, _, _, _, _ => pure ()
  | _, _, _, [], _ => pure ()
  | fuel + 1, tested, name, value :: more, body => do
    assign name value
    if ← round fuel tested body then eachValue fuel tested name more body

/-- Runs the first arm of a choice that has a pattern for a text. -/
def choose : Nat → Bool → Text → List (List Word × Command) → Run Unit
  | 0, _, _, _ => pure ()
  | _, _, _, [] => finish 0
  | fuel + 1, tested, t, (patterns, body) :: more => do
    if ← fitsAny fuel t patterns then
      match body with
      | .nothing => finish 0
      | body => run fuel tested body
    else choose fuel tested t more

def fitsAny : Nat → Text → List Word → Run Bool
  | 0, _, _ => pure false
  | _, _, [] => pure false
  | fuel + 1, t, word :: more => do
    let pattern := Pattern.ofMarked (Bit.marked (← bits fuel false word))
    if pattern.fits t then return true else fitsAny fuel t more

/-- Performs redirections in order, up to one that fails. -/
def redirect : Nat → List Redirect → Run (Option Text)
  | 0, _ => pure none
  | _, [] => pure none
  | fuel + 1, .mk number direction target :: more => do
    let t ← joined fuel target
    let wrong ← match direction with
      | .document => do
        modify (·.bind number (.queue (Octets.toBytes t)))
        pure none
      | .share => share number t
      | direction => openAt number direction t
    match wrong with
    | some what => return some what
    | none => redirect fuel more

/-- Sets variables; gives what was shown of it. -/
def assignAll : Nat → List (Text × Word) → Run (List Text)
  | 0, _ => pure []
  | _, [] => pure []
  | fuel + 1, (name, word) :: more => do
    let value ← joined fuel word
    assign name value
    return (name ++ '=' :: value) :: (← assignAll fuel more)

def simple : Nat → Bool → Nat → List (Text × Word) → List Word → List Redirect → Run Unit
  | 0, _, _, _, _, _ => pure ()
  | fuel + 1, tested, line, assignments, words, redirects => do
    modify fun s => { s with line, captured := 0 }
    let named ← fields fuel words
    let before := (← get).numbers
    let trace (assigned : List Text) : Run Unit := do
      if (← get).options.contains 'x' then
        complain ("+ ".toList ++ Text.joinWith ' ' (assigned ++ named))
    match named with
    | [] =>
      mending (fun s => { s with numbers := before }) do
        match ← redirect fuel redirects with
        | some what =>
          warn what
          finish 2
        | none =>
          let assigned ← assignAll fuel assignments
          if assigned ≠ [] then trace assigned
          finish (← get).captured
    | name :: arguments =>
      let special := isSpecial name
      let keeps := name = "exec".toList ∧ arguments = []
      mending (fun s => if keeps then s else { s with numbers := before }) do
        match ← redirect fuel redirects with
        | some what =>
          warn what
          finish 2
          if special then throw .failed
        | none =>
          if special then
            trace (← assignAll fuel assignments)
            invoke fuel tested true name arguments
          else
            let hidden := (← get).named
            let changed := assignments.map (·.1)
            let mend (s : State) : State :=
              changed.foldl (fun s name => s.keepVariable name (hidden.lookup name)) s
            mending mend do
              trace (← assignAll fuel assignments)
              modify fun s => changed.foldl (fun s name =>
                s.keepVariable name ((s.named.lookup name).map fun v =>
                  { v with exported := true })) s
              invoke fuel tested true name arguments

/-- Runs a command by its name: one of the shell's own, a function where those are allowed, or
a program. -/
def invoke : Nat → Bool → Bool → Text → List Text → Run Unit
  | 0, _, _, _, _ => pure ()
  | fuel + 1, tested, functions, name, arguments => do
    let s ← get
    let function? := if functions ∧ !isSpecial name then s.functions.lookup name else none
    match function? with
    | some body => call fuel tested body arguments
    | none =>
      if Builtin.isOne name then
        modify fun s => { s with command := some name }
        let act : Run Unit := mending (fun t => { t with command := s.command }) do
          match Builtin.find? name with
          | some act => act arguments
          | none => perform fuel tested name arguments
        match ← catching act with
        | none => pure ()
        | some .failed => if functions ∧ isSpecial name then throw .failed
        | some flow => throw flow
      else
        match ← execNamed fuel name arguments with
        | .ok status => conclude status
        | .error cause =>
          let absent := cause = .notFound ∨ cause = .notDirectory
          let what := if absent then "not found".toList else Tool.problem cause
          warn (name ++ ": ".toList ++ what)
          finish (if absent ∨ '/' ∉ name ∨ cause = .nameTooLong ∨ cause = .tooManyLinks then 127
            else 126)

/-- Runs the body of a function. -/
def call : Nat → Bool → Command → List Text → Run Unit
  | 0, _, _, _ => pure ()
  | fuel + 1, tested, body, arguments => do
    let before ← get
    modify fun s => { s with arguments, loops := 0, hidden := [] :: s.hidden }
    let mend (s : State) : State :=
      let s := (s.hidden.head?.getD []).foldl (fun s (name, old) => s.keepVariable name old) s
      { s with arguments := before.arguments, loops := before.loops, hidden := before.hidden }
    match ← catching (mending mend (run fuel tested body)) with
    | none | some .returning => pure ()
    | some flow => throw flow

/-- Runs those of the shell's own commands that run others. -/
def perform : Nat → Bool → Text → List Text → Run Unit
  | 0, _, _, _ => pure ()
  | fuel + 1, tested, name, arguments => do
    match String.ofList name with
    | "eval" => evaluate fuel tested (Text.joinWith ' ' arguments)
    | "." =>
      match arguments with
      | [] => finish 0
      | p :: _ =>
        let s ← get
        let candidates := if '/' ∈ p then [p] else s.directories.map fun dir => Tool.joined dir p
        let read (p : Text) : Option (Text × Bytes) :=
          ((s.machine.tree.readBytes s.machine.cwd (State.path p)).toOption).map fun b => (p, b)
        match candidates.findSome? read with
        | none =>
          if '/' ∈ p then fail ("cannot open ".toList ++ p ++ ": No such file".toList)
          else fail (p ++ ": not found".toList)
        | some (p, bytes) =>
          modify fun s => { s with command := some p }
          match ← catching (evaluate fuel false (Octets.ofBytes bytes)) with
          | none | some .returning => pure ()
          | some flow => throw flow
    | "exec" =>
      match arguments with
      | [] => finish 0
      | name :: arguments =>
        match ← execNamed fuel name arguments with
        | .ok (.exited code) =>
          modify fun s => { s with status := code, traps := [] }
          throw .exiting
        | .ok (.signaled signal) => throw (.killed signal)
        | .error cause =>
          let absent := cause = .notFound ∨ cause = .notDirectory
          warn (name ++ ": ".toList ++
            if absent then "not found".toList else Tool.problem cause)
          finish (if absent then 127 else 126)
          throw .exiting
    | "type" => describe true arguments
    | _ =>
      match arguments with
      | ['-', 'v'] :: names => describe false names
      | ['-', 'V'] :: names => describe true names
      | ['-', 'p'] :: name :: arguments | ['-', '-'] :: name :: arguments | name :: arguments =>
        modify fun s => { s with command := none }
        invoke fuel tested false name arguments
      | [] => finish 0

/-- Starts the program behind a name. A file that names no reader is run as a script. -/
def execNamed : Nat → Text → List Text → Run (Except IoError ExitStatus)
  | 0, _, _ => pure (.error .notFound)
  | fuel + 1, name, arguments => do
    let s ← get
    match search s.machine s.directories name with
    | .error cause => return .error cause
    | .ok p =>
      match programAt s.machine mostReaders p name arguments with
      | .error cause => return .error cause
      | .ok ⟨.unmarked, name, arguments⟩ => return .ok (← start fuel "sh" name (p :: arguments))
      | .ok ⟨.tool tool, name, arguments⟩ => return .ok (← start fuel tool name arguments)

/-- Runs a tool to its end. -/
def start : Nat → String → Text → List Text → Run ExitStatus
  | 0, _, _, _ => pure (.exited 1)
  | fuel + 1, tool, name, arguments => do
    match Tool.all.lookup tool with
    | some act => return .exited (← work name (act arguments))
    | none =>
      if Tool.shells.contains tool then shell fuel name arguments
      else
        match Runner.ofName? tool with
        | none => return .exited 127
        | some r => lead fuel r name arguments

/-- Runs a tool that runs other programs. -/
def lead : Nat → Runner → Text → List Text → Run ExitStatus
  | 0, _, _, _ => pure (.exited 1)
  | fuel + 1, r, name, arguments => do
    let leader := name ++ ": ".toList
    match Tool.options r.known true (arguments.length + 1) ⟨[], []⟩ arguments with
    | .error what =>
      for l in r.refusal name what do complain l
      return .exited r.misuse
    | .ok o =>
      match r, o.words with
      | .env, words => env fuel name o words
      | .which, words =>
        let s ← get
        let found := words.map fun name =>
          (search s.machine s.directories name).toOption.filter fun p =>
            (canStart s.machine p).toOption.isSome
        for p in found.filterMap (·) do say (p ++ ['\n'])
        return .exited (if found ≠ [] ∧ found.all Option.isSome then 0 else 1)
      | .xargs, words =>
        let s ← get
        let input := Octets.ofBytes (s.pending 0)
        set (s.leave 0 [])
        let (command, fixed) := match words with
          | [] => ("echo".toList, [])
          | command :: fixed => (command, fixed)
        match ← each fuel r leader command (Runner.groups o fixed input) with
        | .exited 126 => return .exited 126
        | .exited 127 => return .exited 127
        | status => return if status = .exited 0 then status else .exited 123
      | .timeout, span :: command :: arguments =>
        if Tool.isSpan span then each fuel r leader command [arguments]
        else
          complain (leader ++ "invalid time interval ".toList ++ Tool.quoted span)
          complain (Tool.advice name)
          return .exited 125
      | .nice, [] =>
        say "0\n".toList
        return .exited 0
      | .timeout, _ | _, [] =>
        complain (leader ++ r.bare)
        complain (Tool.advice name)
        return .exited r.misuse
      | _, command :: arguments => each fuel r leader command [arguments]

/-- Runs a program for each list of arguments. -/
def each : Nat → Runner → Text → Text → List (List Text) → Run ExitStatus
  | 0, _, _, _, _ => pure (.exited 1)
  | _, _, _, _, [] => pure (.exited 0)
  | fuel + 1, r, leader, name, arguments :: more => do
    match ← execNamed fuel name arguments with
    | .error cause =>
      complain (leader ++ r.naming name ++ ": ".toList ++ Tool.problem cause)
      return .exited (if cause = .notFound then 127 else 126)
    | .ok status =>
      if more = [] then return status
      let rest ← each fuel r leader name more
      return if status = .exited 0 then rest else .exited 123

/-- Runs a program with a changed environment, or shows that. -/
def env : Nat → Text → Tool.Options → List Text → Run ExitStatus
  | 0, _, _, _ => pure (.exited 1)
  | fuel + 1, name, o, words => do
    match o.value? 'S' with
    | some t => lead fuel .env name (Runner.inputWords (t.length + 1) t ++ words)
    | none =>
      let clears := o.has 'i' || words.head? == some ['-']
      let words := if words.head? = some ['-'] then words.tail else words
      let assignments := words.takeWhile ('=' ∈ ·)
      let removed := o.flags.filterMap fun (flag, value) => if flag = 'u' then some value else none
      let named := (← get).named
      mending (fun s => { s with named }) do
        if clears then
          modify fun s => { s with named := s.named.map fun (name, v) =>
            (name, { v with exported := false }) }
        for name in removed do modify (·.keepVariable name none)
        for word in assignments do
          let (name, value) := Builtin.assignment word
          modify (·.keepVariable name (some ⟨value, true, false⟩))
        match words.drop assignments.length with
        | [] =>
          let stop := if o.has '0' then '\x00' else '\n'
          for (name, value) in (← get).environment do say (name ++ '=' :: value ++ [stop])
          return .exited 0
        | command :: arguments => each fuel .env (name ++ ": ".toList) command [arguments]

/-- Runs a shell with its arguments. -/
def shell : Nat → Text → List Text → Run ExitStatus
  | 0, _, _ => pure (.exited 1)
  | fuel + 1, name, words => do
    let complaint (what : Text) : Run ExitStatus := do
      complain (name ++ ": 0: ".toList ++ what)
      return .exited 2
    match asked (words.length + 1) ⟨[], false, false⟩ words with
    | .error what => complaint what
    | .ok (a, rest) =>
      let options (s : State) : State := a.options.foldl (fun s (c, on) =>
        let others := s.options.filter (· ≠ c)
        { s with options := if on then others ++ [c] else others }) s
      let running (script t : Text) (arguments : List Text) : Run ExitStatus :=
        starting (fun s => options { s with script, arguments, loops := 0 })
          (ending fuel (evaluate fuel false t))
      match a.text, a.input, rest with
      | true, _, [] => complaint "-c requires an argument".toList
      | true, _, t :: rest => running (rest.head?.getD name) t rest.tail
      | false, false, p :: rest =>
        let s ← get
        match s.machine.tree.readBytes s.machine.cwd (State.path p) with
        | .ok bytes => running p (Octets.ofBytes bytes) rest
        | .error cause =>
          complaint ("cannot open ".toList ++ p ++ ": ".toList ++ openProblem false cause)
      | false, _, rest =>
        let s ← get
        let t := Octets.ofBytes (s.pending 0)
        set (s.leave 0 [])
        running name t rest

end

/-- A bound on how deep the running of scripts goes. -/
def depth : Nat := 1000000

end Run

/-- Starts a program with its arguments and waits for its end. A file that names no reader
cannot be started. -/
def launch : Launcher Machine := fun program arguments m =>
  if '\x00' ∈ program.text ∨ arguments.any (fun a => decide ('\x00' ∈ a)) then
    (.error .nulInArgument, m)
  else
    let s := State.start m
    let name := Octets.ofText program.text
    let found := (search m s.directories name).bind fun p =>
      programAt m mostReaders p name (arguments.map Octets.ofText)
    match found with
    | .error cause => (.error cause, m)
    | .ok ⟨.unmarked, _, _⟩ => (.error .formatNotExecutable, m)
    | .ok ⟨.tool tool, name, arguments⟩ =>
      let (result, s) := (Run.start Run.depth tool name arguments : Run ExitStatus) s
      let status := match result with
        | .ok status => status
        | .error (.killed signal) => .signaled signal
        | .error _ => .exited s.status
      let bytes (n : Nat) : Bytes := match s.opened[n]? with
        | some (.queue bytes) => bytes
        | _ => []
      (.ok ⟨status, bytes 1, bytes 2⟩, { s.machine with cwd := m.cwd })

end TripleSlash.Shell
