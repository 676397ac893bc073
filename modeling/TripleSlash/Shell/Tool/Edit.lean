import TripleSlash.Shell.Regex
import TripleSlash.Shell.Tool

/-! The tool that edits a stream of lines by a script of instructions, each for the lines that
its addresses choose. Blocks are kept as jumps over their instructions. -/
namespace TripleSlash.Shell.Tool

inductive Address where
  | number (n : Nat)
  | last
  | fits (r : Regex) (ignoreCase : Bool)
  | every (first step : Nat)
  /-- So many lines further on. -/
  | further (n : Nat)

/-- A part of what is put in place of what was found. -/
inductive Replacement where
  | text (t : Text)
  | group (number : Nat)
  /-- From here on letters are made capital, or small; one of them or all, or neither. -/
  | case (upper : Option Bool) (once : Bool)
deriving DecidableEq

inductive Edit where
  | delete
  | deleteFirst
  | print
  | printFirst
  | substitute (r : Regex) (ignoreCase : Bool) (new : List Replacement) (all : Bool) (number : Nat)
      (shows : Bool)
  | exchange (pairs : List (Char × Char))
  | quit (shows : Bool) (status : Nat)
  | lineNumber
  | append (t : Text)
  | insert (t : Text)
  | change (t : Text)
  | next
  | nextToo
  | hold (append : Bool)
  | take (append : Bool)
  | swap
  | label (name : Text)
  | jump (name : Text) (ifChanged : Option Bool)
  | block
  | close

structure Instruction where
  first : Option Address
  second : Option Address
  negated : Bool
  edit : Edit

namespace Edit

/-- The text up to an end mark, in which a backslash keeps the mark, and what follows. -/
def untilMark (mark : Char) : Text → Option (Text × Text)
  | [] => none
  | '\\' :: 'n' :: rest => do
    let (t, rest) ← untilMark mark rest
    some ('\\' :: 'n' :: t, rest)
  | '\\' :: c :: rest => do
    let (t, rest) ← untilMark mark rest
    some (if c = mark then c :: t else '\\' :: c :: t, rest)
  | c :: rest =>
    if c = mark then some ([], rest)
    else do
      let (t, rest) ← untilMark mark rest
      some (c :: t, rest)

def replacement : Text → List Replacement
  | [] => []
  | '\\' :: c :: rest =>
    if c.isDigit then .group (c.toNat - 48) :: replacement rest
    else match c with
      | 'n' => .text ['\n'] :: replacement rest
      | 't' => .text ['\t'] :: replacement rest
      | 'U' => .case (some true) false :: replacement rest
      | 'L' => .case (some false) false :: replacement rest
      | 'u' => .case (some true) true :: replacement rest
      | 'l' => .case (some false) true :: replacement rest
      | 'E' => .case none false :: replacement rest
      | c => .text [c] :: replacement rest
  | '&' :: rest => .group 0 :: replacement rest
  | c :: rest => .text [c] :: replacement rest

def digits (t : Text) : Nat × Text := Arithmetic.digits 10 t

def address? (extended : Bool) (t : Text) : Option (Option Address × Text) :=
  match t with
  | '$' :: rest => some (some .last, rest)
  | '/' :: rest => do
    let (pattern, rest) ← untilMark '/' rest
    let r ← Regex.parse? extended pattern
    match rest with
    | 'I' :: rest => some (some (.fits r true), rest)
    | _ => some (some (.fits r false), rest)
  | '+' :: rest =>
    let (n, rest) := digits rest
    some (some (.further n), rest)
  | c :: _ =>
    if c.isDigit then
      let (n, rest) := digits t
      match rest with
      | '~' :: more =>
        let (step, rest) := digits more
        some (some (.every n step), rest)
      | _ => some (some (.number n), rest)
    else some (none, t)
  | [] => some (none, t)

def isGap (c : Char) : Bool := c == ' ' || c == '\t'

/-- The lines of a text to be put in; a backslash at the end of a line continues it. -/
def textLines : Text → Text × Text
  | [] => ([], [])
  | '\\' :: c :: rest =>
    let (t, rest) := textLines rest
    (c :: t, rest)
  | '\n' :: rest => ([], rest)
  | c :: rest =>
    let (t, rest) := textLines rest
    (c :: t, rest)

def textOf (t : Text) : Text × Text :=
  let t := t.dropWhile isGap
  let t := match t with
    | '\\' :: rest =>
      match rest.dropWhile isGap with
      | '\n' :: more => more
      | more => more
    | _ => t
  let (text, rest) := textLines t
  (text ++ ['\n'], rest)

def flagsOf : Text → Text × Text := fun t =>
  let run := t.takeWhile fun c => c.isDigit || "gpiIe".toList.contains c
  (run, t.drop run.length)

def edit? (extended : Bool) : Text → Option (Edit × Text)
  | 'd' :: rest => some (.delete, rest)
  | 'D' :: rest => some (.deleteFirst, rest)
  | 'p' :: rest => some (.print, rest)
  | 'P' :: rest => some (.printFirst, rest)
  | 'q' :: rest =>
    let (n, rest) := digits (rest.dropWhile isGap)
    some (.quit true n, rest)
  | 'Q' :: rest =>
    let (n, rest) := digits (rest.dropWhile isGap)
    some (.quit false n, rest)
  | '=' :: rest => some (.lineNumber, rest)
  | 'n' :: rest => some (.next, rest)
  | 'N' :: rest => some (.nextToo, rest)
  | 'h' :: rest => some (.hold false, rest)
  | 'H' :: rest => some (.hold true, rest)
  | 'g' :: rest => some (.take false, rest)
  | 'G' :: rest => some (.take true, rest)
  | 'x' :: rest => some (.swap, rest)
  | '\x7b' :: rest => some (.block, rest)
  | '\x7d' :: rest => some (.close, rest)
  | 'a' :: rest => let (t, rest) := textOf rest; some (.append t, rest)
  | 'i' :: rest => let (t, rest) := textOf rest; some (.insert t, rest)
  | 'c' :: rest => let (t, rest) := textOf rest; some (.change t, rest)
  | ':' :: rest =>
    let name := (rest.dropWhile isGap).takeWhile fun c => c ≠ '\n' ∧ c ≠ ';'
    some (.label name, (rest.dropWhile isGap).drop name.length)
  | 's' :: mark :: rest => do
    let (pattern, rest) ← untilMark mark rest
    let (new, rest) ← untilMark mark rest
    let (flags, rest) := flagsOf rest
    let r ← Regex.parse? extended pattern
    let (n, _) := digits (flags.filter Char.isDigit)
    some (.substitute r (flags.contains 'i' || flags.contains 'I') (replacement new)
      (flags.contains 'g') (max 1 n) (flags.contains 'p'), rest)
  | 'y' :: mark :: rest => do
    let (old, rest) ← untilMark mark rest
    let (new, rest) ← untilMark mark rest
    let plain (t : Text) : Text := (replacement t).flatMap fun r => match r with
      | .text t => t
      | _ => ['&']
    if (plain old).length ≠ (plain new).length then none
    else some (.exchange ((plain old).zip (plain new)), rest)
  | c :: rest =>
    if c = 'b' ∨ c = 't' ∨ c = 'T' then
      let name := (rest.dropWhile isGap).takeWhile fun c => c ≠ '\n' ∧ c ≠ ';' ∧ c ≠ '\x7d'
      let changed := if c = 'b' then none else some (c == 't')
      some (.jump name changed, (rest.dropWhile isGap).drop name.length)
    else none
  | [] => none

def script? (extended : Bool) : Nat → Text → Option (List Instruction)
  | 0, _ => none
  | fuel + 1, t => do
    let t := t.dropWhile fun c => isGap c || c == '\n' || c == ';'
    match t with
    | [] => some []
    | '#' :: rest => script? extended fuel (rest.dropWhile (· ≠ '\n'))
    | _ =>
      let (first, rest) ← address? extended t
      let rest := rest.dropWhile isGap
      let (second, rest) ← match first, rest with
        | some _, ',' :: more => address? extended (more.dropWhile isGap)
        | _, _ => some (none, rest)
      let rest := rest.dropWhile isGap
      let (negated, rest) := match rest with
        | '!' :: more => (true, more.dropWhile isGap)
        | _ => (false, rest)
      let (edit, rest) ← edit? extended rest
      some (⟨first, second, negated, edit⟩ :: (← script? extended fuel rest))

end Edit

/-- The stream that is edited. -/
structure Stream where
  /-- The lines that are left, with their ends. -/
  left : List Text
  current : Text
  /-- The end of the current line. -/
  ending : Text
  held : Text
  number : Nat
  changed : Bool
  /-- What follows the current line. -/
  after : Text
  shown : Text
  /-- The instructions whose second address was not met yet, and the line it is met at. -/
  inside : List (Nat × Option Nat)
  status : Nat

/-- How a pass through the instructions goes on. -/
inductive Passing where
  | done
  | deleted
  | again
  | quit (shows : Bool)
deriving DecidableEq

namespace Stream

def put (s : Stream) (t : Text) : Stream := { s with shown := s.shown ++ t }

def isLast (s : Stream) : Bool := s.left.isEmpty

def meets (s : Stream) : Address → Bool
  | .number n => s.number = n
  | .last => s.isLast
  | .fits r ignoreCase => (r.find? ignoreCase [] s.current).isSome
  | .every first step =>
    if step = 0 then s.number = first else first ≤ s.number && (s.number - first) % step == 0
  | .further _ => false

/-- Whether a range that starts at the current line has its only line in it. -/
def endsAtOnce (s : Stream) (stop : Option Nat) (a : Address) : Bool :=
  match stop, a with
  | some n, _ => n ≤ s.number
  | none, .number n => n ≤ s.number
  | none, .last => s.isLast
  | none, _ => false

/-- Whether an instruction is for the current line. -/
def chooses (s : Stream) (index : Nat) (i : Instruction) : Bool × Stream :=
  match i.first, i.second with
  | none, _ => (!i.negated, s)
  | some a, none => (s.meets a != i.negated, s)
  | some a, some b =>
    match s.inside.lookup index with
    | some stop =>
      let ends : Bool := match stop, b with
        | some n, _ => n ≤ s.number
        | none, .number n => n ≤ s.number
        | none, b => s.meets b
      let beyond : Bool := match b with
        | .number n => n < s.number
        | _ => false
      let s := if ends then { s with inside := s.inside.filter (·.1 ≠ index) } else s
      ((!beyond) != i.negated, s)
    | none =>
      if s.meets a then
        let stop := match b with
          | .further n => some (s.number + n)
          | _ => none
        let opened := { s with inside := (index, stop) :: s.inside }
        (!i.negated, bif s.endsAtOnce stop b then s else opened)
      else (i.negated, s)

def caseOf (upper : Bool) (c : Char) : Char := if upper then c.toUpper else c.toLower

/-- What is put in place of a part, with what its groups took. -/
def filled (found : Text) (groups : List (Nat × Text)) :
    Option Bool → Option Bool → List Replacement → Text
  | _, _, [] => []
  | mode, once, r :: more =>
    let shown (t : Text) : Text :=
      let t := match mode with
        | some upper => t.map (caseOf upper)
        | none => t
      let t := match once, t with
        | some upper, c :: rest => caseOf upper c :: rest
        | _, _ => t
      t ++ filled found groups mode (if t = [] then once else none) more
    match r with
    | .text t => shown t
    | .group 0 => shown found
    | .group n => shown ((groups.lookup n).getD [])
    | .case upper true => filled found groups mode upper more
    | .case upper false => filled found groups upper none more

/-- Replaces parts that fit from one on; behind a part an empty one does not count. -/
def substituted (r : Regex) (ignoreCase : Bool) (new : List Replacement) (all : Bool) :
    Nat → Nat → Bool → Text → Text → Text × Bool
  | 0, _, _, _, line => (line, false)
  | fuel + 1, skip, touching, before, line =>
    match r.find? ignoreCase before line with
    | none => (line, false)
    | some (a, b) =>
      let front := line.take (line.length - a.rest.length)
      let found := a.rest.take (a.rest.length - b.rest.length)
      let onward (text : Text) (skip : Nat) : Text × Bool :=
        if found = [] then
          match b.rest with
          | [] => (front ++ text, false)
          | c :: rest =>
            let (more, done) :=
              substituted r ignoreCase new all fuel skip false (c :: b.before) rest
            (front ++ text ++ c :: more, done)
        else
          let (more, done) := substituted r ignoreCase new all fuel skip true b.before b.rest
          (front ++ text ++ more, done)
      if found = [] ∧ touching ∧ front = [] then onward [] skip
      else if skip > 1 then onward found (skip - 1)
      else
        let text := filled found b.groups none none new
        if all then
          let (t, _) := onward text 1
          (t, true)
        else (front ++ text ++ b.rest, true)

def blockEnd (program : List Instruction) : Nat → Nat → Nat → Nat
  | 0, _, index => index
  | fuel + 1, depth, index =>
    match program[index]? with
    | none => index
    | some i =>
      match i.edit with
      | .block => blockEnd program fuel (depth + 1) (index + 1)
      | .close => if depth = 0 then index + 1 else blockEnd program fuel (depth - 1) (index + 1)
      | _ => blockEnd program fuel depth (index + 1)

def labelled (program : List Instruction) (name : Text) : Nat :=
  (program.findIdx? fun i => match i.edit with
    | .label n => n == name
    | _ => false).getD program.length

def firstLine (t : Text) : Text := t.takeWhile (· ≠ '\n')

def flush (s : Stream) (shows : Bool) : Stream :=
  let s := if shows then s.put (s.current ++ s.ending) else s
  { s with shown := s.shown ++ s.after, after := [] }

/-- Takes the next line, if there is one. -/
def advance? (s : Stream) : Option (Text × Stream) :=
  match s.left with
  | [] => none
  | l :: left =>
    let ended := l.getLast? = some '\n'
    some (if ended then l.dropLast else l,
      { s with left, number := s.number + 1, ending := if ended then ['\n'] else [] })

/-- Goes through the instructions from one on. -/
def pass (program : List Instruction) (quiet : Bool) : Nat → Nat → Stream → Stream × Passing
  | 0, _, s => (s, .done)
  | fuel + 1, index, s =>
    match program[index]? with
    | none => (s, .done)
    | some i =>
      let (chosen, s) := s.chooses index i
      let next (s : Stream) : Stream × Passing := pass program quiet fuel (index + 1) s
      if !chosen then
        match i.edit with
        | .block => pass program quiet fuel (blockEnd program program.length 0 (index + 1)) s
        | _ => next s
      else match i.edit with
        | .delete => (s, .deleted)
        | .deleteFirst =>
          if '\n' ∈ s.current then
            ({ s with current := (s.current.drop (firstLine s.current).length).tail }, .again)
          else (s, .deleted)
        | .print => next (s.put (s.current ++ ['\n']))
        | .printFirst => next (s.put (firstLine s.current ++ ['\n']))
        | .substitute r ignoreCase new all count shows =>
          let (t, done) :=
            substituted r ignoreCase new all (s.current.length + 2) count false [] s.current
          if done then
            let s := { s with current := t, changed := true }
            next (if shows then s.put (t ++ ['\n']) else s)
          else next s
        | .exchange pairs =>
          next { s with current := s.current.map fun c => (pairs.lookup c).getD c }
        | .quit shows status => ({ s with status }, .quit shows)
        | .lineNumber => next (s.put (Text.ofNat s.number ++ ['\n']))
        | .append t => next { s with after := s.after ++ t }
        | .insert t => next (s.put t)
        | .change t =>
          let inRange := (s.inside.lookup index).isSome
          (if inRange && !i.negated then s else s.put t, .deleted)
        | .next =>
          match s.advance? with
          | none => (s, .quit (!quiet))
          | some (l, s') =>
            let s := { s with ending := ['\n'] }.flush !quiet
            next { s' with shown := s.shown, after := [], current := l }
        | .nextToo =>
          match s.advance? with
          | none => (s, .quit (!quiet))
          | some (l, s') => next { s' with current := s.current ++ '\n' :: l }
        | .hold append =>
          next { s with held := if append then s.held ++ '\n' :: s.current else s.current }
        | .take append =>
          next { s with current := if append then s.current ++ '\n' :: s.held else s.held }
        | .swap => next { s with current := s.held, held := s.current }
        | .label _ | .block | .close => next s
        | .jump name changed =>
          let goes := match changed with
            | none => true
            | some c => s.changed == c
          let s := if changed.isSome then { s with changed := false } else s
          if !goes then next s
          else if name = [] then (s, .done)
          else pass program quiet fuel (labelled program name) s

/-- Goes through the lines. -/
def cycles (program : List Instruction) (quiet : Bool) : Nat → Bool → Stream → Stream
  | 0, _, s => s
  | fuel + 1, keep, s =>
    let started := if keep then some (s.current, s) else s.advance?
    match started with
    | none => s
    | some (l, s) =>
      match pass program quiet 100000 0 { s with current := l, changed := false } with
      | (s, .done) => cycles program quiet fuel false (s.flush !quiet)
      | (s, .deleted) => cycles program quiet fuel false (s.flush false)
      | (s, .again) => cycles program quiet fuel true (s.flush false)
      | (s, .quit shows) => s.flush (shows && !quiet)

def run (program : List Instruction) (quiet : Bool) (text : Text) : Stream :=
  let pieces := Text.pieces text
  cycles program quiet (4 * text.length + pieces.length + 2) false
    ⟨pieces, [], [], [], 0, false, [], [], [], 0⟩

end Stream

def sed (words : List Text) : Tool Unit :=
  withOptions 1 ⟨"nErsiuz", "e", [("quiet", 'n'), ("silent", 'n'), ("expression", 'e'),
    ("regexp-extended", 'E'), ("in-place", 'i')]⟩ words fun o => do
    let given := o.flags.filterMap fun (flag, value) => if flag = 'e' then some value else none
    let (parts, files) := match given, o.words with
      | [], script :: files => ([script], files)
      | given, files => (given, files)
    let text := Text.joinWith '\n' parts
    match parts, Edit.script? (o.has 'E' || o.has 'r') (text.length + 2) text with
    | [], _ =>
      mention "Usage: sed [OPTION]... \x7bscript-only-if-no-other-script\x7d [input-file]...".toList
      finish 1
    | _, none =>
      fail 1 ("-e expression #1, char 1: unknown command: `".toList ++ text.take 1 ++ ['\''])
    | _, some program =>
      let complaint (p : Text) (cause : IoError) : Text :=
        if cause = .isDirectory then
          "couldn't edit ".toList ++ p ++ ": not a regular file".toList
        else "can't read ".toList ++ p ++ ": ".toList ++ problem cause
      let found ← sources 2 complaint (orInput files)
      if o.has 'i' then
        for (p, t) in found do
          let s := Stream.run program (o.has 'n') t
          let m := (← get).machine
          change ("couldn't open file ".toList ++ p)
            (m.tree.write m.cwd (path p) (Octets.toBytes s.shown))
          if s.status ≠ 0 then finish s.status
      else if o.has 's' then
        for (_, t) in found do say (Stream.run program (o.has 'n') t).shown
      else
        let joined := found.foldr (fun (_, t) rest =>
          if t ≠ [] ∧ t.getLast? ≠ some '\n' ∧ rest ≠ [] then t ++ '\n' :: rest else t ++ rest) []
        let s := Stream.run program (o.has 'n') joined
        say s.shown
        if s.status ≠ 0 then finish s.status

end TripleSlash.Shell.Tool
