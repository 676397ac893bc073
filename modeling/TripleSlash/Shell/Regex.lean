import TripleSlash.Shell.Pattern

/-! Regular expressions for parts of lines, in the basic spelling and in the extended one. Of
all parts that fit from the first place on where any does, the longest is found. -/
namespace TripleSlash.Shell

inductive Regex where
  | nothing
  | char (c : Char)
  | any
  | set (negated : Bool) (members : List Member)
  | start
  | finish
  /-- Between a character of a word and one of none; where those are on either side. -/
  | edge (wordBefore wordAfter : Option Bool)
  | both (first next : Regex)
  | either (first next : Regex)
  | group (number : Nat) (inner : Regex)
  | again (number : Nat)
  | times (inner : Regex) (least : Nat) (most : Option Nat)
deriving DecidableEq, Repr

namespace Regex

/-- A place in a text, and what the groups took up to it. -/
structure Spot where
  /-- What is in front, the last character first. -/
  before : Text
  rest : Text
  groups : List (Nat × Text)
deriving Repr

def isWord (c : Char) : Bool := c.isAlphanum || c == '_'

def fold (ignoreCase : Bool) (c : Char) : Char := if ignoreCase then c.toLower else c

/-- The place behind one character that passes a test. -/
def one (p : Char → Bool) (s : Spot) : List Spot :=
  match s.rest with
  | c :: rest => if p c then [⟨c :: s.before, rest, s.groups⟩] else []
  | [] => []

/-- The places behind a number of steps, those after more steps first. A step that goes
nowhere is taken only where it is needed. -/
def iterate (step : Spot → List Spot) : Nat → Nat → Option Nat → Spot → List Spot
  | 0, _, _, s => [s]
  | fuel + 1, least, most, s =>
    let further := if most = some 0 then [] else
      (step s).flatMap fun t =>
        if t.rest.length < s.rest.length ∨ 0 < least then
          iterate step fuel (least - 1) (most.map (· - 1)) t
        else []
    if least = 0 then further ++ [s] else further

/-- The places that an expression leads to from a place. -/
def ends (ignoreCase : Bool) : Regex → Spot → List Spot
  | .nothing, s => [s]
  | .char c, s => one (fun d => fold ignoreCase d == fold ignoreCase c) s
  | .any, s => one (fun _ => true) s
  | .set negated members, s =>
    one (fun c => (members.any fun m => m.holds c ||
      (ignoreCase && (m.holds c.toLower || m.holds c.toUpper))) != negated) s
  | .start, s => if s.before = [] then [s] else []
  | .finish, s => if s.rest = [] then [s] else []
  | .edge before after, s =>
    let a := (s.before.head?.map isWord).getD false
    let b := (s.rest.head?.map isWord).getD false
    if a != b && before.all (· == a) && after.all (· == b) then [s] else []
  | .both first next, s => (ends ignoreCase first s).flatMap (ends ignoreCase next)
  | .either first next, s => ends ignoreCase first s ++ ends ignoreCase next s
  | .group number inner, s =>
    (ends ignoreCase inner s).map fun t =>
      let taken := s.rest.take (s.rest.length - t.rest.length)
      { t with groups := (number, taken) :: t.groups.filter (·.1 ≠ number) }
  | .again number, s =>
    let text := (s.groups.lookup number).getD []
    match Text.after? text s.rest with
    | some rest => [⟨text.reverse ++ s.before, rest, s.groups⟩]
    | none => []
  | .times inner least most, s =>
    iterate (ends ignoreCase inner) (s.rest.length + least + 1) least most s

/-- The one of some places that is furthest on, and the first of those. -/
def furthest : List Spot → Option Spot
  | [] => none
  | s :: more =>
    match furthest more with
    | some t => if t.rest.length < s.rest.length then some t else some s
    | none => some s

/-- The first part that fits from a place on: where it starts and where it ends. -/
def find? (r : Regex) (ignoreCase : Bool) (before : Text) : Text → Option (Spot × Spot)
  | [] =>
    let here : Spot := ⟨before, [], []⟩
    (furthest (ends ignoreCase r here)).map fun t => (here, t)
  | c :: rest =>
    let here : Spot := ⟨before, c :: rest, []⟩
    match furthest (ends ignoreCase r here) with
    | some t => some (here, t)
    | none => find? r ignoreCase (c :: before) rest

/-- What is read so far: the rest, and how many groups were opened. -/
structure Progress where
  rest : Text
  groups : Nat

abbrev Reading := StateT Progress Option

def drop (count : Nat) : Reading Unit := modify fun p => { p with rest := p.rest.drop count }

/-- A count in braces. -/
def bounds : Reading (Nat × Option Nat) := do
  let rest := (← get).rest
  let low := rest.takeWhile Char.isDigit
  let number (t : Text) : Nat := t.foldl (fun n c => n * 10 + (c.toNat - 48)) 0
  match rest.drop low.length with
  | ',' :: more =>
    let high := more.takeWhile Char.isDigit
    drop (low.length + 1 + high.length)
    return (number low, if high = [] then none else some (number high))
  | _ =>
    drop low.length
    if low = [] then failure
    return (number low, some (number low))

def shorthand? (c : Char) : Option Regex :=
  let word : List Member := [.kind "alnum", .range '_' '_']
  match c with
  | 'w' => some (.set false word)
  | 'W' => some (.set true word)
  | 's' => some (.set false [.kind "space"])
  | 'S' => some (.set true [.kind "space"])
  | 'b' => some (.edge none none)
  | '<' => some (.edge (some false) (some true))
  | '>' => some (.edge (some true) (some false))
  | 'n' => some (.char '\n')
  | 't' => some (.char '\t')
  | _ => none

mutual

def alternatives (extended : Bool) : Nat → Reading Regex
  | 0 => failure
  | fuel + 1 => do
    let first ← sequence extended fuel true .nothing
    match extended, (← get).rest with
    | true, '|' :: _ =>
      drop 1
      return .either first (← alternatives extended fuel)
    | false, '\\' :: '|' :: _ =>
      drop 2
      return .either first (← alternatives extended fuel)
    | _, _ => return first

/-- Reads parts one after the other, behind those read before. -/
def sequence (extended : Bool) : Nat → Bool → Regex → Reading Regex
  | 0, _, _ => failure
  | fuel + 1, first, before => do
    let rest := (← get).rest
    let closes := match extended, rest with
      | _, [] => true
      | true, '|' :: _ | false, '\\' :: '|' :: _ | false, '\\' :: ')' :: _ => true
      | true, ')' :: _ => true
      | _, _ => false
    if closes then return before
    let part ← atom extended fuel first
    let part ← suffixes extended fuel part
    sequence extended fuel (part = .start) (if before = .nothing then part else .both before part)

def atom (extended : Bool) : Nat → Bool → Reading Regex
  | 0, _ => failure
  | fuel + 1, first => do
    match extended, (← get).rest with
    | _, '.' :: _ =>
      drop 1
      return .any
    | _, '[' :: rest =>
      let negated := rest.head? == some '^'
      let inside := (if negated then rest.tail else rest).map fun c => (c, false)
      match Member.readAll true (inside.length + 1) inside with
      | none => failure
      | some (members, rest) =>
        modify fun p => { p with rest := rest.map (·.1) }
        return .set negated members
    | true, '(' :: _ =>
      drop 1
      let number := (← get).groups + 1
      modify fun p => { p with groups := number }
      let inner ← alternatives extended fuel
      if (← get).rest.head? ≠ some ')' then failure
      drop 1
      return .group number inner
    | false, '\\' :: '(' :: _ =>
      drop 2
      let number := (← get).groups + 1
      modify fun p => { p with groups := number }
      let inner ← alternatives extended fuel
      if (← get).rest.take 2 ≠ ['\\', ')'] then failure
      drop 2
      return .group number inner
    | extended, '^' :: _ =>
      drop 1
      return if extended || first then .start else .char '^'
    | extended, '$' :: rest =>
      drop 1
      let last := rest = [] ∨ (!extended ∧ rest.take 2 = ['\\', ')'])
      return if extended || last then .finish else .char '$'
    | _, '\\' :: c :: _ =>
      drop 2
      if c.isDigit && c != '0' then return .again (c.toNat - 48)
      return (shorthand? c).getD (.char c)
    | _, '\\' :: [] => failure
    | true, '*' :: _ | true, '+' :: _ | true, '?' :: _ => failure
    | _, c :: _ =>
      drop 1
      return .char c
    | _, [] => failure

/-- Reads how often a part is repeated. -/
def suffixes (extended : Bool) : Nat → Regex → Reading Regex
  | 0, _ => failure
  | fuel + 1, part => do
    if !extended && part = .start then return part
    match extended, (← get).rest with
    | _, '*' :: _ =>
      drop 1
      suffixes extended fuel (.times part 0 none)
    | true, '+' :: _ =>
      drop 1
      suffixes extended fuel (.times part 1 none)
    | true, '?' :: _ =>
      drop 1
      suffixes extended fuel (.times part 0 (some 1))
    | false, '\\' :: '+' :: _ =>
      drop 2
      suffixes extended fuel (.times part 1 none)
    | false, '\\' :: '?' :: _ =>
      drop 2
      suffixes extended fuel (.times part 0 (some 1))
    | true, '\x7b' :: _ =>
      drop 1
      let (least, most) ← bounds
      if (← get).rest.head? ≠ some '\x7d' then failure
      drop 1
      suffixes extended fuel (.times part least most)
    | false, '\\' :: '\x7b' :: _ =>
      drop 2
      let (least, most) ← bounds
      if (← get).rest.take 2 ≠ ['\\', '\x7d'] then failure
      drop 2
      suffixes extended fuel (.times part least most)
    | _, _ => return part

end

def parse? (extended : Bool) (t : Text) : Option Regex := do
  let (r, p) ← (alternatives extended (8 * t.length + 16)).run ⟨t, 0⟩
  if p.rest = [] then some r else none

/-- The expression for a text as it stands. -/
def ofText : Text → Regex
  | [] => .nothing
  | [c] => .char c
  | c :: rest => .both (.char c) (ofText rest)

end Regex
end TripleSlash.Shell
