import TripleSlash.Text

/-! Patterns for whole texts: an asterisk stands for any characters, a question mark for one,
and brackets for one of a set. Quoted characters stand for themselves. -/
namespace TripleSlash.Shell

/-- A character and whether it was quoted. -/
abbrev Marked := List (Char × Bool)

/-- Some of the characters of a set. -/
inductive Member where
  | range (low high : Char)
  | kind (name : String)
deriving DecidableEq, Repr

namespace Member

/-- The kinds of characters that have a name; none has a character beyond ASCII. -/
def isKind (name : String) (c : Char) : Bool :=
  let graphic := 0x20 < c.toNat && c.toNat < 0x7F
  match name with
  | "alpha" => c.isAlpha
  | "digit" => c.isDigit
  | "alnum" => c.isAlphanum
  | "upper" => c.isUpper
  | "lower" => c.isLower
  | "space" => c == ' ' || (9 ≤ c.toNat && c.toNat ≤ 13)
  | "blank" => c == ' ' || c == '\t'
  | "punct" => graphic && !c.isAlphanum
  | "print" => graphic || c == ' '
  | "graph" => graphic
  | "cntrl" => c.toNat < 0x20 || c.toNat == 0x7F
  | "xdigit" => c.isDigit || ('a' ≤ c && c ≤ 'f') || ('A' ≤ c && c ≤ 'F')
  | _ => false

def holds (m : Member) (c : Char) : Bool :=
  match m with
  | range low high => low ≤ c && c ≤ high
  | kind name => isKind name c

/-- Reads the members of a set and the bracket that closes it, which cannot come first. -/
def readAll (first : Bool) : Nat → Marked → Option (List Member × Marked)
  | 0, _ => none
  | fuel + 1, t =>
    match t with
    | [] => none
    | ('[', false) :: (':', false) :: rest =>
      let name := rest.takeWhile (·.1.isAlpha)
      match rest.drop name.length with
      | (':', _) :: (']', _) :: rest => do
        let (members, rest) ← readAll false fuel rest
        some (kind (String.ofList (name.map (·.1))) :: members, rest)
      | _ => do
        let (members, rest) ← readAll false fuel ((':', false) :: rest)
        some (range '[' '[' :: members, rest)
    | (low, quoted) :: rest =>
      if low = ']' ∧ !quoted ∧ !first then some ([], rest)
      else match rest with
        | ('-', false) :: (high, highQuoted) :: more =>
          if high = ']' ∧ !highQuoted then do
            let (members, rest) ← readAll false fuel rest
            some (range low low :: members, rest)
          else do
            let (members, rest) ← readAll false fuel more
            some (range low high :: members, rest)
        | _ => do
          let (members, rest) ← readAll false fuel rest
          some (range low low :: members, rest)

end Member

inductive PatternPart where
  | char (c : Char)
  | any
  | run
  | set (negated : Bool) (members : List Member)
deriving DecidableEq, Repr

abbrev Pattern := List PatternPart

namespace Pattern

def parse : Nat → Marked → Pattern
  | 0, _ => []
  | fuel + 1, t =>
    match t with
    | [] => []
    | ('*', false) :: rest => .run :: parse fuel rest
    | ('?', false) :: rest => .any :: parse fuel rest
    | ('[', false) :: rest =>
      let negated := match rest with
        | (c, false) :: _ => c == '!' || c == '^'
        | _ => false
      match Member.readAll true (t.length + 1) (if negated then rest.tail else rest) with
      | some (members, rest) => .set negated members :: parse fuel rest
      | none => .char '[' :: parse fuel rest
    | ('\\', false) :: (c, _) :: rest => .char c :: parse fuel rest
    | (c, _) :: rest => .char c :: parse fuel rest

def ofMarked (t : Marked) : Pattern := parse (t.length + 1) t

/-- Whether characters of a text have a meaning of their own in it. -/
def isActive (t : Marked) : Bool :=
  t.any fun (c, quoted) => !quoted && (c == '*' || c == '?' || c == '[')

def fitsOne (c : Char) : PatternPart → Bool
  | .char d => c == d
  | .any | .run => true
  | .set negated members => (members.any (·.holds c)) != negated

/-- Whether a test holds for what is left of a text behind any number of characters. -/
def someRest (p : Text → Bool) : Text → Bool
  | [] => p []
  | c :: rest => p (c :: rest) || someRest p rest

def fits : Pattern → Text → Bool
  | [], t => t.isEmpty
  | .run :: parts, t => someRest (fits parts) t
  | part :: parts, c :: rest => fitsOne c part && fits parts rest
  | _ :: _, [] => false

/-- The text without the shortest or the longest part at one of its ends that fits. -/
def trim (p : Pattern) (atEnd longest : Bool) (t : Text) : Text :=
  let cuts := List.range (t.length + 1)
  let fitting := cuts.filter fun n => fits p (if atEnd then t.drop n else t.take n)
  let cut? := if atEnd != longest then fitting.getLast? else fitting.head?
  match cut? with
  | none => t
  | some n => if atEnd then t.take n else t.drop n

end Pattern
end TripleSlash.Shell
