import TripleSlash.Machine
import TripleSlash.Shell.Arithmetic
import TripleSlash.Text.Octets

/-! Conditions on texts, numbers and files, which scripts test. A word that could be an
operator is a plain text where it stands alone or in front of an operator of two. -/
namespace TripleSlash.Shell.Condition

inductive Operator where
  /-- About one text. -/
  | one (name : String)
  /-- About two texts. -/
  | two (name : String)
  | negation
  | both
  | either
  | opening
  | closing
deriving DecidableEq, Repr

def ofOne : List String :=
  ["-r", "-w", "-x", "-e", "-f", "-d", "-c", "-b", "-p", "-u", "-g", "-k", "-s", "-t", "-z", "-n",
    "-h", "-L", "-O", "-G", "-S"]

def ofTwo : List String :=
  ["=", "!=", "<", ">", "-eq", "-ne", "-ge", "-gt", "-le", "-lt", "-nt", "-ot", "-ef"]

def operator? (t : Text) : Option Operator :=
  let name := String.ofList t
  match name with
  | "!" => some .negation
  | "-a" => some .both
  | "-o" => some .either
  | "(" => some .opening
  | ")" => some .closing
  | _ =>
    if ofOne.contains name then some (.one name)
    else if ofTwo.contains name then some (.two name)
    else none

/-- The operator that words start with, where the first is not a plain text. -/
def lead? : List Text → Option Operator
  | [] => none
  | t :: rest =>
    match operator? t, rest with
    | some (.one _), [] => none
    | some (.one name), [_] => some (.one name)
    | some (.one name), next :: _ =>
      match operator? next with
      | some (.two _) => none
      | _ => some (.one name)
    | some .opening, [] => none
    | found, _ => found

def number (t : Text) : Except Text Int :=
  match Arithmetic.number? false t with
  | some n => .ok n
  | none => .error ("Illegal number: ".toList ++ t)

def isLink (m : Machine) (p : Path) : Bool :=
  match m.tree.spotOfName m.cwd p with
  | .ok (some (dir, name)) =>
    match m.tree.find? (dir ++ [name]) with
    | some (.link _) => true
    | _ => false
  | _ => false

def holdsOfOne (m : Machine) (name : String) (t : Text) : Except Text Bool :=
  let p : Path := ⟨Octets.toText t⟩
  match name with
  | "-n" => .ok (t ≠ [])
  | "-z" => .ok (t = [])
  | "-e" | "-r" | "-w" | "-O" | "-G" => .ok (m.tree.present m.cwd p)
  | "-f" => .ok (m.tree.isFile m.cwd p)
  | "-d" => .ok (m.tree.isDirectory m.cwd p)
  | "-c" => .ok (match m.tree.entry m.cwd p with
    | .ok .void => true
    | _ => false)
  | "-h" | "-L" => .ok (isLink m p)
  | "-s" => .ok (match m.tree.readBytes m.cwd p with
    | .ok bytes => bytes ≠ []
    | .error _ => m.tree.isDirectory m.cwd p)
  | "-x" => .ok (match m.tree.entry m.cwd p with
    | .ok (.file _ executable) => executable
    | .ok .directory => true
    | _ => false)
  | "-t" => do
    let _ ← number t
    .ok false
  | _ => .ok false

def holdsOfTwo (m : Machine) (name : String) (a b : Text) : Except Text Bool :=
  let numbers (p : Int → Int → Bool) : Except Text Bool := do
    return p (← number a) (← number b)
  match name with
  | "=" => .ok (a = b)
  | "!=" => .ok (a ≠ b)
  | "<" => .ok (!Text.isLe b a)
  | ">" => .ok (!Text.isLe a b)
  | "-eq" => numbers fun x y => x = y
  | "-ne" => numbers fun x y => x ≠ y
  | "-lt" => numbers fun x y => x < y
  | "-le" => numbers fun x y => x ≤ y
  | "-gt" => numbers fun x y => x > y
  | "-ge" => numbers fun x y => x ≥ y
  | "-ef" =>
    let place (t : Text) : Option Location := match m.tree.spot m.cwd ⟨Octets.toText t⟩ with
      | .ok (.taken place) => some place
      | _ => none
    .ok ((place a).isSome && place a == place b)
  | _ => .ok false

/-- Reading stands at a word, the last one that was understood. -/
abbrev Reading := StateT (List Text) (Except Text)

def advance : Reading Unit := modify List.tail

def ahead : Reading (Option Operator) := do return lead? (← get).tail

mutual

def anyOf (m : Machine) : Nat → Option Operator → Reading Bool
  | 0, _ => pure false
  | fuel + 1, lead => do
    let a ← allOf m fuel lead
    if (← ahead) = some .either then
      advance
      advance
      let b ← anyOf m fuel (lead? (← get))
      return a || b
    else return a

def allOf (m : Machine) : Nat → Option Operator → Reading Bool
  | 0, _ => pure false
  | fuel + 1, lead => do
    let a ← negated m fuel lead
    if (← ahead) = some .both then
      advance
      advance
      let b ← allOf m fuel (lead? (← get))
      return a && b
    else return a

def negated (m : Machine) : Nat → Option Operator → Reading Bool
  | 0, _ => pure false
  | fuel + 1, lead => do
    if lead ≠ some .negation then primary m fuel lead
    else
      let next ← ahead
      if (← get).tail = [] then return true
      advance
      return !(← negated m fuel next)

def primary (m : Machine) : Nat → Option Operator → Reading Bool
  | 0, _ => pure false
  | fuel + 1, lead => do
    match ← get with
    | [] => return false
    | t :: rest =>
      match lead with
      | some .opening =>
        advance
        let next := lead? (← get)
        if next = some .closing then return false
        let found ← anyOf m fuel next
        advance
        if lead? (← get) = some .closing then return found
        else throw "closing paren expected".toList
      | some (.one name) =>
        advance
        match rest with
        | [] => throw (name.toList ++ ": argument expected".toList)
        | operand :: _ => (holdsOfOne m name operand : Except Text Bool)
      | _ =>
        match ← ahead, rest with
        | some (.two name), _ :: b :: _ =>
          advance
          advance
          (holdsOfTwo m name t b : Except Text Bool)
        | some (.two name), _ => throw (name.toList ++ ": argument expected".toList)
        | _, _ => return t ≠ []

end

/-- Reads a condition that has to take up all words. -/
def whole (m : Machine) (words : List Text) (lead : Option Operator) : Except Text Bool := do
  let (found, left) ← (anyOf m (4 * words.length + 4) lead).run words
  match left with
  | t :: _ :: _ => throw (t ++ ": unexpected operator".toList)
  | _ => return found

/-- Whether words are a condition that holds. -/
def holds (m : Machine) : Nat → List Text → Except Text Bool
  | 0, _ => .ok false
  | fuel + 1, words =>
    let isPair := match words with
      | [_, op, _] => match operator? op with
        | some (.two _) => true
        | _ => false
      | _ => false
    if words = [] then .ok false
    else if isPair then whole m words none
    else if words.length = 3 ∨ words.length = 4 then
      if words.head? = some ['('] ∧ words.getLast? = some [')'] then
        let inner := words.tail.dropLast
        whole m inner (lead? inner)
      else if words.head? = some ['!'] then (holds m fuel words.tail).map (!·)
      else whole m words (lead? words)
    else whole m words (lead? words)

end TripleSlash.Shell.Condition
