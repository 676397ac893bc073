import TripleSlash.Shell.Command

/-! Arithmetic with whole numbers of 64 bits, in which a variable stands for the number that
its text is. A part that does not count, such as the one behind a condition that fails, is
read but changes nothing. -/
namespace TripleSlash.Shell.Arithmetic

/-- The number of 64 bits that a number is, up to a multiple of their count. -/
def wrap (n : Int) : Int := Int.bmod n 18446744073709551616

def digit? (base : Nat) (c : Char) : Option Nat :=
  let n := if c.isDigit then c.toNat - 48
    else if 'a' ≤ c ∧ c ≤ 'z' then c.toNat - 87
    else if 'A' ≤ c ∧ c ≤ 'Z' then c.toNat - 55
    else base
  if n < base then some n else none

def digits (base : Nat) (t : Text) : Nat × Text :=
  let run := t.takeWhile fun c => (digit? base c).isSome
  (run.foldl (fun n c => n * base + (digit? base c).getD 0) 0, t.drop run.length)

/-- The digits at the start of a text, in the base that its first characters tell. -/
def literal : Text → Nat × Text
  | '0' :: x :: c :: rest =>
    if (x = 'x' ∨ x = 'X') ∧ (digit? 16 c).isSome then digits 16 (c :: rest)
    else digits 8 ('0' :: x :: c :: rest)
  | '0' :: rest => digits 8 ('0' :: rest)
  | t => digits 10 t

def isGap (c : Char) : Bool := c == ' ' || (9 ≤ c.toNat && c.toNat ≤ 13)

/-- A number kept within the 64 bits by stopping at their ends. -/
def clamp (n : Int) : Int := max (-9223372036854775808) (min 9223372036854775807 n)

/-- The number that a text is, with blanks around it allowed. -/
def number? (anyBase : Bool) (t : Text) : Option Int :=
  let t := t.dropWhile isGap
  let (negative, t) := match t with
    | '-' :: rest => (true, rest)
    | '+' :: rest => (false, rest)
    | _ => (false, t)
  if (t.head?.map Char.isDigit).getD false then
    let (n, rest) := if anyBase then literal t else digits 10 t
    if rest.all isGap then some (clamp (if negative then -n else n)) else none
  else none

/-- What is still to be read, and the variables that were set so far. -/
structure Progress where
  rest : Text
  named : List (Text × Text)

abbrev Reading := StateT Progress (Except Text)

/-- The operators of two numbers, the longer before the shorter, with how tightly they bind. -/
def operators : List (String × Nat) :=
  [("<<", 8), (">>", 8), ("<=", 7), (">=", 7), ("==", 6), ("!=", 6), ("&&", 2), ("||", 1),
    ("*", 10), ("/", 10), ("%", 10), ("+", 9), ("-", 9), ("<", 7), (">", 7), ("&", 5), ("^", 4),
    ("|", 3)]

def assignments : List String := ["", "*", "/", "%", "+", "-", "<<", ">>", "&", "^", "|"]

/-- The bits of a number, as one that is not negative. -/
def bits (n : Int) : Nat := (n % 18446744073709551616).toNat

def truth (b : Bool) : Int := if b then 1 else 0

def operate (operator : String) (a b : Int) : Except Text Int :=
  match operator with
  | "*" => .ok (wrap (a * b))
  | "/" => if b = 0 then .error "division by zero".toList else .ok (wrap (Int.tdiv a b))
  | "%" => if b = 0 then .error "division by zero".toList else .ok (wrap (Int.tmod a b))
  | "+" => .ok (wrap (a + b))
  | "-" => .ok (wrap (a - b))
  | "<<" => .ok (wrap (Int.ofNat (bits a <<< (bits b % 64))))
  | ">>" => .ok (a >>> (bits b % 64))
  | "<=" => .ok (truth (a ≤ b))
  | ">=" => .ok (truth (a ≥ b))
  | "<" => .ok (truth (a < b))
  | ">" => .ok (truth (a > b))
  | "==" => .ok (truth (a = b))
  | "!=" => .ok (truth (a ≠ b))
  | "&" => .ok (wrap (Int.ofNat (bits a &&& bits b)))
  | "^" => .ok (wrap (Int.ofNat (bits a ^^^ bits b)))
  | "|" => .ok (wrap (Int.ofNat (bits a ||| bits b)))
  | _ => .error "expecting primary".toList

/-- Drops blanks and gives what is left. -/
def look : Reading Text :=
  modifyGet fun p =>
    let rest := p.rest.dropWhile isGap
    (rest, { p with rest })

def drop (count : Nat) : Reading Unit := modify fun p => { p with rest := p.rest.drop count }

def expect (c : Char) (complaint : String) : Reading Unit := do
  if (← look).head? = some c then drop 1 else throw complaint.toList

/-- The operator at the start of a text, unless it is the start of an assignment. -/
def operator? (t : Text) : Option (String × Nat) :=
  operators.find? fun (name, _) => name.toList.isPrefixOf t &&
    (["<=", ">=", "==", "!="].contains name || (t.drop name.length).head? != some '=' ||
      (t.drop name.length).take 2 == ['=', '='])

/-- The assignment behind a name: its operator and how long it is. -/
def assignment? (t : Text) : Option (String × Nat) :=
  (assignments.find? fun name => (name.toList ++ ['=']).isPrefixOf t &&
    !(name == "" && (t.drop 1).head? == some '=')).map fun name => (name, name.length + 1)

def valueOf (look : Text → Text) (name : Text) : Reading Int := do
  let text := ((← get).named.lookup name).getD (look name)
  if text.all isGap then return 0
  match number? true text with
  | some n => return n
  | none => throw ("Illegal number: ".toList ++ text)

mutual

def assigned (lookUp : Text → Text) : Nat → Bool → Reading Int
  | 0, _ => throw "expecting primary".toList
  | fuel + 1, counts => do
    let rest ← look
    let name := rest.takeWhile isNameRest
    let after := (rest.drop name.length).dropWhile isGap
    match if isName name then assignment? after else none with
    | none => conditional lookUp fuel counts
    | some (operator, length) =>
      modify fun p => { p with rest := after.drop length }
      let value ← assigned lookUp fuel counts
      if !counts then return value
      let value ← if operator = "" then pure value
        else operate operator (← valueOf lookUp name) value
      modify fun p => { p with named := (name, (toString value).toList) :: p.named }
      return value

def conditional (lookUp : Text → Text) : Nat → Bool → Reading Int
  | 0, _ => throw "expecting primary".toList
  | fuel + 1, counts => do
    let condition ← binary lookUp fuel counts 1
    if (← look).head? = some '?' then
      drop 1
      let a ← assigned lookUp fuel (counts && condition != 0)
      expect ':' "expecting ':'"
      let b ← conditional lookUp fuel (counts && condition == 0)
      return if condition ≠ 0 then a else b
    else return condition

/-- Reads numbers with operators that bind at least as tightly as a level. -/
def binary (lookUp : Text → Text) : Nat → Bool → Nat → Reading Int
  | 0, _, _ => throw "expecting primary".toList
  | fuel + 1, counts, level => do more lookUp fuel counts level (← unary lookUp fuel counts)

def more (lookUp : Text → Text) : Nat → Bool → Nat → Int → Reading Int
  | 0, _, _, _ => throw "expecting primary".toList
  | fuel + 1, counts, level, a => do
    match operator? (← look) with
    | none => return a
    | some (operator, tightness) =>
      if tightness < level then return a
      drop operator.length
      let needed := match operator with
        | "&&" => a != 0
        | "||" => a == 0
        | _ => true
      let b ← binary lookUp fuel (counts && needed) (tightness + 1)
      let value ← match operator with
        | "&&" => pure (truth (a != 0 && b != 0))
        | "||" => pure (truth (a != 0 || b != 0))
        | _ => if counts then (operate operator a b : Except Text Int) else pure 0
      more lookUp fuel counts level value

def unary (lookUp : Text → Text) : Nat → Bool → Reading Int
  | 0, _ => throw "expecting primary".toList
  | fuel + 1, counts => do
    match ← look with
    | '!' :: _ =>
      drop 1
      return truth ((← unary lookUp fuel counts) = 0)
    | '~' :: _ =>
      drop 1
      return -(← unary lookUp fuel counts) - 1
    | '-' :: _ =>
      drop 1
      return wrap (-(← unary lookUp fuel counts))
    | '+' :: _ =>
      drop 1
      unary lookUp fuel counts
    | '(' :: _ =>
      drop 1
      let value ← assigned lookUp fuel counts
      expect ')' "expecting ')'"
      return value
    | c :: rest =>
      if c.isDigit then
        let (n, rest) := literal (c :: rest)
        modify fun p => { p with rest }
        return clamp n
      else if isNameStart c then
        let name := (c :: rest).takeWhile isNameRest
        drop name.length
        if counts then valueOf lookUp name else return 0
      else throw "expecting primary".toList
    | [] => throw "expecting primary".toList

end

def whole (lookUp : Text → Text) (t : Text) : Reading Int := do
  if t.all isGap then return 0
  let value ← assigned lookUp (16 * t.length + 16) true
  if (← look) = [] then return value else throw "expecting EOF".toList

/-- The number that an expression stands for and the variables that it sets, the last of
which comes first. -/
def evaluate (lookUp : Text → Text) (t : Text) : Except Text (Int × List (Text × Text)) :=
  match (whole lookUp t).run ⟨t, []⟩ with
  | .ok (value, progress) => .ok (value, progress.named)
  | .error complaint =>
    if "Illegal".toList.isPrefixOf complaint then .error complaint
    else .error ("arithmetic expression: ".toList ++ complaint ++ ": \"".toList ++ t ++ ['"'])

end TripleSlash.Shell.Arithmetic
