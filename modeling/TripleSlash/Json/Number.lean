import TripleSlash.Json.Scalar

/-! Numbers that are named in a message. Whole numbers of 64 bits are kept as they are, all
others become binary64 values: digits are gathered as long as they fit 64 bits, the rest of
them only count for the power of ten. -/
namespace TripleSlash.Json

def mostUnsigned : Nat := (1 <<< 64) - 1

def mostNegative : Nat := 1 <<< 63

def mostExponent : Nat := (1 <<< 31) - 1

def startsWithDigit (t : Text) : Bool := (t.head?.map Char.isDigit).getD false

/-- Gathers digits as long as the number stays within the limit; also tells how many. -/
def gather (limit n : Nat) : Text → Nat × Nat × Text
  | c :: rest =>
    let m := n * 10 + (c.toNat - 48)
    if c.isDigit ∧ m ≤ limit then
      let (n, count, rest) := gather limit m rest
      (n, count + 1, rest)
    else (n, 0, c :: rest)
  | [] => (n, 0, [])

def floating (negative : Bool) (n : Nat) (tens : Int) (rest : Text) :
    Except Fault (Found × Text) :=
  match Binary64.ofDecimal? n tens with
  | none => here .numberOutOfRange rest
  | some value => .ok (.floating negative value, rest)

/-- Reads an exponent behind its letter. One that is out of all bounds makes zero, unless it
would make the number infinite. -/
def readExponent (negative : Bool) (n : Nat) (tens : Int) (t : Text) :
    Except Fault (Found × Text) :=
  let (down, t) := match t with
    | '+' :: rest => (false, rest)
    | '-' :: rest => (true, rest)
    | t => (false, t)
  match t with
  | [] => here .endInValue []
  | c :: rest =>
    if !c.isDigit then ahead .invalidNumber (c :: rest)
    else
      let (exponent, _, rest) := gather mostExponent (c.toNat - 48) rest
      if startsWithDigit rest then
        if n ≠ 0 ∧ !down then here .numberOutOfRange rest.tail
        else .ok (.floating negative .zero, digits rest)
      else floating negative n (if down then tens - exponent else tens + exponent) rest

def readTail (negative : Bool) (n : Nat) (tens : Int) : Text → Except Fault (Found × Text)
  | 'e' :: rest | 'E' :: rest => readExponent negative n tens rest
  | rest => floating negative n tens rest

/-- Reads the digits behind a point. -/
def readDecimals (negative : Bool) (n : Nat) (tens : Int) (t : Text) :
    Except Fault (Found × Text) :=
  let (n, count, rest) := gather mostUnsigned n t
  if startsWithDigit rest then readTail negative n (tens - count) (digits rest)
  else if count = 0 then
    match rest with
    | [] => here .endInValue []
    | rest => ahead .invalidNumber rest
  else readTail negative n (tens - count) rest

/-- Reads what follows a whole part that fits 64 bits. -/
def readFraction (negative : Bool) (n : Nat) : Text → Except Fault (Found × Text)
  | '.' :: rest => readDecimals negative n 0 rest
  | 'e' :: rest | 'E' :: rest => readExponent negative n 0 rest
  | rest =>
    if !negative then .ok (.integer n, rest)
    else if n ≠ 0 ∧ n ≤ mostNegative then .ok (.integer (-n), rest)
    else floating true n 0 rest

/-- Reads a number without its sign. -/
def readNumber (negative : Bool) : Text → Except Fault (Found × Text)
  | [] => here .endInValue []
  | '0' :: rest =>
    if startsWithDigit rest then ahead .invalidNumber rest else readFraction negative 0 rest
  | c :: rest =>
    if !c.isDigit then ahead .invalidNumber (c :: rest)
    else
      let (n, _, rest) := gather mostUnsigned (c.toNat - 48) rest
      if !startsWithDigit rest then readFraction negative n rest
      else
        let tens := rest.length - (digits rest).length
        match digits rest with
        | '.' :: rest => readDecimals negative n tens rest
        | rest => readTail negative n tens rest

/-- Names what stands where something else was expected. Brackets are left in place. -/
def readFound : Text → Except Fault (Found × Text)
  | 'n' :: rest => (literal "ull".toList rest).map fun rest => (.null, rest)
  | 't' :: rest => (literal "rue".toList rest).map fun rest => (.boolean true, rest)
  | 'f' :: rest => (literal "alse".toList rest).map fun rest => (.boolean false, rest)
  | '"' :: rest => (readString rest).map fun (value, rest) => (.string value, rest)
  | '[' :: rest => .ok (.sequence, '[' :: rest)
  | '\x7b' :: rest => .ok (.map, '\x7b' :: rest)
  | '-' :: rest => readNumber true rest
  | c :: rest =>
    if c.isDigit then readNumber false (c :: rest) else ahead .expectedValue (c :: rest)
  | [] => here .endInValue []

/-- Complains about what stands where something else was expected. -/
def mismatch {α : Type} (expected : Text) (t : Text) : Except Fault α := do
  let (found, rest) ← readFound t
  here (.invalidType found expected) rest

end TripleSlash.Json
