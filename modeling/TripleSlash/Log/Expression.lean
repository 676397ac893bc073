import TripleSlash.Text

/-! Expressions that the value of a field is compared with. Only whether one can be read
matters here, since a field with a value is looked for in spans alone. -/
namespace TripleSlash.Log

inductive ExpressionFault where
  | unreadable
  /-- It asks for the ends of words. -/
  | wordEnd
deriving DecidableEq, Repr

def ExpressionFault.message : ExpressionFault → Text
  | unreadable => "error building NFA".toList
  | wordEnd =>
    ("unsupported regex feature for DFAs: cannot build DFAs for regexes with Unicode word " ++
      "boundaries; switch to ASCII word boundaries, or heuristically enable Unicode word " ++
      "boundaries or use a different regex engine").toList

namespace Expression

/-- Whether a text is a decimal number, perhaps with a fraction and an exponent. -/
def isNumber (t : Text) : Bool :=
  let t := match t with
    | '+' :: rest | '-' :: rest => rest
    | _ => t
  let name := t.map Char.toLower
  let whole := t.takeWhile Char.isDigit
  let rest := t.drop whole.length
  let (places, rest) := match rest with
    | '.' :: more => (more.takeWhile Char.isDigit, more.dropWhile Char.isDigit)
    | _ => ([], rest)
  let exponent := match rest with
    | [] => true
    | e :: '+' :: digits | e :: '-' :: digits =>
      (e == 'e' || e == 'E') && digits != [] && digits.all Char.isDigit
    | e :: digits => (e == 'e' || e == 'E') && digits != [] && digits.all Char.isDigit
  (["inf", "infinity", "nan"].map String.toList).contains name ||
    ((whole != [] || places != []) && exponent)

def isHex (c : Char) : Bool :=
  c.isDigit || ('a' ≤ c && c ≤ 'f') || ('A' ≤ c && c ≤ 'F')

/-- The value of hexadecimal digits. -/
def hexValue (t : Text) : Nat :=
  t.foldl (fun n c => 16 * n +
    (if c.isDigit then c.toNat - '0'.toNat else c.toLower.toNat - 'a'.toNat + 10)) 0

/-- The character of so many hexadecimal digits, and what is left behind them. -/
def hex? (count : Nat) (t : Text) : Option (Option Char × Text) :=
  let digits := t.take count
  let n := hexValue digits
  if digits.length = count ∧ digits.all isHex ∧ n.isValidChar then
    some (some (Char.ofNat n), t.drop count)
  else none

/-- What follows a backslash: a character of its own or else a class, and what is left. -/
def escape? : Text → Option (Option Char × Text)
  | 'x' :: rest => hex? 2 rest
  | 'u' :: rest => hex? 4 rest
  | 'U' :: rest => hex? 8 rest
  | 'p' :: c :: rest | 'P' :: c :: rest =>
    if "LMNPSZC".toList.contains c.toUpper then some (none, rest) else none
  | c :: rest =>
    if "dDsSwW".toList.contains c then some (none, rest)
    else if "nrtafv".toList.contains c then some (some c, rest)
    else if c.isAlphanum ∨ c = '<' ∨ c = '>' ∨ 0x80 ≤ c.toNat then none
    else some (some c, rest)
  | [] => none

/-- One item of a set: a character of its own or else a class, and what is left. -/
def item? : Text → Option (Option Char × Text)
  | '\\' :: rest => escape? rest
  | c :: rest => some (some c, rest)
  | [] => none

/-- What is left behind a set in brackets. `first` tells that nothing was read of it yet. -/
def set? : Nat → Bool → Text → Option Text
  | 0, _, _ => none
  | fuel + 1, first, t =>
    match t with
    | [] => none
    | '-' :: rest =>
      if first then
        let rest := rest.dropWhile (· = '-')
        match rest with
        | ']' :: rest => some rest
        | _ => set? fuel false rest
      else range fuel t
    | ']' :: rest => if first then range fuel (']' :: rest) else some rest
    | '[' :: ':' :: rest =>
      let name := rest.takeWhile Char.isAlpha
      match rest.drop name.length with
      | ':' :: ']' :: more => set? fuel false more
      | _ => (set? fuel true (':' :: rest)).bind (set? fuel false)
    | '[' :: '^' :: rest => (set? fuel true rest).bind (set? fuel false)
    | '[' :: rest => (set? fuel true rest).bind (set? fuel false)
    | _ => range fuel t
where
  /-- Reads an item or two with a dash between them. -/
  range : Nat → Text → Option Text
    | 0, _ => none
    | fuel + 1, t => do
      let (low, rest) ← item? t
      match rest with
      | '-' :: ']' :: _ => set? fuel false rest
      | '-' :: '-' :: rest => set? fuel false rest
      | '-' :: rest =>
        let (high, rest) ← item? rest
        if (← low) ≤ (← high) then set? fuel false rest else none
      | _ => set? fuel false rest

/-- What is left behind the start of a group, and whether the group is one of flags only. -/
def group? : Text → Option (Bool × Text)
  | '?' :: rest =>
    let named (t : Text) : Option (Bool × Text) :=
      let name := t.takeWhile (· ≠ '>')
      match name, t.drop name.length with
      | c :: _, _ :: more =>
        if (c.isAlpha || c == '_') && name.all fun c => c.isAlphanum || c == '_' || c == '.' then
          some (false, more)
        else none
      | _, _ => none
    match rest with
    | 'P' :: '<' :: more => named more
    | '<' :: more => if more.head? = some '=' ∨ more.head? = some '!' then none else named more
    | _ =>
      let flags := rest.takeWhile ("imsUuxR-".toList.contains ·)
      let unclear : Bool := flags.getLast? = some '-' ∨ ¬flags.Nodup
      match rest.drop flags.length with
      | ':' :: more => if unclear then none else some (false, more)
      | ')' :: more =>
        if flags = [] ∨ unclear then none else some (true, more)
      | _ => none
  | rest => some (false, rest)

/-- Reads an expression inside of so many groups. `ready` tells that there is something in
front that can be repeated. -/
def check : Nat → Nat → Bool → Text → Except ExpressionFault Unit
  | 0, _, _, _ => .error .unreadable
  | fuel + 1, depth, ready, t =>
    match t with
    | [] => if depth = 0 then .ok () else .error .unreadable
    | '(' :: rest =>
      match group? rest with
      | none => .error .unreadable
      | some (true, rest) => check fuel depth false rest
      | some (false, rest) => check fuel (depth + 1) false rest
    | ')' :: rest =>
      if depth = 0 then .error .unreadable else check fuel (depth - 1) true rest
    | '|' :: rest => check fuel depth false rest
    | '*' :: rest | '+' :: rest | '?' :: rest =>
      if ready then check fuel depth true rest else .error .unreadable
    | '\x7b' :: _ => .error .unreadable
    | '[' :: rest =>
      let inner := match rest with
        | '^' :: more => more
        | _ => rest
      match set? (t.length + 1) true inner with
      | none => .error .unreadable
      | some rest => check fuel depth true rest
    | '\\' :: rest =>
      let isWordEnd := match rest with
        | c :: _ => "bB<>".toList.contains c
        | [] => false
      let isEnd := isWordEnd || rest.head? == some 'A' || rest.head? == some 'z'
      match (if isEnd then some rest.tail else (escape? rest).map (·.2)) with
      | none => .error .unreadable
      | some rest =>
        match check fuel depth true rest with
        | .error .unreadable => .error .unreadable
        | found => if isWordEnd then .error .wordEnd else found
    | _ :: rest => check fuel depth true rest

/-- What is wrong with the text of a value, unless it is a number or an expression. -/
def fault? (t : Text) : Option ExpressionFault :=
  if isNumber t then none
  else match check (t.length + 1) 0 false t with
    | .ok () => none
    | .error fault => some fault

end Expression
end TripleSlash.Log
