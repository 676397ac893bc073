import TripleSlash.Number.Binary64
import TripleSlash.Shell.Arithmetic

/-! Formats, which say how arguments are printed: fixed text with escapes, and directives
with flags, a width and a precision. -/
namespace TripleSlash.Shell.Format

def isOctal (c : Char) : Bool := '0' ≤ c && c ≤ '7'

def ofOctal (t : Text) : Char :=
  Char.ofNat (t.foldl (fun n c => n * 8 + (c.toNat - 48)) 0 % 256)

/-- What a backslash in front of a text stands for, and the rest of the text. -/
def escape : Text → Char × Text
  | [] => ('\\', [])
  | 'a' :: rest => (Char.ofNat 7, rest)
  | 'b' :: rest => (Char.ofNat 8, rest)
  | 'f' :: rest => (Char.ofNat 12, rest)
  | 'n' :: rest => ('\n', rest)
  | 'r' :: rest => ('\r', rest)
  | 't' :: rest => ('\t', rest)
  | 'v' :: rest => (Char.ofNat 11, rest)
  | '\\' :: rest => ('\\', rest)
  | t =>
    let octal := (t.take 3).takeWhile isOctal
    if octal = [] then ('\\', t) else (ofOctal octal, t.drop octal.length)

/-- A text with its escapes replaced, up to one that ends all output; whether there is one. -/
def expand : Nat → Text → Text × Bool
  | 0, _ => ([], false)
  | fuel + 1, t =>
    match t with
    | [] => ([], false)
    | '\\' :: 'c' :: _ => ([], true)
    | '\\' :: rest =>
      let rest := match rest with
        | '0' :: c :: more => if isOctal c then c :: more else rest
        | _ => rest
      let (c, rest) := escape rest
      let (more, ends) := expand fuel rest
      (c :: more, ends)
    | c :: rest =>
      let (more, ends) := expand fuel rest
      (c :: more, ends)

def expanded (t : Text) : Text × Bool := expand (t.length + 1) t

structure Directive where
  flags : Text
  width : Nat
  precision : Option Nat
  kind : Char

namespace Directive

def has (d : Directive) (flag : Char) : Bool := d.flags.contains flag

/-- Fills up to the width: on the right, with zeros behind the sign, or on the left. -/
def fill (d : Directive) (zeros : Bool) (sign digits : Text) : Text :=
  let count := d.width - (sign.length + digits.length)
  if d.has '-' then sign ++ digits ++ List.replicate count ' '
  else if zeros && d.has '0' then sign ++ List.replicate count '0' ++ digits
  else List.replicate count ' ' ++ sign ++ digits

def sign (d : Directive) (negative : Bool) : Text :=
  if negative then ['-'] else if d.has '+' then ['+'] else if d.has ' ' then [' '] else []

def digits (base n : Nat) (upper : Bool) : Text :=
  let digits := Nat.toDigits base n
  if upper then digits.map Char.toUpper else digits

/-- At least as many digits as the precision; none for a zero without any. -/
def atLeast (d : Directive) (digits : Text) : Text :=
  match d.precision with
  | none => digits
  | some 0 => if digits = ['0'] then [] else digits
  | some n => List.replicate (n - digits.length) '0' ++ digits

def ofInt (d : Directive) (n : Int) : Text :=
  d.fill d.precision.isNone (d.sign (n < 0)) (d.atLeast (digits 10 n.natAbs false))

def ofNat (d : Directive) (n : Nat) : Text :=
  let upper := d.kind == 'X'
  let base := if d.kind = 'o' then 8 else if d.kind = 'u' then 10 else 16
  let text := d.atLeast (digits base n upper)
  let lead := if !d.has '#' || n = 0 then []
    else match d.kind with
      | 'x' | 'X' => ['0', d.kind]
      | 'o' => if text.head? = some '0' then [] else ['0']
      | _ => []
  d.fill d.precision.isNone lead text

def ofText (d : Directive) (t : Text) : Text :=
  d.fill false [] (match d.precision with
    | some n => t.take n
    | none => t)

/-- A ratio with so many places behind the point, rounded to the nearest. -/
def places (n : Nat) (num den : Nat) : Text :=
  let all := Text.ofNat (Binary64.nearest (num * tenTo n) den)
  let all := List.replicate (n + 1 - all.length) '0' ++ all
  let whole := all.take (all.length - n)
  if n = 0 then whole else whole ++ '.' :: all.drop (all.length - n)

/-- The power of ten of the first digit of a ratio. -/
def magnitude (num den : Nat) : Int :=
  if num = 0 then 0 else ((Text.ofNat (num * tenTo 400 / den)).length : Int) - 401

/-- A ratio times a power of ten. -/
def shifted (num den : Nat) (tens : Int) : Nat × Nat :=
  if 0 ≤ tens then (num * tenTo tens.toNat, den) else (num, den * tenTo (-tens).toNat)

/-- A ratio with one digit in front of the point and so many behind it: the digits and the
power of ten. -/
def scientific (n : Nat) (num den : Nat) : Text × Int :=
  let power := magnitude num den
  let (a, b) := shifted num den (-power)
  let text := places n a b
  if text.take 2 = ['1', '0'] then
    let (a, b) := shifted num den (-(power + 1))
    (places n a b, power + 1)
  else (text, power)

def powerText (letter : Char) (power : Int) : Text :=
  let digits := Text.ofNat power.natAbs
  letter :: (if power < 0 then '-' else '+') :: List.replicate (2 - digits.length) '0' ++ digits

def trimmed (t : Text) : Text :=
  if '.' ∈ t then
    let t := (t.reverse.dropWhile (· = '0')).reverse
    if t.getLast? = some '.' then t.dropLast else t
  else t

def ofRatio (d : Directive) (negative : Bool) (num den : Nat) : Text :=
  let n := d.precision.getD 6
  let upper := d.kind.isUpper
  let letter := if upper then 'E' else 'e'
  let text := match d.kind.toLower with
    | 'f' => places n num den
    | 'e' =>
      let (text, power) := scientific n num den
      text ++ powerText letter power
    | _ =>
      let n := max n 1
      let (text, power) := scientific (n - 1) num den
      if power < -4 ∨ (n : Int) ≤ power then
        (if d.has '#' then text else trimmed text) ++ powerText letter power
      else
        let text := places ((n : Int) - 1 - power).toNat num den
        if d.has '#' then text else trimmed text
  d.fill true (d.sign negative) text

end Directive

/-- What was printed, what was complained about, and the arguments that are left. -/
structure Printed where
  text : Text
  complaints : List Text
  arguments : List Text
  /-- Set where nothing more is printed. -/
  ended : Bool
  /-- Set where printing was given up, with the reason. -/
  fault : Option Text

namespace Printed

def add (p : Printed) (t : Text) : Printed := { p with text := p.text ++ t }

def next (p : Printed) : Option Text × Printed :=
  (p.arguments.head?, { p with arguments := p.arguments.tail })

def complain (p : Printed) (t : Text) (what : String) : Printed :=
  { p with complaints := p.complaints ++ [t ++ ": ".toList ++ what.toList] }

/-- The number at the start of an argument, with a complaint about what it leaves. -/
def integer (p : Printed) (argument : Option Text) : Int × Printed :=
  match argument with
  | none | some [] => (0, p)
  | some ('"' :: rest) | some ('\'' :: rest) =>
    ((rest.head?.map fun c => (c.toNat : Int)).getD 0, p)
  | some t =>
    let bare := t.dropWhile Arithmetic.isGap
    let (negative, bare) := match bare with
      | '-' :: rest => (true, rest)
      | '+' :: rest => (false, rest)
      | _ => (false, bare)
    if (bare.head?.map Char.isDigit).getD false then
      let (n, rest) := Arithmetic.literal bare
      let value : Int := if negative then -n else n
      if rest = [] then (value, p) else (value, p.complain t "not completely converted")
    else (0, p.complain t "expected numeric value")

/-- The decimal number at the start of an argument as a sign and a ratio. -/
def ratio (p : Printed) (argument : Option Text) : (Bool × Nat × Nat) × Printed :=
  match argument with
  | none | some [] => ((false, 0, 1), p)
  | some t =>
    let bare := t.dropWhile Arithmetic.isGap
    let (negative, bare) := match bare with
      | '-' :: rest => (true, rest)
      | '+' :: rest => (false, rest)
      | _ => (false, bare)
    let whole := bare.takeWhile Char.isDigit
    let rest := bare.drop whole.length
    let (places, rest) := match rest with
      | '.' :: more => (more.takeWhile Char.isDigit, more.dropWhile Char.isDigit)
      | _ => ([], rest)
    if whole = [] ∧ places = [] then ((false, 0, 1), p.complain t "expected numeric value")
    else
      let (power, rest) : Int × Text := match rest with
        | 'e' :: more | 'E' :: more =>
          let (down, digits) := match more with
            | '-' :: digits => (true, digits)
            | '+' :: digits => (false, digits)
            | digits => (false, digits)
          let run := digits.takeWhile Char.isDigit
          let n : Int := ((Arithmetic.digits 10 run).1 : Nat)
          if run = [] then (0, rest) else (if down then -n else n, digits.drop run.length)
        | _ => (0, rest)
      let n := (Arithmetic.digits 10 (whole ++ places)).1
      let power := max (-400) (min 400 (power - places.length))
      let (num, den) := Directive.shifted n 1 power
      let (num, den) := ((Binary64.ofRatio? num den).map Binary64.ratio).getD (num, den)
      let p := if rest = [] then p else p.complain t "not completely converted"
      ((negative, num, den), p)

def direct (p : Printed) (d : Directive) : Printed :=
  let (argument, after) := p.next
  match d.kind with
  | 's' => after.add (d.ofText (argument.getD []))
  | 'c' => after.add (d.fill false [] [((argument.getD []).head?).getD '\x00'])
  | 'b' =>
    let (text, ended) := expanded (argument.getD [])
    let after := after.add (d.ofText text)
    { after with ended }
  | 'd' | 'i' =>
    let (n, after) := after.integer argument
    after.add (d.ofInt (Arithmetic.clamp n))
  | 'o' | 'u' | 'x' | 'X' =>
    let (n, after) := after.integer argument
    after.add (d.ofNat (min 18446744073709551615 (if n < 0 then Arithmetic.bits n else n.toNat)))
  | 'e' | 'E' | 'f' | 'F' | 'g' | 'G' =>
    let ((negative, num, den), after) := after.ratio argument
    after.add (d.ofRatio negative num den)
  | c => { p with fault := some ('%' :: c :: ": invalid directive".toList) }

/-- A width or precision, which an argument may give. -/
def measure (p : Printed) (t : Text) : Option Int × Text × Printed :=
  match t with
  | '*' :: rest =>
    let (argument, p) := p.next
    let (n, p) := p.integer argument
    (some n, rest, p)
  | _ =>
    let (n, rest) := Arithmetic.digits 10 t
    (if rest.length = t.length then none else some n, rest, p)

/-- One pass through a format. -/
def pass : Nat → Text → Printed → Printed
  | 0, _, p => p
  | fuel + 1, t, p =>
    if p.ended || p.fault.isSome then p
    else match t with
      | [] => p
      | '\\' :: rest =>
        let (c, rest) := escape rest
        pass fuel rest (p.add [c])
      | '%' :: '%' :: rest => pass fuel rest (p.add ['%'])
      | '%' :: rest =>
        let flags := rest.takeWhile ("#-+ 0".toList.contains ·)
        let (width, rest, p) := p.measure (rest.drop flags.length)
        let (precision, rest, p) := match rest with
          | '.' :: more =>
            let (n, rest, p) := p.measure more
            (some (n.getD 0), rest, p)
          | _ => (none, rest, p)
        match rest with
        | [] => { p with fault := some "missing format character".toList }
        | kind :: rest =>
          let flags := if (width.getD 0) < 0 then '-' :: flags else flags
          let precision := precision.bind fun n => if n < 0 then none else some n.toNat
          pass fuel rest (p.direct ⟨flags, (width.getD 0).natAbs, precision, kind⟩)
      | c :: rest => pass fuel rest (p.add [c])

end Printed

/-- Goes through a format again as long as that takes up arguments. -/
def passes : Nat → Text → Printed → Printed
  | 0, _, p => p
  | fuel + 1, t, p =>
    let after := p.pass (t.length + 1) t
    if after.ended || after.fault.isSome || after.arguments = []
        || after.arguments.length = p.arguments.length then after
    else passes fuel t after

def print (format : Text) (arguments : List Text) : Printed :=
  passes (arguments.length + 1) format ⟨[], [], arguments, false, none⟩

end TripleSlash.Shell.Format
