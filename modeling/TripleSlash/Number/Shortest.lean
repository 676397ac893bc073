import TripleSlash.Number.Binary64
import TripleSlash.Text

/-! The shortest decimal text that reads back as a binary64 value. For one digit, two
digits and so on, the two neighbours of the value with that many digits are tried; the first
count with a neighbour that rounds to the value wins, and of two neighbours the nearer. -/
namespace TripleSlash

/-- `0.d₁d₂… · 10 ^ point`. -/
structure Decimal where
  digits : Text
  point : Int
deriving DecidableEq, Repr

namespace Decimal

/-- The four times finer grid on which a value, and the points halfway to its neighbours,
are whole: the lower end, the value and the upper end, over one denominator. -/
def interval (x : Binary64) : Nat × Nat × Nat × Nat :=
  let m := x.mantissa
  let low := if m = 1 <<< 52 ∧ Binary64.leastExponent < x.exponent then 4 * m - 1 else 4 * m - 2
  let e := x.exponent - 2
  let scale (n : Nat) : Nat := if 0 ≤ e then n <<< e.toNat else n
  let den := if 0 ≤ e then 1 else 1 <<< (-e).toNat
  (scale low, scale (4 * m), scale (4 * m + 2), den)

/-- The number of digits in front of the point, negative for zeros behind it. -/
def magnitude (num den : Nat) : Int :=
  ((Text.ofNat (num * tenTo 400 / den)).length : Int) - 400

/-- The neighbour of the value with `count` digits that reads back, if there is one, in
units of the last of these digits. -/
def candidate? (x : Binary64) (point : Int) (count : Nat) : Option Nat :=
  let (low, value, high, den) := interval x
  let unit : Int := point - count
  let up := if 0 ≤ unit then 1 else tenTo (-unit).toNat
  let den := if 0 ≤ unit then den * tenTo unit.toNat else den
  let fits (n : Nat) : Bool :=
    if x.mantissa % 2 = 0 then low * up ≤ n * den ∧ n * den ≤ high * up
    else low * up < n * den ∧ n * den < high * up
  let floor := value * up / den
  match fits floor, fits (floor + 1) with
  | true, true =>
    let below := value * up - floor * den
    let above := (floor + 1) * den - value * up
    some (if below < above ∨ (below = above ∧ floor % 2 = 0) then floor else floor + 1)
  | true, false => some floor
  | false, true => some (floor + 1)
  | false, false => none

def mostDigits : Nat := 17

def trimZeros (digits : Text) : Text := (digits.reverse.dropWhile (· = '0')).reverse

def shortest (x : Binary64) : Decimal :=
  let (_, value, _, den) := interval x
  let point := magnitude value den
  let found := (List.range mostDigits).findSome? fun n =>
    (candidate? x point (n + 1)).map fun digits => (digits, n + 1)
  match found with
  | none => ⟨[], point⟩
  | some (n, count) =>
    let digits := Text.ofNat n
    ⟨trimZeros digits, point + ((digits.length : Int) - count)⟩

/-- Where positional notation begins and ends: the exponents of the first digit that are
still written with a point alone. -/
def leastPositional : Int := -5

def mostPositional : Int := 15

def zeros (n : Nat) : Text := List.replicate n '0'

/-- Positional with at least one digit on either side of the point, or one digit, the rest
behind the point, and a signed exponent. -/
def text (d : Decimal) : Text :=
  let x := d.point - 1
  if leastPositional ≤ x ∧ x ≤ mostPositional then
    if x < 0 then "0.".toList ++ zeros (-d.point).toNat ++ d.digits
    else
      let whole := d.point.toNat
      if d.digits.length ≤ whole then
        d.digits ++ zeros (whole - d.digits.length) ++ ".0".toList
      else d.digits.take whole ++ '.' :: d.digits.drop whole
  else
    let lead := match d.digits with
      | first :: (second :: more) => first :: '.' :: second :: more
      | digits => digits
    lead ++ 'e' :: (if x < 0 then '-' else '+') :: Text.ofNat x.natAbs

end Decimal

/-- The text of a value, with a sign if it is `negative`. -/
def Binary64.text (negative : Bool) (x : Binary64) : Text :=
  let digits := if x.isZero then "0.0".toList else (Decimal.shortest x).text
  if negative then '-' :: digits else digits

end TripleSlash
