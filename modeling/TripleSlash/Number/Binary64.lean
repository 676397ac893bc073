/-! Nonnegative binary64 values in exact arithmetic. A value is a mantissa below 2^53 times
a power of two from 2^-1074 up; a ratio is rounded to the nearest value, a tie to the even
mantissa, and a ratio too large for any value has none. -/
namespace TripleSlash

def tenTo (n : Nat) : Nat := Nat.pow 10 n

structure Binary64 where
  mantissa : Nat
  exponent : Int
deriving DecidableEq, Repr

namespace Binary64

def leastExponent : Int := -1074

def mostExponent : Int := 971

def zero : Binary64 := ⟨0, leastExponent⟩

def isZero (x : Binary64) : Bool := x.mantissa == 0

/-- The nearest natural number to a ratio, the even one of two. -/
def nearest (num den : Nat) : Nat :=
  let q := num / den
  let r := num % den
  if 2 * r < den then q else if den < 2 * r then q + 1 else q + q % 2

/-- The ratio `num / den` in units of `2 ^ e`, as a ratio again. -/
def inUnits (num den : Nat) (e : Int) : Nat × Nat :=
  if 0 ≤ e then (num, den <<< e.toNat) else (num <<< (-e).toNat, den)

def ofRatio? (num den : Nat) : Option Binary64 :=
  if num = 0 ∨ den = 0 then some zero
  else
    let guess : Int := (num.log2 : Int) - den.log2 - 52
    let (n, d) := inUnits num den guess
    let e := max leastExponent (if n < d <<< 52 then guess - 1 else guess)
    let (n, d) := inUnits num den e
    let m := nearest n d
    let (m, e) := if m = 1 <<< 53 then (1 <<< 52, e + 1) else (m, e)
    if mostExponent < e then none else some ⟨m, e⟩

/-- The value as a ratio. -/
def ratio (x : Binary64) : Nat × Nat :=
  if 0 ≤ x.exponent then (x.mantissa <<< x.exponent.toNat, 1)
  else (x.mantissa, 1 <<< (-x.exponent).toNat)

def ofNat? (n : Nat) : Option Binary64 := ofRatio? n 1

def mul? (x y : Binary64) : Option Binary64 :=
  ofRatio? (x.ratio.1 * y.ratio.1) (x.ratio.2 * y.ratio.2)

def div? (x y : Binary64) : Option Binary64 :=
  ofRatio? (x.ratio.1 * y.ratio.2) (x.ratio.2 * y.ratio.1)

/-- The greatest power of ten that there is a value near. -/
def mostTens : Nat := 308

/-- Multiplies by a power of ten that was itself rounded. -/
def scaleUp? (x : Binary64) (tens : Nat) : Option Binary64 :=
  if tens ≤ mostTens then (ofNat? (tenTo tens)).bind x.mul?
  else if x.isZero then some x
  else none

/-- Divides by powers of ten that were themselves rounded, the greatest first. -/
def scaleDown? (x : Binary64) (tens : Nat) : Option Binary64 :=
  if tens ≤ mostTens then (ofNat? (tenTo tens)).bind x.div?
  else if x.isZero then some x
  else ((ofNat? (tenTo mostTens)).bind x.div?).bind fun y => scaleDown? y (tens - mostTens)
termination_by tens
decreasing_by simp only [mostTens] at *; omega

/-- `significand · 10 ^ tens`, rounded after each of its steps. -/
def ofDecimal? (significand : Nat) (tens : Int) : Option Binary64 :=
  (ofNat? significand).bind fun x =>
    if 0 ≤ tens then x.scaleUp? tens.toNat else x.scaleDown? (-tens).toNat

end Binary64
end TripleSlash
