/-!
Finite binary floating-point numbers of 64 bits, kept as exact values `±mantissa · 2^exponent`,
and the correctly rounded reading of a decimal. Infinities and not-a-number are no values here:
a decimal too large for the format has no reading.
-/
namespace TwigPrinter

/-- The number `±mantissa · 2^exponent`. The exponent is least among those that keep the mantissa
below `2^53` and the exponent at or above `-1074`, so equal numbers of equal sign are equal
records. -/
structure Binary64 where
  negative : Bool
  mantissa : Nat
  exponent : Int
  deriving DecidableEq, Repr

namespace Binary64

def minExponent : Int := -1074

def maxExponent : Int := 971

def zero (negative : Bool) : Binary64 := ⟨negative, 0, minExponent⟩

def isZero (x : Binary64) : Bool := x.mantissa == 0

/-- Comparison by value: the two zeros are the same number. -/
def same (x y : Binary64) : Bool := (x.isZero && y.isZero) || x == y

/-- The quotient rounded to the nearest integer, a half to the even one. -/
def roundDiv (num den : Nat) : Nat :=
  let q := num / den
  let r := num % den
  if den < 2 * r || (2 * r == den && q % 2 == 1) then q + 1 else q

def scale (num den : Nat) (e : Int) : Nat × Nat :=
  if 0 ≤ e then (num, den * Nat.pow 2 e.toNat) else (num * Nat.pow 2 (-e).toNat, den)

def ofRatio (negative : Bool) (num den : Nat) : Option Binary64 :=
  if num == 0 then some (zero negative)
  else
    let guess : Int := (num.log2 : Int) - den.log2 - 52
    let (n, d) := scale num den guess
    let e := max (if n / d < Nat.pow 2 52 then guess - 1 else guess) minExponent
    let (n, d) := scale num den e
    let m := roundDiv n d
    let (m, e) := if m == Nat.pow 2 53 then (Nat.pow 2 52, e + 1) else (m, e)
    if maxExponent < e then none else some ⟨negative, m, e⟩

/-- The number nearest to `±digits · 10^exponent`. Exponents far outside the format's range are
settled without computing the power. -/
def ofDecimal (negative : Bool) (digits : Nat) (exponent : Int) : Option Binary64 :=
  if digits == 0 then some (zero negative)
  else if 400 < exponent then none
  else if exponent < -(400 + digits.log2) then some (zero negative)
  else if 0 ≤ exponent then ofRatio negative (digits * Nat.pow 10 exponent.toNat) 1
  else ofRatio negative digits (Nat.pow 10 (-exponent).toNat)

def whole? (x : Binary64) : Option Nat :=
  if 0 ≤ x.exponent then some (x.mantissa * Nat.pow 2 x.exponent.toNat)
  else
    let unit := Nat.pow 2 (-x.exponent).toNat
    if x.mantissa % unit == 0 then some (x.mantissa / unit) else none

end Binary64
end TwigPrinter
