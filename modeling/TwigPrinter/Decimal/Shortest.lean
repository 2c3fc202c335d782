import TwigPrinter.Decimal.Binary64
/-!
The shortest decimal that reads back as a given binary number, and its two notations.

A number stands for an interval of reals, those that round to it. For one, two, … seventeen digits
the two neighbours of the number on that decimal grid are tested against the interval; the first
grid with a hit gives the digits, and of two hits the nearer one.
-/
namespace TwigPrinter

inductive Tie where
  | toEven
  | away
  deriving DecidableEq, Repr

/-- The decimal `0.d₁d₂… · 10^point`. -/
structure Decimal where
  digits : List Char
  point : Int
  deriving DecidableEq, Repr

namespace Decimal

def trim (d : Decimal) : Decimal :=
  { d with digits := (d.digits.reverse.dropWhile (· == '0')).reverse }

def zeros (n : Nat) : List Char := List.replicate n '0'

def positional (d : Decimal) : String :=
  let n : Int := d.digits.length
  if d.point ≤ 0 then
    String.ofList ('0' :: '.' :: zeros (-d.point).toNat ++ d.digits)
  else if n ≤ d.point then
    String.ofList (d.digits ++ zeros (d.point - n).toNat)
  else
    String.ofList (d.digits.take d.point.toNat ++ '.' :: d.digits.drop d.point.toNat)

def scientific (d : Decimal) : String :=
  let e := d.point - 1
  let mantissa := match d.digits with
    | [] => []
    | [c] => [c]
    | c :: rest => c :: '.' :: rest
  let sign := if e < 0 then '-' else '+'
  String.ofList (mantissa ++ 'e' :: sign :: Nat.toDigits 10 e.natAbs)

end Decimal

namespace Binary64

def powerRatio (a b : Int) : Nat × Nat :=
  (Nat.pow 2 a.toNat * Nat.pow 10 (-b).toNat, Nat.pow 2 (-a).toNat * Nat.pow 10 b.toNat)

/-- The `k` with `10^(k-1) ≤ |x| < 10^k`, for `x` other than zero. -/
def magnitude (x : Binary64) : Int :=
  let log := (x.mantissa.log2 : Int) + x.exponent
  let guess := log * 30103 / 100000 + 1
  let below (k : Int) : Bool :=
    let (a, b) := powerRatio x.exponent k
    x.mantissa * a < b
  if below (guess - 1) then guess - 1 else if below guess then guess else guess + 1

/-- The hit on the grid of `n` digits, if there is one. Ends of the interval are counted in quarters
of the last place: the lower end is nearer when the mantissa is a power of two. -/
def gridHit? (tie : Tie) (x : Binary64) (k : Int) (n : Nat) : Option Nat :=
  let (a, b) := powerRatio (x.exponent - 2) (k - n)
  let value := 4 * x.mantissa * a
  let gap := if x.mantissa == Nat.pow 2 52 && minExponent < x.exponent then 1 else 2
  let low := (4 * x.mantissa - gap) * a
  let high := (4 * x.mantissa + 2) * a
  let closed := x.mantissa % 2 == 0
  let inside (c : Nat) : Bool :=
    (low < c * b && c * b < high) || (closed && (c * b == low || c * b == high))
  let lower := value / b
  match inside lower, inside (lower + 1) with
  | false, false => none
  | true, false => some lower
  | false, true => some (lower + 1)
  | true, true =>
    let middle := (2 * lower + 1) * b
    if 2 * value < middle then some lower
    else if middle < 2 * value then some (lower + 1)
    else match tie with
      | .toEven => some (if lower % 2 == 0 then lower else lower + 1)
      | .away => some (lower + 1)

def shortest (tie : Tie) (x : Binary64) : Decimal :=
  if x.isZero then ⟨['0'], 1⟩
  else
    let k := x.magnitude
    let found := (List.range 17).findSome? fun i =>
      (x.gridHit? tie k (i + 1)).map fun c => (i + 1, c)
    match found with
    | some (n, c) =>
      let digits := Nat.toDigits 10 c
      Decimal.trim ⟨digits, k + digits.length - n⟩
    | none => ⟨['0'], 1⟩

end Binary64
end TwigPrinter
