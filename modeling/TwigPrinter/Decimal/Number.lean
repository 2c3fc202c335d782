import TwigPrinter.Decimal.Shortest
/-!
The numbers of a document: integers, which stay exact, and binary floating-point numbers. An integer
and a real are never the same number, even when their values agree.
-/
namespace TwigPrinter

inductive Number where
  | integer (value : Int)
  | real (value : Binary64)
  deriving DecidableEq, Repr

namespace Number

/-- Same kind and same value; the two real zeros are the same. -/
def same : Number → Number → Bool
  | .integer a, .integer b => a == b
  | .real x, .real y => x.same y
  | _, _ => false

def exponentFrom : Nat := Nat.pow 10 21

def positionalFrom : Int := -4

def signed (negative : Bool) (text : String) : String :=
  if negative then "-" ++ text else text

/-- Integers, and whole reals below `10^21`, are written out in full and zero has no sign. Other
reals take the fewest digits that read back, with an exponent when they are very large or small. -/
def text : Number → String
  | .integer n => signed (decide (n < 0)) (Nat.repr n.natAbs)
  | .real x =>
    let written (n : Nat) : String := signed (x.negative && n != 0) (Nat.repr n)
    let short : String :=
      let d := x.shortest .toEven
      let body := if positionalFrom ≤ d.point && d.point ≤ 21 then d.positional else d.scientific
      signed x.negative body
    match x.whole? with
    | some n => if n < exponentFrom then written n else short
    | none => short

end Number
end TwigPrinter
