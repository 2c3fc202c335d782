import TwigPrinter.Decimal.Shortest
/-!
Floating-point numbers together with the infinities and not-a-number.
-/
namespace TwigPrinter

inductive ExtendedReal where
  | finite (value : Binary64)
  | infinite (negative : Bool)
  | nan
  deriving DecidableEq, Repr

namespace ExtendedReal

def isZero : ExtendedReal → Bool
  | .finite x => x.isZero
  | _ => false

/-- The fewest digits that read back, always in positional notation; zero keeps its sign. -/
def text : ExtendedReal → String
  | .finite x =>
    let body := (x.shortest .away).positional
    if x.negative then "-" ++ body else body
  | .infinite negative => if negative then "-inf" else "inf"
  | .nan => "NaN"

end ExtendedReal
end TwigPrinter
