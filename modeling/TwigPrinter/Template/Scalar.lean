import TwigPrinter.Decimal.Number
import TwigPrinter.Text.Visible
/-!
The values a literal of a template can have.
-/
namespace TwigPrinter

inductive Scalar where
  | string (value : String)
  | number (value : Number)
  | bool (value : Bool)
  | null
  deriving DecidableEq, Repr

namespace Scalar

def text : Scalar → String
  | .string s => s
  | .number n => n.text
  | .bool true => "true"
  | .bool false => "false"
  | .null => "null"

/-- The text shown to a reader: a string is quoted, so that it cannot be taken for another value. -/
def shown : Scalar → String
  | .string s => Text.visible s
  | other => other.text

def same : Scalar → Scalar → Bool
  | .string a, .string b => a == b
  | .number a, .number b => a.same b
  | .bool a, .bool b => a == b
  | .null, .null => true
  | _, _ => false

end Scalar
end TwigPrinter
