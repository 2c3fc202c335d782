import TwigPrinter.Decimal.Extended
import TwigPrinter.Document.Value
import TwigPrinter.Text.Digits
import TwigPrinter.Yaml.Cursor
import TwigPrinter.Yaml.Tag
/-!
The values that scalars stand for. Plain scalars are told apart by their text; quoted ones are
strings unless a tag says otherwise.
-/
namespace TwigPrinter.Yaml

def isNull (text : String) : Bool := ["null", "Null", "NULL", "~"].contains text

def bool? (text : String) : Option Bool :=
  if ["true", "True", "TRUE"].contains text then some true
  else if ["false", "False", "FALSE"].contains text then some false
  else none

def hasLeadingZero (cs : List Char) : Bool :=
  match cs with
  | '0' :: rest => !rest.isEmpty && rest.all Char.isDigit
  | _ => false

def magnitude? : List Char → Option Nat
  | '0' :: 'x' :: digits => Text.natural? 16 digits
  | '0' :: 'o' :: digits => Text.natural? 8 digits
  | '0' :: 'b' :: digits => Text.natural? 2 digits
  | digits => if hasLeadingZero digits then none else Text.natural? 10 digits

def integer? : List Char → Option Int
  | '+' :: digits => (magnitude? digits).map Int.ofNat
  | '-' :: digits => (magnitude? digits).map fun n => -Int.ofNat n
  | digits => (magnitude? digits).map Int.ofNat

def decimal? (negative : Bool) (cs : List Char) : Option Binary64 :=
  let whole := cs.takeWhile Char.isDigit
  let rest := cs.dropWhile Char.isDigit
  let (fraction, rest) := match rest with
    | '.' :: rest => (rest.takeWhile Char.isDigit, rest.dropWhile Char.isDigit)
    | rest => ([], rest)
  if whole.isEmpty && fraction.isEmpty then none
  else do
    let exponent ← match rest with
      | [] => some (0 : Int)
      | e :: rest =>
        if e == 'e' || e == 'E' then
          match rest with
          | '+' :: digits => (Text.natural? 10 digits).map Int.ofNat
          | '-' :: digits => (Text.natural? 10 digits).map fun n => -Int.ofNat n
          | digits => (Text.natural? 10 digits).map Int.ofNat
        else none
    let digits ← Text.natural? 10 (whole ++ fraction)
    Binary64.ofDecimal negative digits (exponent - fraction.length)

def real? (text : String) : Option ExtendedReal :=
  if [".inf", ".Inf", ".INF", "+.inf", "+.Inf", "+.INF"].contains text then some (.infinite false)
  else if ["-.inf", "-.Inf", "-.INF"].contains text then some (.infinite true)
  else if [".nan", ".NaN", ".NAN"].contains text then some .nan
  else match text.toList with
    | '+' :: cs => (decimal? false cs).map .finite
    | '-' :: cs => (decimal? true cs).map .finite
    | cs => (decimal? false cs).map .finite

/-- Documents have no infinite or undefined numbers: null stands for them. -/
def realValue : ExtendedReal → Value
  | .finite x => .number (.real x)
  | .infinite _ | .nan => .null

/-- An integer as a value: it has to fit in 64 bits. Below 128 bits one that does not is an error,
and beyond that it is no integer at all. -/
def integerValue? (text : String) : Option (Except Fault Value) :=
  match integer? text.toList with
  | none => none
  | some n =>
    if -Int.pow 2 63 ≤ n ∧ n < Int.pow 2 64 then some (.ok (.number (.integer n)))
    else if -Int.pow 2 127 ≤ n ∧ n < Int.pow 2 128 then some (.error .badScalar)
    else none

def plainValue (text : String) : Except Fault Value :=
  if text.isEmpty || isNull text then .ok .null
  else match bool? text with
    | some b => .ok (.bool b)
    | none =>
      match integerValue? text with
      | some v => v
      | none =>
        let unsigned := match text.toList with
          | '+' :: rest | '-' :: rest => rest
          | cs => cs
        if hasLeadingZero unsigned then .ok (.string text)
        else match real? text with
          | some x => .ok (realValue x)
          | none => .ok (.string text)

def untaggedValue (plain : Bool) (text : String) : Except Fault Value :=
  if plain then plainValue text else .ok (.string text)

/-- The value of a scalar with a tag. The types of applications are not known here; a tag that
starts like one of them and names none counts as no tag. Any other tag makes the scalar a string. -/
def taggedValue (tag : Tag) (plain : Bool) (text : String) : Except Fault Value :=
  if tag.isApplication then .error .localTag
  else if tag.isLocal then untaggedValue plain text
  else if tag = .standard "bool" then
    match bool? text with
    | some b => .ok (.bool b)
    | none => .error .badScalar
  else if tag = .standard "int" then (integerValue? text).getD (.error .badScalar)
  else if tag = .standard "float" then
    match real? text with
    | some x => .ok (realValue x)
    | none => .error .badScalar
  else if tag = .standard "null" then
    if isNull text then .ok .null else .error .badScalar
  else .ok (.string text)

def scalarValue (tag : Option Tag) (plain : Bool) (text : String) : Except Fault Value :=
  match tag with
  | some tag => taggedValue tag plain text
  | none => untaggedValue plain text

end TwigPrinter.Yaml
