import TwigPrinter.Settings.Value
import TwigPrinter.Text.Digits
/-!
Keys of settings: names joined by dots, with items of arrays in square brackets.
-/
namespace TwigPrinter.Settings

inductive Key where
  | top (name : String)
  | child (parent : Key) (name : String)
  | item (parent : Key) (index : Int)
  deriving DecidableEq, Repr

namespace Key

def isNameChar (c : Char) : Bool := c.isAlphanum || c == ' ' || c == '_' || c == '-'

def takeName? (cs : List Char) : Option (String × List Char) :=
  let name := cs.takeWhile isNameChar
  if name.isEmpty then none else some (String.ofList name, cs.drop name.length)

def isBlank (c : Char) : Bool := c == ' ' || c == '\t'

/-- The number of an item with the closing bracket; it has to fit in 64 bits. -/
def takeIndex? (cs : List Char) : Option (Int × List Char) :=
  let cs := cs.dropWhile isBlank
  let (negative, cs) := match cs with
    | '-' :: rest => (true, rest)
    | cs => (false, cs)
  let digits := cs.takeWhile Char.isDigit
  let n : Int := Text.decimal digits
  let n := if negative then -n else n
  if digits.isEmpty || !(-Int.pow 2 63 ≤ n && n < Int.pow 2 63) then none
  else match (cs.drop digits.length).dropWhile isBlank with
    | ']' :: rest => some (n, rest)
    | _ => none

def extend? : (fuel : Nat) → Key → List Char → Option Key
  | _, key, [] => some key
  | 0, _, _ :: _ => none
  | fuel + 1, key, c :: rest =>
    if c == '.' then do
      let (name, rest) ← takeName? rest
      extend? fuel (.child key name) rest
    else if c == '[' then do
      let (index, rest) ← takeIndex? rest
      extend? fuel (.item key index) rest
    else none

def parse? (text : String) : Option Key := do
  let cs := text.toList
  let (name, rest) ← takeName? cs
  extend? cs.length (.top name) rest

/-- Changes the value at a key; what is missing on the way is made. -/
def modify (change : Value → Value) : Key → Value → Value
  | .top name, root => root.modifyEntry name change
  | .child parent name, root => modify (·.modifyEntry name change) parent root
  | .item parent index, root => modify (·.modifyItem index change) parent root

def set (v : Value) : Key → Value → Value
  | .top name, root => root.assign name v
  | .child parent name, root => modify (fun table => table.assign name v) parent root
  | .item parent index, root => modify (·.modifyItem index fun _ => v) parent root

end Key
end TwigPrinter.Settings
