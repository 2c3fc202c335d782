import TwigPrinter.Decimal.Extended
import TwigPrinter.Text.Lowercase
import TwigPrinter.Toml.Table
/-!
Values of settings, and how a layer of them is put over another one. Keys are taken in lower case.
Tables are merged entry by entry; any other value replaces what was there.
-/
namespace TwigPrinter.Settings

inductive Value where
  | null
  | bool (value : Bool)
  | integer (value : Int)
  | real (value : ExtendedReal)
  | string (value : String)
  | array (items : List Value)
  | table (entries : List (String × Value))

namespace Value

mutual

def ofToml : Toml.Value → Value
  | .string s => .string s
  | .integer n => .integer n
  | .real x => .real x
  | .bool b => .bool b
  | .date text => .string text
  | .array items => .array (ofItems items)
  | .table entries => .table (ofEntries entries)

def ofItems : List Toml.Value → List Value
  | [] => []
  | v :: rest => ofToml v :: ofItems rest

def ofEntries : List (String × Toml.Value) → List (String × Value)
  | [] => []
  | (key, v) :: rest => (key, ofToml v) :: ofEntries rest

end

def entries : Value → List (String × Value)
  | .table entries => entries
  | _ => []

def items : Value → List Value
  | .array items => items
  | _ => []

/-- Sets an entry: a key that is there already keeps its place. -/
def putEntry (key : String) (v : Value) : List (String × Value) → List (String × Value)
  | [] => [(key, v)]
  | (k, old) :: rest => if k = key then (key, v) :: rest else (k, old) :: putEntry key v rest

/-- Changes one entry, which is null if it is missing. A value that is no table becomes one. -/
def modifyEntry (key : String) (change : Value → Value) (v : Value) : Value :=
  let key := Text.lower key
  .table (putEntry key (change ((v.entries.lookup key).getD .null)) v.entries)

def itemPlace (index : Int) (length : Nat) : Nat :=
  if 0 ≤ index then index.toNat else (length + index).toNat

/-- Changes one item, which is null if it is missing. A value that is no array becomes one. -/
def modifyItem (index : Int) (change : Value → Value) (v : Value) : Value :=
  let i := itemPlace index v.items.length
  let filled := v.items ++ List.replicate (i + 1 - v.items.length) .null
  .array (filled.modify i change)

mutual

/-- Puts a value under a key of a table. A value that is no table becomes one first. -/
def assign (key : String) (target : Value) : Value → Value
  | .table entries =>
    let old := (target.entries.lookup (Text.lower key)).getD (.table [])
    .table (putEntry (Text.lower key) (assignAll old entries) target.entries)
  | v => .table (putEntry (Text.lower key) v target.entries)

def assignAll (target : Value) : List (String × Value) → Value
  | [] => target
  | (key, v) :: rest => assignAll (assign key target v) rest

end

end Value
end TwigPrinter.Settings
