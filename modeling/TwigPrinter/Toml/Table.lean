import TwigPrinter.Decimal.Extended
/-!
Tables of a TOML document while it is read. A table knows how it came about, because a table may not
be defined twice: one that stands only on the way to another one may still get a header of its own,
and one that was made by a dotted key may get more entries from dotted keys but no header.
-/
namespace TwigPrinter.Toml

inductive Fault where
  | endOfInput
  | unexpected (c : Char)
  | badEscape
  | controlCharacter
  | badNumber
  | badDate
  | duplicateKey (key : String)
  | notTable (key : String)
  | tooDeep
  deriving DecidableEq, Repr

/-- The wording is this library's own. -/
def Fault.message : Fault → String
  | .endOfInput => "unexpected end of input"
  | .unexpected c => "unexpected character " ++ Char.quote c
  | .badEscape => "invalid escape"
  | .controlCharacter => "control character"
  | .badNumber => "invalid number"
  | .badDate => "invalid date or time"
  | .duplicateKey key => "duplicate key " ++ String.quote key
  | .notTable key => "key " ++ String.quote key ++ " is not a table"
  | .tooDeep => "nesting too deep"

inductive Value where
  | string (value : String)
  | integer (value : Int)
  | real (value : ExtendedReal)
  | bool (value : Bool)
  /-- A date or time, as its text. -/
  | date (text : String)
  | array (items : List Value)
  | table (entries : List (String × Value))

inductive Origin where
  /-- It has a header, or it is the document itself. -/
  | defined
  /-- It stands in the header of another table. -/
  | implied
  /-- It stands in a dotted key. -/
  | dotted
  deriving DecidableEq, Repr

mutual

inductive Item where
  | value (v : Value)
  | table (t : Table)
  /-- The tables of an array, the last one first. -/
  | tables (last : Table) (others : List Table)

inductive Table where
  | mk (origin : Origin) (entries : List (String × Item))

end

namespace Table

def origin : Table → Origin
  | .mk origin _ => origin

def entries : Table → List (String × Item)
  | .mk _ entries => entries

def empty (origin : Origin) : Table := .mk origin []

def putEntry (key : String) (item : Item) : List (String × Item) → List (String × Item)
  | [] => [(key, item)]
  | (k, old) :: rest => if k = key then (key, item) :: rest else (k, old) :: putEntry key item rest

def put (t : Table) (key : String) (item : Item) : Table :=
  .mk t.origin (putEntry key item t.entries)

def get? (t : Table) (key : String) : Option Item := t.entries.lookup key

/-- Changes the table that a path leads to; tables that are missing on the way are made. A dotted
key does not lead through tables that were defined by a header. -/
def descend (made : Origin) (change : Table → Except Fault Table) :
    List String → Table → Except Fault Table
  | [], t => change t
  | key :: path, t =>
    match t.get? key with
    | none => do
      let inner ← descend made change path (.empty made)
      pure (t.put key (.table inner))
    | some (.value _) => .error (.notTable key)
    | some (.tables last others) => do
      let last ← descend made change path last
      pure (t.put key (.tables last others))
    | some (.table inner) =>
      if made = .dotted ∧ inner.origin = .defined then .error (.duplicateKey key)
      else do
        let inner ← descend made change path inner
        pure (t.put key (.table inner))

def addValue (path : List String) (key : String) (v : Value) (t : Table) : Except Fault Table :=
  descend .dotted (fun t =>
    if !path.isEmpty && t.origin != .dotted then .error (.duplicateKey key)
    else match t.get? key with
      | some _ => .error (.duplicateKey key)
      | none => .ok (t.put key (.value v))) path t

def define (path : List String) (key : String) (root : Table) : Except Fault Table :=
  descend .implied (fun t =>
    match t.get? key with
    | none => .ok (t.put key (.table (.empty .defined)))
    | some (.table inner) =>
      if inner.origin = .implied then .ok (t.put key (.table (.mk .defined inner.entries)))
      else .error (.duplicateKey key)
    | some _ => .error (.duplicateKey key)) path root

def extend (path : List String) (key : String) (root : Table) : Except Fault Table :=
  descend .implied (fun t =>
    match t.get? key with
    | none => .ok (t.put key (.tables (.empty .defined) []))
    | some (.tables last others) => .ok (t.put key (.tables (.empty .defined) (last :: others)))
    | some _ => .error (.duplicateKey key)) path root

mutual

def toEntries : Table → List (String × Value)
  | .mk _ entries => entryValues entries

def entryValues : List (String × Item) → List (String × Value)
  | [] => []
  | (key, item) :: rest => (key, itemValue item) :: entryValues rest

def itemValue : Item → Value
  | .value v => v
  | .table t => .table t.toEntries
  | .tables last others => .array (tableValues [.table last.toEntries] others)

/-- The values of tables that are listed from the last one. -/
def tableValues (done : List Value) : List Table → List Value
  | [] => done
  | t :: rest => tableValues (.table t.toEntries :: done) rest

end

end Table
end TwigPrinter.Toml
