import TwigPrinter.Settings.Key
import TwigPrinter.Settings.Loader
import TwigPrinter.Toml.Document
/-!
The backend of settings that comes with this library: documents are read as TOML and merged entry by
entry in their order, and values that were set are put over all of them. Values under different keys
are put there in an order that is not settled.
-/
namespace TwigPrinter.Settings

inductive LoadError where
  | badKey (key : String)
  | noFile (path : String)
  | badDocument (path : Option String) (fault : Toml.Fault)
  /-- A value that is not of the shape that the settings need there. -/
  | badShape (expected : String)
  /-- A value that does not stand for a text or a truth value, with the key it is under. -/
  | badType (key expected : String)
  deriving DecidableEq, Repr

/-- The wording is this library's own. -/
def LoadError.message : LoadError → String
  | .badKey key => "invalid key " ++ String.quote key
  | .noFile path => "configuration file " ++ String.quote path ++ " not found"
  | .badDocument none fault => fault.message
  | .badDocument (some path) fault => fault.message ++ " in " ++ path
  | .badShape expected => "invalid type, expected " ++ expected
  | .badType key expected => "invalid type, expected " ++ expected ++ " for key `" ++ key ++ "`"

/-- One part of the way to a value: the key of a table or the index of an array. -/
def LoadError.under (part : String) : LoadError → LoadError
  | .badType key expected =>
    let dot := if key.isEmpty || key.toList.head? == some '[' then "" else "."
    .badType (part ++ dot ++ key) expected
  | e => e

def indexPart (i : Nat) : String := "[" ++ Nat.repr i ++ "]"

namespace Value

def toText : Value → Except LoadError String
  | .string s => .ok s
  | .bool b => .ok (if b then "true" else "false")
  | .integer n => .ok (if n < 0 then "-" ++ Nat.repr n.natAbs else Nat.repr n.natAbs)
  | .real x => .ok x.text
  | .null | .array _ | .table _ => .error (.badType "" "a string")

def boolOfWord? (word : String) : Option Bool :=
  if ["1", "true", "on", "yes"].contains word then some true
  else if ["0", "false", "off", "no"].contains word then some false
  else none

def toBool : Value → Except LoadError Bool
  | .bool b => .ok b
  | .integer n => .ok (n != 0)
  | .real x => .ok (!x.isZero)
  | .string s =>
    match boolOfWord? (Text.lower s) with
    | some b => .ok b
    | none => .error (.badType "" "a boolean")
  | .null | .array _ | .table _ => .error (.badType "" "a boolean")

def toNames : Value → Except LoadError (List (String × String))
  | .table entries => entries.mapM fun (key, v) => do
    let text ← v.toText.mapError (·.under key)
    pure (key, text)
  | _ => .error (.badShape "a map")

def setField (o : Options) (part : String) (v : Value) : Options.Field → Except LoadError Options
  | .filterRenames => do
    let names ← v.toNames.mapError (·.under part)
    pure { o with filterRenames := names }
  | .includePrefix => do
    let text ← v.toText.mapError (·.under part)
    pure { o with includePrefix := text }
  | .collapseSelfConditional => do
    let flag ← v.toBool.mapError (·.under part)
    pure { o with collapseSelfConditional := flag }

def optionsOfEntries (o : Options) : List (String × Value) → Except LoadError Options
  | [] => .ok o
  | (key, v) :: rest =>
    match Options.Field.all.find? (·.name = key) with
    | none => optionsOfEntries o rest
    | some field => do
      let o ← setField o key v field
      optionsOfEntries o rest

/-- The fields of the options in their order; further items are passed over. -/
def optionsOfItems (o : Options) (i : Nat) :
    List Options.Field → List Value → Except LoadError Options
  | field :: fields, v :: rest => do
    let o ← setField o (indexPart i) v field
    optionsOfItems o (i + 1) fields rest
  | _, _ => .ok o

def toOptions : Value → Except LoadError Options
  | .table entries => optionsOfEntries {} entries
  | .array items => optionsOfItems {} 0 Options.Field.all items
  | _ => .error (.badShape "transform options")

def toFormat : Value → Except LoadError String
  | .table entries =>
    match entries.lookup "format" with
    | some v => v.toText.mapError (·.under "format")
    | none => .error (.badShape "field `format`")
  | .array (v :: _) => v.toText.mapError (·.under (indexPart 0))
  | _ => .error (.badShape "output options")

def toSettings (v : Value) : Except LoadError Settings := do
  let options ← ((v.entries.lookup "transform").getD .null).toOptions.mapError (·.under "transform")
  let format ← ((v.entries.lookup "output").getD .null).toFormat.mapError (·.under "output")
  pure ⟨options, format⟩

end Value

/-- Puts the entries of a document over a layer. Their names may be keys that lead further down. -/
def putEntries (root : Value) : List (String × Toml.Value) → Value
  | [] => root
  | (name, v) :: rest =>
    putEntries (((Key.parse? name).getD (.top name)).set (.ofToml v) root) rest

/-- The path under which a file is found: as given, or with the usual extension. -/
def findFile? (d : Disk) (path : String) : Option String :=
  if d.hasFile path then some path
  else match Path.addExtension? path "toml" with
    | some path => if d.hasFile path then some path else none
    | none => none

def fileText? (d : Disk) (path : String) : Option String := do
  let found ← findFile? d path
  (d.readText found).toOption

/-- The entries of a layer. A file that need not be there is empty when it cannot be read. -/
def Source.entries (d : Disk) : Source → Except LoadError (List (String × Toml.Value))
  | .text toml => (Toml.parse toml).mapError (.badDocument none)
  | .file path required =>
    match fileText? d path with
    | some content => (Toml.parse content).mapError (.badDocument (some path))
    | none => if required then .error (.noFile path) else .ok []

def putSources (d : Disk) : List Source → Value → Except LoadError Value
  | [], root => .ok root
  | s :: rest, root => do
    let entries ← s.entries d
    putSources d rest (putEntries root entries)

/-- The order in which values that were set are gone through. -/
structure Listing where
  order : List (Key × Value) → List (Key × Value)
  perm : ∀ values, (order values).Perm values

def Listing.asSet : Listing := ⟨id, fun values => .refl values⟩

structure Layers where
  sources : List Source := []
  overrides : List (Key × Value) := []

namespace Layers

/-- Sets a value: of those for one key the last counts. -/
def putOverride (key : Key) (v : Value) : List (Key × Value) → List (Key × Value)
  | [] => [(key, v)]
  | (k, old) :: rest => if k = key then (key, v) :: rest else (k, old) :: putOverride key v rest

def setOverride (l : Layers) (key : String) (v : Value) : Except LoadError Layers :=
  match Key.parse? key with
  | some k => .ok { l with overrides := putOverride k v l.overrides }
  | none => .error (.badKey key)

def putOverrides (listing : Listing) (overrides : List (Key × Value)) (root : Value) : Value :=
  (listing.order overrides).foldl (fun root (key, v) => key.set v root) root

def build (listing : Listing) (l : Layers) (d : Disk) : Except LoadError Value := do
  let root ← putSources d l.sources (.table [])
  pure (putOverrides listing l.overrides root)

end Layers

@[reducible] def Backend.layered (listing : Listing) : Backend where
  Builder := Layers
  Value := Settings.Value
  Config := Settings.Value
  Error := LoadError
  start := {}
  addSource l s := { l with sources := l.sources ++ [s] }
  setOverride := Layers.setOverride
  build := Layers.build listing
  deserialize := Settings.Value.toSettings
  string := Settings.Value.string
  message := LoadError.message

end TwigPrinter.Settings
