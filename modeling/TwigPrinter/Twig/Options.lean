import TwigPrinter.Document.Value
/-!
What can be chosen about the Twig source: other names for filters, a mark of relative paths that is
dropped from included templates, and whether `x if x` is written as `x`.
-/
namespace TwigPrinter

structure Options where
  filterRenames : List (String × String) := [("safe", "raw")]
  includePrefix : String := "./"
  collapseSelfConditional : Bool := false
  deriving DecidableEq, Repr

namespace Options

/-- The name a filter has in Twig. The new name is not looked up again. -/
def filterName (o : Options) (name : String) : String :=
  (o.filterRenames.lookup name).getD name

/-- The path without the prefix, which is taken off at most once. -/
def includePath (o : Options) (path : String) : String :=
  let mark := o.includePrefix.toList
  if mark.isPrefixOf path.toList then String.ofList (path.toList.drop mark.length) else path

def putName (key value : String) : List (String × String) → List (String × String)
  | [] => [(key, value)]
  | (k, v) :: rest => if k = key then (key, value) :: rest else (k, v) :: putName key value rest

def ofNames? (done : List (String × String)) :
    List (String × Value) → Option (List (String × String))
  | [] => some done
  | (key, .string value) :: rest => ofNames? (putName key value done) rest
  | _ :: _ => none

inductive Field where
  | filterRenames
  | includePrefix
  | collapseSelfConditional
  deriving DecidableEq, Repr

def Field.all : List Field := [.filterRenames, .includePrefix, .collapseSelfConditional]

def Field.name : Field → String
  | .filterRenames => "filter_renames"
  | .includePrefix => "include_prefix"
  | .collapseSelfConditional => "collapse_self_conditional"

def setField? (o : Options) : Field → Value → Option Options
  | .filterRenames, .object members => do
    let names ← ofNames? [] members
    pure { o with filterRenames := names }
  | .includePrefix, .string s => some { o with includePrefix := s }
  | .collapseSelfConditional, .bool b => some { o with collapseSelfConditional := b }
  | _, _ => none

/-- Options from the members of an object: unknown names are passed over, and a field may be given
only once. -/
def ofMembers? (o : Options) (unset : List Field) : List (String × Value) → Option Options
  | [] => some o
  | (key, v) :: rest =>
    match Field.all.find? (·.name = key) with
    | none => ofMembers? o unset rest
    | some field =>
      if field ∈ unset then do
        let o ← o.setField? field v
        ofMembers? o (unset.erase field) rest
      else none

def ofItems? (o : Options) : List Field → List Value → Option Options
  | _, [] => some o
  | [], _ :: _ => none
  | field :: fields, v :: rest => do
    let o ← o.setField? field v
    ofItems? o fields rest

def ofValue? : Value → Option Options
  | .object members => ofMembers? {} Field.all members
  | .array items => ofItems? {} Field.all items
  | _ => none

end Options
end TwigPrinter
