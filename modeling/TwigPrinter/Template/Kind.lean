/-!
The kinds of template nodes and their names in a parsed template. Every name is the name of one
kind: the names listed in `Kind.known` have a meaning here, any other one names a kind that is
carried along without being understood.
-/
namespace TwigPrinter

inductive BinaryOp where
  | add
  | sub
  | mul
  | div
  | mod
  | isIn
  | or
  | and
  deriving DecidableEq, Repr

namespace BinaryOp

def all : List BinaryOp := [.add, .sub, .mul, .div, .mod, .isIn, .or, .and]

def name : BinaryOp → String
  | .add => "Add"
  | .sub => "Sub"
  | .mul => "Mul"
  | .div => "Div"
  | .mod => "Mod"
  | .isIn => "In"
  | .or => "Or"
  | .and => "And"

def token : BinaryOp → String
  | .add => " + "
  | .sub => " - "
  | .mul => " * "
  | .div => " / "
  | .mod => " % "
  | .isIn => " in "
  | .or => " or "
  | .and => " and "

def isLogical : BinaryOp → Bool
  | .or | .and => true
  | _ => false

def ofName? (name : String) : Option BinaryOp := all.find? (·.name = name)

@[simp] theorem ofName?_name (op : BinaryOp) : ofName? op.name = some op := by
  cases op <;> decide

end BinaryOp

/-- The nodes that are an ordered list of children and nothing else. -/
inductive SeqForm where
  | root
  | output
  | list
  | group
  | dict
  deriving DecidableEq, Repr

def SeqForm.name : SeqForm → String
  | .root => "Root"
  | .output => "Output"
  | .list => "NodeList"
  | .group => "Group"
  | .dict => "Dict"

inductive Kind where
  | seq (form : SeqForm)
  | data
  | symbol
  | literal
  | lookup
  | binary (op : BinaryOp)
  | negation
  | comparison
  | comparand
  | ifBlock
  | inlineIf
  | forLoop
  | filter
  | call
  | inclusion
  | assignment
  | capture
  | pair
  | other (name : String)
  deriving DecidableEq, Repr

namespace Kind

def name : Kind → String
  | .seq form => form.name
  | .data => "TemplateData"
  | .symbol => "Symbol"
  | .literal => "Literal"
  | .lookup => "LookupVal"
  | .binary op => op.name
  | .negation => "Not"
  | .comparison => "Compare"
  | .comparand => "CompareOperand"
  | .ifBlock => "If"
  | .inlineIf => "InlineIf"
  | .forLoop => "For"
  | .filter => "Filter"
  | .call => "FunCall"
  | .inclusion => "Include"
  | .assignment => "Set"
  | .capture => "Capture"
  | .pair => "Pair"
  | .other name => name

def known : List Kind :=
  [.seq .root, .seq .output, .seq .list, .seq .group, .seq .dict, .data, .symbol, .literal, .lookup,
    .negation, .comparison, .comparand, .ifBlock, .inlineIf, .forLoop, .filter, .call, .inclusion,
    .assignment, .capture, .pair] ++ BinaryOp.all.map .binary

def ofName (name : String) : Kind := (known.find? (·.name = name)).getD (.other name)

theorem ofName_name_of_known : ∀ k ∈ known, ofName k.name = k := by decide

end Kind
end TwigPrinter
