import TwigPrinter.Document.Value
import TwigPrinter.Template.Node
/-!
Templates from documents. A node is an object with the name of its kind under `typename` and its
parts under the names of fields; what an object holds besides is passed over, and a field that is
null counts as missing. Fields are read in a fixed order and the first defect on the way is
reported.
-/
namespace TwigPrinter

inductive Defect where
  | notObject
  | noTypename
  | missing (field : String)
  | notArray (field : String)
  | notString (field : String)
  | notBool (field : String)
  | notScalar (field : String)
  deriving DecidableEq, Repr

def Defect.reason : Defect → String
  | .notObject => "expected an object"
  | .noTypename => "missing `typename`"
  | .missing field => "missing `" ++ field ++ "`"
  | .notArray field => "`" ++ field ++ "` must be an array"
  | .notString field => "`" ++ field ++ "` must be a string"
  | .notBool field => "`" ++ field ++ "` must be a boolean"
  | .notScalar field => "`" ++ field ++ "` must be a scalar"

structure Malformed where
  kind : String
  defect : Defect
  deriving DecidableEq, Repr

namespace Malformed

def unknownKind : String := "<unknown>"

def message (m : Malformed) : String :=
  "Malformed " ++ m.kind ++ " node: " ++ m.defect.reason

end Malformed

/-- A member of an object in the ways in which it may be read: as it stands, as a node, and as a
list of nodes if it is an array. -/
structure Reading where
  value : Value
  node : Except Malformed Node
  list? : Option (Except Malformed (List Node))

structure Fields where
  kind : String
  readings : List (String × Reading)

namespace Fields

/-- A member that is there and not null. -/
def get? (fs : Fields) (field : String) : Option Reading :=
  match fs.readings.lookup field with
  | none => none
  | some reading =>
    match reading.value with
    | .null => none
    | _ => some reading

def fail {α : Type} (fs : Fields) (defect : Defect) : Except Malformed α :=
  .error ⟨fs.kind, defect⟩

def node (fs : Fields) (field : String) : Except Malformed Node :=
  match fs.get? field with
  | none => fs.fail (.missing field)
  | some reading => reading.node

def optional (fs : Fields) (field : String) : Except Malformed (Option Node) :=
  match fs.get? field with
  | none => .ok none
  | some reading => reading.node.map some

def list (fs : Fields) (field : String) : Except Malformed (List Node) :=
  match fs.get? field with
  | none => .ok []
  | some reading =>
    match reading.list? with
    | none => fs.fail (.notArray field)
    | some nodes => nodes

def text (fs : Fields) (field : String) : Except Malformed String :=
  match fs.get? field with
  | none => fs.fail (.missing field)
  | some reading =>
    match reading.value with
    | .string s => .ok s
    | _ => fs.fail (.notString field)

def flag (fs : Fields) (field : String) : Except Malformed Bool :=
  match fs.get? field with
  | none => .ok false
  | some reading =>
    match reading.value with
    | .bool b => .ok b
    | _ => fs.fail (.notBool field)

def scalar (fs : Fields) (field : String) : Except Malformed Scalar :=
  match fs.get? field with
  | none => .ok .null
  | some reading =>
    match reading.value with
    | .string s => .ok (.string s)
    | .number n => .ok (.number n)
    | .bool b => .ok (.bool b)
    | .null => .ok .null
    | .array _ | .object _ => fs.fail (.notScalar field)

def assemble (fs : Fields) : Kind → Except Malformed Node
  | .seq form => do
    let children ← fs.list "children"
    pure (.seq form children)
  | .data => do
    let text ← fs.text "value"
    pure (.data text)
  | .symbol => do
    let name ← fs.text "value"
    pure (.symbol name)
  | .literal => do
    let value ← fs.scalar "value"
    pure (.literal value)
  | .lookup => do
    let target ← fs.node "target"
    let key ← fs.node "val"
    pure (.lookup target key)
  | .binary op => do
    let left ← fs.node "left"
    let right ← fs.node "right"
    pure (.binary op left right)
  | .negation => do
    let target ← fs.node "target"
    pure (.negation target)
  | .comparison => do
    let first ← fs.node "expr"
    let rest ← fs.list "ops"
    pure (.comparison first rest)
  | .comparand => do
    let operand ← fs.node "expr"
    let op ← fs.text "type"
    pure (.comparand operand op)
  | .ifBlock => do
    let test ← fs.node "cond"
    let body ← fs.node "body"
    let alternative ← fs.optional "else_"
    pure (.ifBlock test body alternative)
  | .inlineIf => do
    let test ← fs.node "cond"
    let body ← fs.node "body"
    let alternative ← fs.optional "else_"
    pure (.inlineIf test body alternative)
  | .forLoop => do
    let target ← fs.node "name"
    let items ← fs.node "arr"
    let body ← fs.node "body"
    let alternative ← fs.optional "else_"
    pure (.forLoop target items body alternative)
  | .filter => do
    let name ← fs.node "name"
    let args ← fs.node "args"
    pure (.filter name args)
  | .call => do
    let name ← fs.node "name"
    let args ← fs.node "args"
    pure (.call name args)
  | .inclusion => do
    let template ← fs.node "template"
    let ignoreMissing ← fs.flag "ignoreMissing"
    pure (.inclusion template ignoreMissing)
  | .assignment => do
    let targets ← fs.list "targets"
    let value ← fs.optional "value"
    let body ← fs.optional "body"
    pure (.assignment targets value body)
  | .capture => do
    let body ← fs.node "body"
    pure (.capture body)
  | .pair => do
    let key ← fs.node "key"
    let value ← fs.node "value"
    pure (.pair key value)
  | .other name => .ok (.other name)

end Fields

namespace Node

def typename? (members : List (String × Value)) : Option String :=
  match members.lookup "typename" with
  | some (.string kind) => some kind
  | _ => none

mutual

def decode : Value → Except Malformed Node
  | .object members =>
    match typename? members with
    | none => .error ⟨Malformed.unknownKind, .noTypename⟩
    | some kind => Fields.assemble ⟨kind, readings members⟩ (Kind.ofName kind)
  | _ => .error ⟨Malformed.unknownKind, .notObject⟩

def readings : List (String × Value) → List (String × Reading)
  | [] => []
  | (name, v) :: rest => (name, ⟨v, decode v, decodeItems? v⟩) :: readings rest

def decodeItems? : Value → Option (Except Malformed (List Node))
  | .array items => some (decodeAll items)
  | _ => none

def decodeAll : List Value → Except Malformed (List Node)
  | [] => .ok []
  | v :: rest => do
    let n ← decode v
    let ns ← decodeAll rest
    pure (n :: ns)

end

end Node
end TwigPrinter
