import TwigPrinter.Document.Value
import TwigPrinter.Template.Node
/-!
Documents from templates: the object of a node has its kind and its parts, and no member for a part
that is missing.
-/
namespace TwigPrinter

def Scalar.encode : Scalar → Value
  | .string s => .string s
  | .number n => .number n
  | .bool b => .bool b
  | .null => .null

namespace Node

def record (kind : Kind) (fields : List (String × Value)) : Value :=
  .object (("typename", .string kind.name) :: fields)

mutual

def encode (n : Node) : Value :=
  record n.kind <| match n with
  | .seq _ children => [("children", .array (encodeAll children))]
  | .data text => [("value", .string text)]
  | .symbol name => [("value", .string name)]
  | .literal value => [("value", value.encode)]
  | .lookup target key => [("target", target.encode), ("val", key.encode)]
  | .binary _ left right => [("left", left.encode), ("right", right.encode)]
  | .negation target => [("target", target.encode)]
  | .comparison first rest => [("expr", first.encode), ("ops", .array (encodeAll rest))]
  | .comparand operand op => [("expr", operand.encode), ("type", .string op)]
  | .ifBlock test body alternative | .inlineIf test body alternative =>
    [("cond", test.encode), ("body", body.encode)] ++ encodeOption "else_" alternative
  | .forLoop target items body alternative =>
    [("name", target.encode), ("arr", items.encode), ("body", body.encode)]
      ++ encodeOption "else_" alternative
  | .filter name args | .call name args => [("name", name.encode), ("args", args.encode)]
  | .inclusion template ignoreMissing =>
    [("template", template.encode), ("ignoreMissing", .bool ignoreMissing)]
  | .assignment targets value body =>
    [("targets", .array (encodeAll targets))] ++ encodeOption "value" value
      ++ encodeOption "body" body
  | .capture body => [("body", body.encode)]
  | .pair key value => [("key", key.encode), ("value", value.encode)]
  | .other _ => []

def encodeAll : List Node → List Value
  | [] => []
  | n :: rest => n.encode :: encodeAll rest

def encodeOption (field : String) : Option Node → List (String × Value)
  | none => []
  | some n => [(field, n.encode)]

end

end Node
end TwigPrinter
