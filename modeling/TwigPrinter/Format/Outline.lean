import TwigPrinter.Template.Node
/-!
The outline of a template: one line for each node, with its place in the tree drawn in front of it.
-/
namespace TwigPrinter
namespace Outline

def labelLimit : Nat := 30

def cut (label : String) : String :=
  if label.length ≤ labelLimit then label
  else String.ofList (label.toList.take labelLimit) ++ "..."

def line (n : Node) : String :=
  match n.label? with
  | none => n.kind.name
  | some label => n.kind.name ++ ": " ++ cut label

def connector (last : Bool) : String := if last then "└─ " else "├─ "

/-- What stands before the descendants of a node, below its connector. -/
def margin (last : Bool) : String := if last then "   " else "│  "

mutual

def drawItem (indent : String) (last : Bool) : Tree String → String
  | .node text children =>
    indent ++ connector last ++ text ++ "\n" ++ drawItems (indent ++ margin last) children

def drawItems (indent : String) : List (Tree String) → String
  | [] => ""
  | t :: rest => drawItem indent rest.isEmpty t ++ drawItems indent rest

end

def draw : Tree String → String
  | .node text children => text ++ "\n" ++ drawItems "" children

end Outline

def Node.outline (root : Node) : String := Outline.draw (root.tree Outline.line)

end TwigPrinter
