import TwigPrinter.Template.Node
/-!
Short forms for building templates by hand.
-/
namespace TwigPrinter.Node

/-- Template text as it stands in a parsed template, inside an output node. -/
def text (s : String) : Node := .seq .output [.data s]

def string (s : String) : Node := .literal (.string s)

def list (nodes : List Node) : Node := .seq .list nodes

def attr (target : Node) (name : String) : Node := .lookup target (string name)

def compareWith (first : Node) (rest : List (String × Node)) : Node :=
  .comparison first (rest.map fun (op, operand) => .comparand operand op)

def branch (test : Node) (body : List Node) (alternative : Option (List Node)) : Node :=
  .ifBlock test (list body) (alternative.map list)

def loop (target items : Node) (body : List Node) : Node :=
  .forLoop target items (list body) none

def applyFilter (name : String) (value : Node) (args : List Node) : Node :=
  .filter (.symbol name) (list (value :: args))

def apply (name : Node) (args : List Node) : Node := .call name (list args)

def includeOf (template : Node) : Node := .inclusion template false

def assign (targets : List Node) (value : Node) : Node := .assignment targets (some value) none

def assignBlock (target : Node) (body : List Node) : Node :=
  .assignment [target] none (some (.capture (list body)))

def dict (entries : List (Node × Node)) : Node :=
  .seq .dict (entries.map fun (key, value) => .pair key value)

end TwigPrinter.Node
