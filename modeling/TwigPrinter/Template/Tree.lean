/-!
Ordered trees with a value at every node.
-/
namespace TwigPrinter

inductive Tree (α : Type) where
  | node (value : α) (children : List (Tree α))

namespace Tree

variable {α : Type}

def value : Tree α → α
  | .node value _ => value

def children : Tree α → List (Tree α)
  | .node _ children => children

mutual

def preorder : Tree α → List α
  | .node value children => value :: preorderAll children

def preorderAll : List (Tree α) → List α
  | [] => []
  | t :: rest => t.preorder ++ preorderAll rest

end

end Tree
end TwigPrinter
