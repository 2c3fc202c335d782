import TwigPrinter.Template.Kind
import TwigPrinter.Template.Scalar
import TwigPrinter.Template.Tree
/-!
Parsed Nunjucks templates. A template is a tree of nodes; `Node.children` lists the children of a
node in the order in which they stand in the document, and every walk over a tree is in that order.
-/
namespace TwigPrinter

inductive Node where
  | seq (form : SeqForm) (children : List Node)
  /-- Text of the template outside all tags. -/
  | data (text : String)
  | symbol (name : String)
  | literal (value : Scalar)
  | lookup (target key : Node)
  | binary (op : BinaryOp) (left right : Node)
  | negation (target : Node)
  | comparison (first : Node) (rest : List Node)
  /-- One operator of a comparison with the operand to its right. -/
  | comparand (operand : Node) (op : String)
  | ifBlock (test body : Node) (alternative : Option Node)
  | inlineIf (test body : Node) (alternative : Option Node)
  | forLoop (target items body : Node) (alternative : Option Node)
  | filter (name args : Node)
  | call (name args : Node)
  | inclusion (template : Node) (ignoreMissing : Bool)
  | assignment (targets : List Node) (value body : Option Node)
  | capture (body : Node)
  | pair (key value : Node)
  /-- A node of a kind without meaning here. -/
  | other (name : String)

namespace Node

def kind : Node → Kind
  | .seq form _ => .seq form
  | .data _ => .data
  | .symbol _ => .symbol
  | .literal _ => .literal
  | .lookup _ _ => .lookup
  | .binary op _ _ => .binary op
  | .negation _ => .negation
  | .comparison _ _ => .comparison
  | .comparand _ _ => .comparand
  | .ifBlock _ _ _ => .ifBlock
  | .inlineIf _ _ _ => .inlineIf
  | .forLoop _ _ _ _ => .forLoop
  | .filter _ _ => .filter
  | .call _ _ => .call
  | .inclusion _ _ => .inclusion
  | .assignment _ _ _ => .assignment
  | .capture _ => .capture
  | .pair _ _ => .pair
  | .other name => .other name

def children : Node → List Node
  | .seq _ children => children
  | .data _ | .symbol _ | .literal _ | .other _ => []
  | .lookup target key => [target, key]
  | .binary _ left right => [left, right]
  | .negation target => [target]
  | .comparison first rest => first :: rest
  | .comparand operand _ => [operand]
  | .ifBlock test body alternative | .inlineIf test body alternative =>
    [test, body] ++ alternative.toList
  | .forLoop target items body alternative => [target, items, body] ++ alternative.toList
  | .filter name args | .call name args => [name, args]
  | .inclusion template _ => [template]
  | .assignment targets value body => targets ++ value.toList ++ body.toList
  | .capture body => [body]
  | .pair key value => [key, value]

def isLiteral : Node → Bool
  | .literal _ => true
  | _ => false

/-- A name, or a property of something: what can be empty or undefined when the template runs. -/
def isBareVariable : Node → Bool
  | .symbol _ | .lookup _ _ => true
  | _ => false

def label? : Node → Option String
  | .data text => some (Text.visible text)
  | .symbol name => some name
  | .literal value => some value.shown
  | .comparand _ op => some op
  | .inclusion _ true => some "ignore missing"
  | _ => none

section Tree

variable {α : Type}

mutual

def tree (f : Node → α) (n : Node) : Tree α :=
  .node (f n) <| match n with
  | .seq _ children => treeAll f children
  | .data _ | .symbol _ | .literal _ | .other _ => []
  | .lookup a b | .binary _ a b | .filter a b | .call a b | .pair a b => [a.tree f, b.tree f]
  | .negation a | .comparand a _ | .inclusion a _ | .capture a => [a.tree f]
  | .comparison first rest => first.tree f :: treeAll f rest
  | .ifBlock test body alternative | .inlineIf test body alternative =>
    test.tree f :: body.tree f :: treeOption f alternative
  | .forLoop target items body alternative =>
    target.tree f :: items.tree f :: body.tree f :: treeOption f alternative
  | .assignment targets value body => treeAll f targets ++ treeOption f value ++ treeOption f body

def treeAll (f : Node → α) : List Node → List (Tree α)
  | [] => []
  | n :: rest => n.tree f :: treeAll f rest

def treeOption (f : Node → α) : Option Node → List (Tree α)
  | none => []
  | some n => [n.tree f]

end

theorem treeAll_eq_map (f : Node → α) (ns : List Node) : treeAll f ns = ns.map (tree f) := by
  induction ns with
  | nil => rfl
  | cons n rest ih => simp [treeAll, ih]

theorem treeOption_eq_map (f : Node → α) (n : Option Node) :
    treeOption f n = n.toList.map (tree f) := by
  cases n <;> rfl

theorem tree_eq (f : Node → α) (n : Node) : n.tree f = .node (f n) (n.children.map (tree f)) := by
  cases n <;> simp [tree, children, treeAll_eq_map, treeOption_eq_map]

end Tree

mutual

/-- Equality of trees, with numbers compared by kind and value. -/
def same : Node → Node → Bool
  | .seq f as, .seq g bs => f == g && sameList as bs
  | .data a, .data b => a == b
  | .symbol a, .symbol b => a == b
  | .literal a, .literal b => a.same b
  | .lookup a b, .lookup c d => a.same c && b.same d
  | .binary o a b, .binary p c d => o == p && a.same c && b.same d
  | .negation a, .negation b => a.same b
  | .comparison a as, .comparison b bs => a.same b && sameList as bs
  | .comparand a o, .comparand b p => a.same b && o == p
  | .ifBlock a b c, .ifBlock d e f => a.same d && b.same e && sameOption c f
  | .inlineIf a b c, .inlineIf d e f => a.same d && b.same e && sameOption c f
  | .forLoop a b c d, .forLoop e f g h => a.same e && b.same f && c.same g && sameOption d h
  | .filter a b, .filter c d => a.same c && b.same d
  | .call a b, .call c d => a.same c && b.same d
  | .inclusion a m, .inclusion b n => a.same b && m == n
  | .assignment as b c, .assignment ds e f => sameList as ds && sameOption b e && sameOption c f
  | .capture a, .capture b => a.same b
  | .pair a b, .pair c d => a.same c && b.same d
  | .other a, .other b => a == b
  | _, _ => false

def sameList : List Node → List Node → Bool
  | [], [] => true
  | a :: as, b :: bs => a.same b && sameList as bs
  | _, _ => false

def sameOption : Option Node → Option Node → Bool
  | none, none => true
  | some a, some b => a.same b
  | _, _ => false

end

end Node
end TwigPrinter
