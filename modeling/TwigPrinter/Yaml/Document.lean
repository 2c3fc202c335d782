import TwigPrinter.Yaml.Node
import TwigPrinter.Yaml.Schema
/-!
The value of a YAML document. Aliases are replaced by what they refer to; how deep collections may
be nested, aliases included, and how many aliases may be followed is bounded.
-/
namespace TwigPrinter.Yaml

def depthLimit : Nat := 128

/-- How many aliases may be followed for each mark of the document. -/
def aliasLimit : Nat := 100

/-- A computation that follows aliases: the state is how many more may be followed. -/
abbrev Following := StateT Nat (Except Fault)

def Tree.follow (t : Tree) : Node → Following Node
  | .alias number => do
    match ← get with
    | 0 => throw .tooManyAliases
    | left + 1 =>
      set left
      match t.anchored.lookup number with
      | some n => pure n
      | none => throw .undefinedAnchor
  | n => pure n

def checkTag (tag : Option Tag) : Following Unit :=
  if tag.any Tag.isApplication then throw .localTag else pure ()

def Tree.keyText (t : Tree) (n : Node) : Following String := do
  match ← t.follow n with
  | .scalar _ _ text => pure text
  | _ => throw .badKey

/-- The value of a node; `depth` is how many collections may still be opened. -/
def Tree.value (t : Tree) : (depth : Nat) → Node → Following Value
  | depth, n => do
    match ← t.follow n with
    | .scalar tag plain text => scalarValue tag plain text
    | .alias _ => throw .undefinedAnchor
    | .sequence tag items =>
      checkTag tag
      match depth with
      | 0 => throw .tooDeep
      | depth + 1 =>
        let items ← items.mapM (t.value depth)
        pure (.array items)
    | .mapping tag entries =>
      checkTag tag
      match depth with
      | 0 => throw .tooDeep
      | depth + 1 =>
        let members ← entries.mapM fun (key, v) => do
          let name ← t.keyText key
          let v ← t.value depth v
          pure (name, v)
        pure (.object members)

def parse (text : String) : Except Fault Value := do
  let ts ← Token.scan text
  let t ← Tree.ofTokens ts
  match t.root with
  | none => pure .null
  | some root =>
    let (v, _) ← (t.value depthLimit root).run (aliasLimit * root.weight)
    pure v.lastWins

end TwigPrinter.Yaml
