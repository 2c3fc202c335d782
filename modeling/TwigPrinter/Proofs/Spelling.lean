import TwigPrinter.Proofs.Constructs
/-!
The text of an expression without the printer. Expressions are sorted by rank, as a reader of Twig
does it: a primary can have an index or arguments put behind it, an operand is a primary with
filters behind it, and an expression is an operand or two operands with an operator between them.
For these `Node.spelling` says what is printed, whatever the options are, as long as no filter is
renamed.
-/
namespace TwigPrinter

inductive Rank where
  | primary
  | operand
  | expression
  deriving DecidableEq, Repr

/-- The characters that end a name. -/
def breaks : List Char := [' ', '"', ',', '(', ')', '[', ']']

def isWordChar (c : Char) : Bool := c ∉ breaks

/-- A name that a reader takes as one. -/
def IsWord (s : String) : Prop := s.toList ≠ [] ∧ s.toList.all isWordChar = true

instance (s : String) : Decidable (IsWord s) :=
  inferInstanceAs (Decidable (s.toList ≠ [] ∧ s.toList.all isWordChar = true))

inductive HasRank : Rank → Node → Prop where
  | symbol {name : String} : IsWord name → HasRank .primary (.symbol name)
  | string (s : String) : HasRank .primary (.literal (.string s))
  | lookup {target key : Node} : HasRank .primary target → HasRank .expression key →
      HasRank .primary (.lookup target key)
  | call {name : Node} {args : List Node} : HasRank .primary name →
      (∀ a ∈ args, HasRank .expression a) → HasRank .primary (.call name (.seq .list args))
  | group {inner : Node} : HasRank .expression inner → HasRank .primary (.seq .group [inner])
  | ofPrimary {n : Node} : HasRank .primary n → HasRank .operand n
  | filter {name : String} {value : Node} {args : List Node} : IsWord name →
      HasRank .operand value → (∀ a ∈ args, HasRank .expression a) →
      HasRank .operand (.filter (.symbol name) (.seq .list (value :: args)))
  | ofOperand {n : Node} : HasRank .operand n → HasRank .expression n
  | binary (op : BinaryOp) {left right : Node} : HasRank .operand left → HasRank .operand right →
      HasRank .expression (.binary op left right)

namespace Node

mutual

/-- The text of an expression. -/
def spelling : Node → List Char
  | .symbol name => name.toList
  | .literal (.string s) => '"' :: Text.escapeChars s.toList ++ ['"']
  | .lookup target key => target.spelling ++ ('[' :: key.spelling ++ [']'])
  | .call name (.seq .list args) =>
    name.spelling ++ ('(' :: [',', ' '].intercalate (spellings args) ++ [')'])
  | .seq .group [inner] => '(' :: inner.spelling ++ [')']
  | .filter (.symbol name) (.seq .list (value :: args)) =>
    value.spelling ++ (" | ".toList ++ name.toList ++ filterArguments (spellings args))
  | .binary op left right =>
    beside op left left.spelling ++ op.token.toList ++ beside op right right.spelling
  | _ => []

def spellings : List Node → List (List Char)
  | [] => []
  | n :: rest => n.spelling :: spellings rest

end

@[simp] theorem spellings_eq_map (ns : List Node) : spellings ns = ns.map spelling := by
  induction ns with
  | nil => rfl
  | cons n rest ih => simp [spellings, ih]

/-- The node is printed as it is spelled. -/
def IsSpelled (o : Options) (n : Node) : Prop := Prints o (· = n.spelling) n

end Node

/-- An expression is printed as it is spelled when no filter is renamed. -/
theorem HasRank.isSpelled {o : Options} (ho : o.filterRenames = []) {c : Rank} {n : Node}
    (h : HasRank c n) : n.IsSpelled o := by
  induction h with
  | @symbol name _ => exact writes_symbol name
  | string s =>
    have hquoted := writes_literal (o := o) (.string s)
    rwa [Fragment.ofScalar, Fragment.chars_quoted] at hquoted
  | lookup _ _ htarget hkey => exact writes_lookup htarget hkey
  | @call name args _ _ hname hargs =>
    have hwritten := writes_call hname (forall₂_writes hargs)
    rwa [← Node.spellings_eq_map] at hwritten
  | @group inner _ hinner =>
    have hwritten := writes_group (.cons hinner .nil)
    rwa [List.flatten_singleton] at hwritten
  | ofPrimary _ hn => exact hn
  | @filter name value args _ _ _ hvalue hargs =>
    have hname : (Node.symbol name).filterName? = some name := rfl
    have hkept : o.filterName name = name := by simp [Options.filterName, ho]
    have hwritten := writes_filter hname (.cons hvalue (forall₂_writes hargs))
    rwa [hkept, ← Node.spellings_eq_map] at hwritten
  | ofOperand _ hn => exact hn
  | binary op _ _ hleft hright => exact writes_binary op hleft hright

end TwigPrinter
