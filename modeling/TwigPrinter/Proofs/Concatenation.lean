import Mathlib.Data.List.Forall2
import TwigPrinter.Proofs.Parts
/-!
The characters of a printed form, and relations between texts that printing preserves.

An expression is printed by putting the texts of its parts next to each other, with fixed texts
between them and round or square brackets around them. So a relation between texts which allows that
(`Concatenative`) holds for two printed expressions as soon as it holds for their parts. A property
of one text is such a relation between a text and itself.
-/
namespace TwigPrinter
namespace Fragment

/-- The characters of a printed form. -/
def chars (f : Fragment) : List Char := f.render.toList

@[simp] theorem chars_text (s : String) : (Fragment.text s).chars = s.toList := by
  simp [chars, render]

theorem toList_renderAll (fs : List Fragment) : (renderAll fs).toList = fs.flatMap chars := by
  induction fs with
  | nil => rfl
  | cons f rest ih => simp [renderAll, chars, ih]

@[simp] theorem chars_seq (fs : List Fragment) : (Fragment.seq fs).chars = fs.flatMap chars := by
  rw [chars, render, toList_renderAll]

@[simp] theorem chars_wrap_true (f : Fragment) (marks : Delimiters) :
    (Fragment.wrap f marks true).chars = marks.left.toList ++ f.chars ++ marks.right.toList := by
  simp [chars, render]

@[simp] theorem chars_wrap_false (f : Fragment) (marks : Delimiters) :
    (Fragment.wrap f marks false).chars = f.chars := by
  simp [chars, render]

@[simp] theorem chars_joined (sep : String) (fs : List Fragment) :
    (Fragment.joined sep fs).chars = sep.toList.intercalate (fs.map chars) := by
  rw [joined, chars_seq]
  induction fs with
  | nil => rfl
  | cons f rest ih =>
    cases rest with
    | nil => simp [List.intercalate]
    | cons g rest => simpa [List.intercalate] using ih

@[simp] theorem chars_quoted (s : String) :
    (Fragment.quoted s).chars = '"' :: Text.escapeChars s.toList ++ ['"'] := by
  simp [quoted, Delimiters.left, Delimiters.right, Text.escape]

end Fragment

namespace Node

/-- The text of a truth test: what is tested stands twice in it. -/
def truthTest (negated : Bool) (tested : List Char) : List Char :=
  if negated then
    "( ".toList ++ tested ++ " == false or ".toList ++ tested ++ " is empty )".toList
  else "( ".toList ++ tested ++ " == true or ".toList ++ tested ++ " is not empty )".toList

/-- The text of an expression where a truth value is wanted. -/
def coerced (n : Node) (text : List Char) : List Char :=
  if n.isBareVariable then truthTest false text else text

/-- The text of the target of a negation, as it is tested. -/
def bracketed (n : Node) (text : List Char) : List Char :=
  if n.standsAlone then text else '(' :: text ++ [')']

/-- The text of an operand of an operator: a variable beside `and` or `or` is tested. -/
def beside (op : BinaryOp) (n : Node) (text : List Char) : List Char :=
  if op.isLogical then n.coerced text else text

/-- The arguments of a filter, which has no brackets when there are none. -/
def filterArguments : List (List Char) → List Char
  | [] => []
  | args => '(' :: [','].intercalate args ++ [')']

end Node

namespace Fragment

theorem chars_truthTest (f : Fragment) (negated : Bool) :
    (f.truthTest negated).chars = Node.truthTest negated f.chars := by
  cases negated <;> simp [truthTest, Node.truthTest]

theorem chars_coerce (n : Node) (f : Fragment) : (f.coerce n).chars = n.coerced f.chars := by
  unfold coerce Node.coerced
  split
  · exact chars_truthTest f false
  · rfl

theorem chars_negation (n : Node) (f : Fragment) :
    (f.negation n).chars = Node.truthTest true (n.bracketed f.chars) := by
  unfold negation Node.bracketed
  split <;> simp [chars_truthTest]

theorem chars_binary (op : BinaryOp) (left right : Node) (l r : Fragment) :
    (if op.isLogical then Fragment.seq [l.coerce left, op.token, r.coerce right]
      else .seq [l, op.token, r]).chars =
        left.beside op l.chars ++ op.token.toList ++ right.beside op r.chars := by
  rw [Node.beside, Node.beside]
  split <;> simp [chars_coerce]

theorem chars_call (f : Fragment) (args : List Fragment) :
    (Fragment.seq [f, "(", .text (", ".intercalate (args.map (·.render))), ")"]).chars =
      f.chars ++ ('(' :: [',', ' '].intercalate (args.map chars) ++ [')']) := by
  have hrendered : args.map (fun g => g.render.toList) = args.map chars := rfl
  simp [String.toList_intercalate, Function.comp_def, hrendered]

theorem chars_filterCall (name : String) (value : Fragment) (args : List Fragment) :
    (filterCall name ((value :: args).map (·.render))).chars =
      value.chars ++ (" | ".toList ++ name.toList ++ Node.filterArguments (args.map chars)) := by
  cases args with
  | nil => simp [filterCall, Node.filterArguments, chars, render]
  | cons f rest =>
    have hrest : rest.map (fun f => f.render.toList) = rest.map chars := rfl
    simp [filterCall, Node.filterArguments, chars, render, String.toList_intercalate,
      Function.comp_def, hrest]

end Fragment

/-- The texts that stand between the parts of an expression. -/
def fixedTexts : List String :=
  ["", " ", " == true or ", " is not empty ", " == false or ", " is empty ", " ? ", " : ", "\"\"",
    " | ", ",", ", ", ": "] ++ BinaryOp.all.map BinaryOp.token

theorem token_mem_fixedTexts (op : BinaryOp) : op.token ∈ fixedTexts := by cases op <;> decide

/-- A relation between texts that is kept when texts are put together as in an expression. -/
structure Concatenative (R : List Char → List Char → Prop) : Prop where
  fixed : ∀ s ∈ fixedTexts, R s.toList s.toList
  append : ∀ {a b c d}, R a b → R c d → R (a ++ c) (b ++ d)
  round : ∀ {a b}, R a b → R ('(' :: a ++ [')']) ('(' :: b ++ [')'])
  square : ∀ {a b}, R a b → R ('[' :: a ++ [']']) ('[' :: b ++ [']'])

namespace Concatenative

variable {R : List Char → List Char → Prop} (hR : Concatenative R)
include hR

theorem flatten {as bs : List (List Char)} (h : List.Forall₂ R as bs) : R as.flatten bs.flatten := by
  induction h with
  | nil => exact hR.fixed "" (by decide)
  | cons hab _ ih => exact hR.append hab ih

theorem intercalate {sep : String} (hsep : sep ∈ fixedTexts) {as bs : List (List Char)}
    (h : List.Forall₂ R as bs) : R (sep.toList.intercalate as) (sep.toList.intercalate bs) := by
  induction h with
  | nil => exact hR.fixed "" (by decide)
  | cons hab hrest ih =>
    cases hrest with
    | nil => simpa [List.intercalate] using hab
    | cons _ _ =>
      have htail := hR.append (hR.fixed sep hsep) ih
      simpa [List.intercalate] using hR.append hab htail

variable {a b : List Char}

theorem truthTest (negated : Bool) (h : R a b) :
    R (Node.truthTest negated a) (Node.truthTest negated b) := by
  have test : ∀ {s t : String}, s ∈ fixedTexts → t ∈ fixedTexts →
      R (' ' :: a ++ s.toList ++ a ++ t.toList) (' ' :: b ++ s.toList ++ b ++ t.toList) := by
    intro s t hs ht
    have hfirst := hR.append (hR.append (hR.fixed " " (by decide)) h) (hR.fixed s hs)
    exact hR.append (hR.append hfirst h) (hR.fixed t ht)
  cases negated with
  | true =>
    have hround := hR.round (@test " == false or " " is empty " (by decide) (by decide))
    simpa [Node.truthTest] using hround
  | false =>
    have hround := hR.round (@test " == true or " " is not empty " (by decide) (by decide))
    simpa [Node.truthTest] using hround

theorem coerced {m n : Node} (hk : m.isBareVariable = n.isBareVariable) (h : R a b) :
    R (m.coerced a) (n.coerced b) := by
  unfold Node.coerced
  rw [hk]
  split
  · exact hR.truthTest false h
  · exact h

theorem beside (op : BinaryOp) {m n : Node} (hk : m.isBareVariable = n.isBareVariable)
    (h : R a b) : R (m.beside op a) (n.beside op b) := by
  rw [Node.beside, Node.beside]
  split
  · exact hR.coerced hk h
  · exact h

theorem bracketed {m n : Node} (hk : m.standsAlone = n.standsAlone) (h : R a b) :
    R (m.bracketed a) (n.bracketed b) := by
  unfold Node.bracketed
  rw [hk]
  split
  · exact h
  · exact hR.round h

theorem filterArguments {as bs : List (List Char)} (h : List.Forall₂ R as bs) :
    R (Node.filterArguments as) (Node.filterArguments bs) := by
  cases h with
  | nil => exact hR.fixed "" (by decide)
  | cons hfirst hrest =>
    exact hR.round (hR.intercalate (show "," ∈ fixedTexts by decide) (.cons hfirst hrest))

theorem seq {fs gs : List Fragment} (h : List.Forall₂ (fun f g => R f.chars g.chars) fs gs) :
    R (Fragment.seq fs).chars (Fragment.seq gs).chars := by
  simp only [Fragment.chars_seq, List.flatMap]
  exact hR.flatten (List.forall₂_map_left_iff.2 (List.forall₂_map_right_iff.2 h))

theorem joined {sep : String} (hsep : sep ∈ fixedTexts) {fs gs : List Fragment}
    (h : List.Forall₂ (fun f g => R f.chars g.chars) fs gs) :
    R (Fragment.joined sep fs).chars (Fragment.joined sep gs).chars := by
  simp only [Fragment.chars_joined]
  exact hR.intercalate hsep (List.forall₂_map_left_iff.2 (List.forall₂_map_right_iff.2 h))

variable {f g f₁ f₂ f₃ g₁ g₂ g₃ : Fragment}

/-- Two parts around a fixed text. -/
theorem between {s : String} (hs : s ∈ fixedTexts) (h₁ : R f₁.chars g₁.chars)
    (h₂ : R f₂.chars g₂.chars) :
    R (Fragment.seq [f₁, s, f₂]).chars (Fragment.seq [g₁, s, g₂]).chars := by
  have hrest := hR.append (hR.fixed s hs) h₂
  simpa using hR.append h₁ hrest

theorem brackets (h : R f.chars g.chars) :
    R (Fragment.seq ["(", f, ")"]).chars (Fragment.seq ["(", g, ")"]).chars := by
  simpa using hR.round h

theorem lookup (h₁ : R f₁.chars g₁.chars) (h₂ : R f₂.chars g₂.chars) :
    R (Fragment.seq [f₁, "[", f₂, "]"]).chars (Fragment.seq [g₁, "[", g₂, "]"]).chars := by
  simpa using hR.append h₁ (hR.square h₂)

theorem coerce {m n : Node} (hk : m.isBareVariable = n.isBareVariable) (h : R f.chars g.chars) :
    R (f.coerce m).chars (g.coerce n).chars := by
  rw [Fragment.chars_coerce, Fragment.chars_coerce]
  exact hR.coerced hk h

theorem binary (op : BinaryOp) {m₁ m₂ n₁ n₂ : Node} (hk₁ : m₁.isBareVariable = n₁.isBareVariable)
    (hk₂ : m₂.isBareVariable = n₂.isBareVariable) (h₁ : R f₁.chars g₁.chars)
    (h₂ : R f₂.chars g₂.chars) :
    R (if op.isLogical then Fragment.seq [f₁.coerce m₁, op.token, f₂.coerce m₂]
        else .seq [f₁, op.token, f₂]).chars
      (if op.isLogical then Fragment.seq [g₁.coerce n₁, op.token, g₂.coerce n₂]
        else .seq [g₁, op.token, g₂]).chars := by
  have htoken := hR.fixed op.token (token_mem_fixedTexts op)
  rw [Fragment.chars_binary, Fragment.chars_binary]
  exact hR.append (hR.append (hR.beside op hk₁ h₁) htoken) (hR.beside op hk₂ h₂)

theorem negation {m n : Node} (hk : m.standsAlone = n.standsAlone) (h : R f.chars g.chars) :
    R (f.negation m).chars (g.negation n).chars := by
  rw [Fragment.chars_negation, Fragment.chars_negation]
  exact hR.truthTest true (hR.bracketed hk h)

theorem choice (h₁ : R f₁.chars g₁.chars) (h₂ : R f₂.chars g₂.chars) {fs gs : List Fragment}
    (h : List.Forall₂ (fun f g => R f.chars g.chars) fs gs) :
    R (Fragment.choice f₁ f₂ fs.head?).chars (Fragment.choice g₁ g₂ gs.head?).chars := by
  have hlast : R (fs.head?.getD "\"\"").chars (gs.head?.getD "\"\"").chars := by
    cases h with
    | nil => simpa using hR.fixed "\"\"" (by decide)
    | cons h _ => exact h
  have hrest := hR.append (hR.fixed " : " (by decide)) hlast
  have hbody := hR.append (hR.fixed " ? " (by decide)) (hR.append h₂ hrest)
  simpa [Fragment.choice] using hR.append h₁ hbody

theorem comparand {op : String} (hop : R op.toList op.toList) (h : R f.chars g.chars) :
    R (Fragment.seq [" ", op, " ", f]).chars (Fragment.seq [" ", op, " ", g]).chars := by
  have hblank := hR.fixed " " (by decide)
  simpa using hR.append hblank (hR.append hop (hR.append hblank h))

theorem call (h₁ : R f.chars g.chars) {fs gs : List Fragment}
    (h : List.Forall₂ (fun f g => R f.chars g.chars) fs gs) :
    R (Fragment.seq [f, "(", .text (", ".intercalate (fs.map (·.render))), ")"]).chars
      (Fragment.seq [g, "(", .text (", ".intercalate (gs.map (·.render))), ")"]).chars := by
  have hchars := List.forall₂_map_left_iff.2 (List.forall₂_map_right_iff.2 h)
  rw [Fragment.chars_call, Fragment.chars_call]
  exact hR.append h₁ (hR.round (hR.intercalate (show ", " ∈ fixedTexts by decide) hchars))

theorem filterCall {name : String} (hname : R name.toList name.toList) {fs gs : List Fragment}
    (h : List.Forall₂ (fun f g => R f.chars g.chars) fs gs) :
    R (Fragment.filterCall name (fs.map (·.render))).chars
      (Fragment.filterCall name (gs.map (·.render))).chars := by
  have hpipe := hR.append (hR.fixed " | " (by decide)) hname
  cases h with
  | nil => simpa [Fragment.filterCall] using hpipe
  | cons hvalue hrest =>
    have hargs := hR.filterArguments (List.forall₂_map_left_iff.2 (List.forall₂_map_right_iff.2 hrest))
    rw [Fragment.chars_filterCall, Fragment.chars_filterCall]
    exact hR.append hvalue (hR.append hpipe hargs)

end Concatenative

/-- What holds of a name and of all new names holds of the name that is written. -/
theorem Options.filterName_of_forall {o : Options} {Q : String → Prop} {name : String} (h : Q name)
    (hnew : ∀ r ∈ o.filterRenames, Q r.2) : Q (o.filterName name) := by
  unfold Options.filterName
  cases hlookup : o.filterRenames.lookup name with
  | none => exact h
  | some new =>
    obtain ⟨before, after, hrenames, -⟩ := List.lookup_eq_some_iff.1 hlookup
    exact hnew (name, new) (by simp [hrenames])

theorem comparisonOp_of_forall {Q : String → Prop} {op : String} (h : Q op)
    (hnew : ∀ s ∈ ["==", "!="], Q s) : Q (comparisonOp op) := by
  unfold comparisonOp
  split
  · exact hnew "==" (by decide)
  · exact hnew "!=" (by decide)
  · exact h

/-- The node is printed without a tag, as a text with the property. -/
def Prints (o : Options) (P : List Char → Prop) (n : Node) : Prop :=
  ∃ f, (n.print o false).result = .ok f ∧ P f.chars

/-- The text of a node inside of a tag. -/
def Node.inline (o : Options) (n : Node) : String :=
  match (n.print o false).result with
  | .ok f => f.render
  | .error _ => ""

section Prints

variable {o : Options} {P Q : List Char → Prop}

theorem chars_assemble (n : Node) (fs : List Fragment) :
    (n.assemble o false fs).chars = (n.content o fs).chars := by
  unfold Node.assemble
  split
  · exact Fragment.chars_wrap_false _ _
  · rfl

theorem Prints.inline {n : Node} (h : Prints o P n) :
    ∃ f, (n.print o false).result = .ok f ∧ f.render = n.inline o ∧ P (n.inline o).toList := by
  obtain ⟨f, hf, hP⟩ := h
  have hinline : n.inline o = f.render := by simp [Node.inline, hf]
  exact ⟨f, hf, hinline.symm, hinline ▸ hP⟩

end Prints
end TwigPrinter
