import TwigPrinter.Proofs.Concatenation
import TwigPrinter.Template.Build
/-!
What is written for each construct of an expression, from what is written for its parts.
-/
namespace TwigPrinter

/-- The node is printed without a tag, as the text. -/
def Writes (o : Options) (n : Node) (cs : List Char) : Prop := Prints o (· = cs) n

/-- The text of a node inside of a tag, as characters. -/
def Node.written (o : Options) (n : Node) : List Char := (n.inline o).toList

section Parts

variable {o : Options} {P : List Char → Prop} {n : Node} {a : List Char} {ns : List Node}
  {texts : List (List Char)}

theorem Writes.written_eq (h : Writes o n a) : n.written o = a := by
  obtain ⟨f, hf, rfl⟩ := h
  simp [Node.written, Node.inline, hf, Fragment.chars]

theorem Prints.writes (h : Prints o P n) : Writes o n (n.written o) := by
  obtain ⟨f, hf, -⟩ := h
  have hwrites : Writes o n f.chars := ⟨f, hf, rfl⟩
  rwa [hwrites.written_eq]

theorem Prints.written (h : Prints o P n) : P (n.written o) := by
  obtain ⟨f, hf, hP⟩ := h
  have hwrites : Writes o n f.chars := ⟨f, hf, rfl⟩
  rwa [hwrites.written_eq]

theorem forall₂_writes {text : Node → List Char} (h : ∀ m ∈ ns, Writes o m (text m)) :
    List.Forall₂ (Writes o) ns (ns.map text) :=
  List.forall₂_map_right_iff.2 (List.forall₂_same.2 h)

theorem printParts_writes (h : List.Forall₂ (Writes o) ns texts) :
    ∃ fs, printParts o (ns.map (·, false)) = .ok fs ∧ fs.map Fragment.chars = texts := by
  induction h with
  | nil => exact ⟨[], rfl, rfl⟩
  | cons hm _ ih =>
    obtain ⟨f, hf, hchars⟩ := hm
    obtain ⟨fs, hfs, hrest⟩ := ih
    exact ⟨f :: fs, by simp [hf, hfs], by simp [hchars, hrest]⟩

/-- From the parts of a node to the node. -/
theorem writes_of_parts (h : List.Forall₂ (Writes o) ns texts) (hbefore : n.refusal? = none)
    (hafter : n.shortage? = none) (hparts : n.parts o = ns.map (·, false))
    (hcontent : ∀ fs : List Fragment, fs.map Fragment.chars = texts → (n.content o fs).chars = a) :
    Writes o n a := by
  obtain ⟨fs, hfs, hchars⟩ := printParts_writes h
  refine ⟨n.assemble o false fs, ?_, ?_⟩
  · exact Node.result_print_eq_ok_iff.2 ⟨hbefore, hafter, fs, by rw [hparts, hfs], rfl⟩
  · rw [chars_assemble]
    exact hcontent fs hchars

end Parts

section Constructs

variable {o : Options} {target key left right test body operand value first name : Node}
  {alternative : Option Node} {args children rest : List Node} {a b : List Char}
  {as : List (List Char)}

theorem writes_symbol (name : String) : Writes o (.symbol name) name.toList := by
  refine writes_of_parts .nil rfl rfl rfl fun fs _ => ?_
  simp [Node.content]

theorem writes_literal (v : Scalar) : Writes o (.literal v) (Fragment.ofScalar v).chars :=
  writes_of_parts .nil rfl rfl rfl fun _ _ => rfl

theorem writes_lookup (htarget : Writes o target a) (hkey : Writes o key b) :
    Writes o (.lookup target key) (a ++ ('[' :: b ++ [']'])) := by
  refine writes_of_parts (.cons htarget (.cons hkey .nil)) rfl rfl rfl fun fs hfs => ?_
  obtain ⟨f, _, rfl, rfl, hrest⟩ := List.map_eq_cons_iff.1 hfs
  obtain ⟨g, _, rfl, rfl, hnil⟩ := List.map_eq_cons_iff.1 hrest
  obtain rfl := List.map_eq_nil_iff.1 hnil
  simp [Node.content]

theorem writes_binary (op : BinaryOp) (hleft : Writes o left a) (hright : Writes o right b) :
    Writes o (.binary op left right)
      (left.beside op a ++ op.token.toList ++ right.beside op b) := by
  refine writes_of_parts (.cons hleft (.cons hright .nil)) rfl rfl rfl fun fs hfs => ?_
  obtain ⟨f, _, rfl, rfl, hrest⟩ := List.map_eq_cons_iff.1 hfs
  obtain ⟨g, _, rfl, rfl, hnil⟩ := List.map_eq_cons_iff.1 hrest
  obtain rfl := List.map_eq_nil_iff.1 hnil
  exact Fragment.chars_binary op left right f g

theorem writes_negation (h : Writes o target a) :
    Writes o (.negation target) (Node.truthTest true (target.bracketed a)) := by
  refine writes_of_parts (.cons h .nil) rfl rfl rfl fun fs hfs => ?_
  obtain ⟨f, _, rfl, rfl, hnil⟩ := List.map_eq_cons_iff.1 hfs
  obtain rfl := List.map_eq_nil_iff.1 hnil
  exact Fragment.chars_negation target f

theorem writes_comparand (op : String) (h : Writes o operand a) :
    Writes o (.comparand operand op) (' ' :: (comparisonOp op).toList ++ ' ' :: a) := by
  refine writes_of_parts (.cons h .nil) rfl rfl rfl fun fs hfs => ?_
  obtain ⟨f, _, rfl, rfl, hnil⟩ := List.map_eq_cons_iff.1 hfs
  obtain rfl := List.map_eq_nil_iff.1 hnil
  simp [Node.content]

theorem writes_comparison (hfirst : Writes o first a) (hrest : List.Forall₂ (Writes o) rest as) :
    Writes o (.comparison first rest) (a ++ as.flatten) := by
  refine writes_of_parts (.cons hfirst hrest) rfl rfl rfl fun fs hfs => ?_
  simp [Node.content, List.flatMap, hfs]

theorem writes_collapsed {x : String} (h : o.collapsed? test body alternative = some x) :
    Writes o (.inlineIf test body alternative) x.toList := by
  refine writes_of_parts .nil rfl rfl (by simp [Node.parts, h]) fun fs hfs => ?_
  obtain rfl := List.map_eq_nil_iff.1 hfs
  simp [Node.content, h]

theorem writes_inlineIf (h : o.collapsed? test body alternative = none) (htest : Writes o test a)
    (hbody : Writes o body b) (halternative : List.Forall₂ (Writes o) alternative.toList as) :
    Writes o (.inlineIf test body alternative)
      (test.coerced a ++ " ? ".toList ++ b ++ " : ".toList ++ as.headD "\"\"".toList) := by
  have hparts := List.Forall₂.cons htest (.cons hbody halternative)
  refine writes_of_parts hparts rfl rfl (by simp [Node.parts, h]) fun fs hfs => ?_
  obtain ⟨f, _, rfl, rfl, hrest⟩ := List.map_eq_cons_iff.1 hfs
  obtain ⟨g, rest, rfl, rfl, rfl⟩ := List.map_eq_cons_iff.1 hrest
  cases rest <;> simp [Node.content, Fragment.choice, Fragment.chars_coerce]

theorem writes_filter {s : String} (hname : name.filterName? = some s)
    (hargs : List.Forall₂ (Writes o) args as) :
    Writes o (.filter name (.list args)) (as.headD [] ++
      (" | ".toList ++ (o.filterName s).toList ++ Node.filterArguments as.tail)) := by
  refine writes_of_parts hargs (by simp [Node.refusal?, hname]) rfl rfl fun fs hfs => ?_
  subst hfs
  simp only [Node.content, hname, Option.getD_some]
  cases fs with
  | nil => simp [Fragment.filterCall, Node.filterArguments]
  | cons f rest => exact Fragment.chars_filterCall _ f rest

theorem writes_call (hname : Writes o name a) (hargs : List.Forall₂ (Writes o) args as) :
    Writes o (.call name (.list args)) (a ++ ('(' :: [',', ' '].intercalate as ++ [')'])) := by
  refine writes_of_parts (.cons hname hargs) rfl rfl rfl fun fs hfs => ?_
  obtain ⟨f, rest, rfl, rfl, rfl⟩ := List.map_eq_cons_iff.1 hfs
  exact Fragment.chars_call f rest

theorem writes_group (h : List.Forall₂ (Writes o) children as) :
    Writes o (.seq .group children) ('(' :: as.flatten ++ [')']) := by
  refine writes_of_parts h rfl rfl rfl fun fs hfs => ?_
  simp [Node.content, List.flatMap, hfs]

theorem writes_pair {s : String} (hkey : key.keyText? = some s) (h : Writes o value a) :
    Writes o (.pair key value) ((Fragment.quoted s).chars ++ (": ".toList ++ a)) := by
  refine writes_of_parts (.cons h .nil) (by simp [Node.refusal?, hkey]) rfl rfl fun fs hfs => ?_
  obtain ⟨f, _, rfl, rfl, hnil⟩ := List.map_eq_cons_iff.1 hfs
  obtain rfl := List.map_eq_nil_iff.1 hnil
  simp [Node.content, hkey]

theorem writes_dict (h : List.Forall₂ (Writes o) children as) :
    Writes o (.seq .dict children) ('\x7b' :: [',', ' '].intercalate as ++ ['\x7d']) := by
  refine writes_of_parts h rfl rfl rfl fun fs hfs => ?_
  simp [Node.content, Delimiters.left, Delimiters.right, hfs]

end Constructs
end TwigPrinter
