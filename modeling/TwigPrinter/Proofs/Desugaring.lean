import TwigPrinter.Proofs.Parts
import TwigPrinter.Template.Build
/-!
Options as a rewriting of templates. `Node.desugar` applies everything that can be chosen about the
Twig source to the template itself: filters are renamed, paths lose their prefix, `x if x` becomes
`x`, and strict comparisons become plain ones. Printing the outcome with options that ask for nothing
gives the same answer as printing the template with its options.

A conditional that becomes a name is of another kind than before, and some nodes are printed
differently according to the kind of a node below them (`Node.inspected`). Templates in which such a
conditional stands there are excepted.
-/
namespace TwigPrinter

/-- The options that ask for nothing. -/
def Options.neutral : Options where
  filterRenames := []
  includePrefix := ""
  collapseSelfConditional := false

/-- The plain form of a comparison operator. -/
def plainOp (op : String) : String :=
  if op = "===" then "==" else if op = "!==" then "!=" else op

namespace Node

/-- The name that a conditional is collapsed to. -/
def collapsedTo? (o : Options) : Node → Option String
  | .inlineIf test body alternative => o.collapsed? test body alternative
  | _ => none

mutual

/-- The template with everything done to it that the options ask for. All of it is done at once: a new
name of a filter is not renamed again, and a path loses one prefix. -/
def desugar (o : Options) : Node → Node
  | .seq form children => .seq form (desugarAll o children)
  | .data text => .data text
  | .symbol name => .symbol name
  | .literal value => .literal value
  | .lookup target key => .lookup (target.desugar o) (key.desugar o)
  | .binary op left right => .binary op (left.desugar o) (right.desugar o)
  | .negation target => .negation (target.desugar o)
  | .comparison first rest => .comparison (first.desugar o) (desugarAll o rest)
  | .comparand operand op => .comparand (operand.desugar o) (plainOp op)
  | .ifBlock test body alternative =>
    .ifBlock (test.desugar o) (body.desugar o) (desugarOption o alternative)
  | .inlineIf test body alternative =>
    match o.collapsed? test body alternative with
    | some name => .symbol name
    | none => .inlineIf (test.desugar o) (body.desugar o) (desugarOption o alternative)
  | .forLoop target items body alternative =>
    .forLoop (target.desugar o) (items.desugar o) (body.desugar o) (desugarOption o alternative)
  | .filter (.symbol name) args => .filter (.symbol (o.filterName name)) (args.desugar o)
  | .filter (.literal (.string name)) args =>
    .filter (.literal (.string (o.filterName name))) (args.desugar o)
  | .filter name args => .filter (name.desugar o) (args.desugar o)
  | .call name args => .call (name.desugar o) (args.desugar o)
  | .inclusion (.literal (.string path)) ignoreMissing =>
    .inclusion (.literal (.string (o.includePath path))) ignoreMissing
  | .inclusion template ignoreMissing => .inclusion (template.desugar o) ignoreMissing
  | .assignment targets value body =>
    .assignment (desugarAll o targets) (desugarOption o value) (desugarOption o body)
  | .capture body => .capture (body.desugar o)
  | .pair key value => .pair (key.desugar o) (value.desugar o)
  | .other name => .other name

def desugarAll (o : Options) : List Node → List Node
  | [] => []
  | n :: rest => n.desugar o :: desugarAll o rest

def desugarOption (o : Options) : Option Node → Option Node
  | none => none
  | some n => some (n.desugar o)

end

/-- The children of a node whose kind decides how it is printed. -/
def inspected : Node → List Node
  | .binary op left right => if op.isLogical then [left, right] else []
  | .negation target => [target]
  | .inlineIf test _ _ => [test]
  | .filter name _ => [name]
  | .pair key _ => [key]
  | _ => []

/-- No conditional that is collapsed stands where its kind matters. -/
def KeepsKinds (o : Options) (n : Node) : Prop :=
  ∀ m ∈ n.nodes, ∀ c ∈ m.inspected, c.collapsedTo? o = none

instance (o : Options) (n : Node) : Decidable (n.KeepsKinds o) :=
  inferInstanceAs (Decidable (∀ m ∈ n.nodes, ∀ c ∈ m.inspected, c.collapsedTo? o = none))

theorem KeepsKinds.self {o : Options} {n : Node} (h : n.KeepsKinds o) :
    ∀ c ∈ n.inspected, c.collapsedTo? o = none := h n (self_mem_nodes n)

theorem KeepsKinds.of_mem_visited {o : Options} {m n : Node} (h : n.KeepsKinds o)
    (hm : m ∈ n.visited) : m.KeepsKinds o :=
  fun k hk => h k (nodes_subset (mem_nodes_of_mem_visited hm) hk)

end Node

@[simp] theorem Options.neutral_filterName (name : String) : neutral.filterName name = name := rfl

@[simp] theorem Options.neutral_includePath (path : String) : neutral.includePath path = path := by
  simp [includePath, neutral]

@[simp] theorem Options.neutral_collapsed? (test body : Node) (alternative : Option Node) :
    neutral.collapsed? test body alternative = none := rfl

theorem comparisonOp_plainOp (op : String) : comparisonOp (plainOp op) = comparisonOp op := by
  unfold plainOp
  split
  · subst op; rfl
  · split
    · subst op; rfl
    · rfl

namespace Node

variable (o : Options)

section Lists

-- The equations of all three are generated here, ahead of the proofs: these are checked side by
-- side, and would otherwise all wait for the first one that asks for an equation.
attribute [local simp] desugar desugarAll desugarOption

theorem desugarAll_eq_map (ns : List Node) : desugarAll o ns = ns.map (desugar o) := by
  induction ns with
  | nil => rfl
  | cons n rest ih => simp [ih]

theorem desugarOption_eq_map (n : Option Node) : desugarOption o n = n.map (desugar o) := by
  cases n <;> simp

end Lists

theorem desugar_of_collapsedTo? {o : Options} {n : Node} {x : String}
    (h : n.collapsedTo? o = some x) :
    n = .inlineIf (.symbol x) (.symbol x) none ∧ n.desugar o = .symbol x := by
  cases n with
  | inlineIf test body alternative =>
    rw [collapsedTo?] at h
    have hdesugar : (inlineIf test body alternative).desugar o = .symbol x := by rw [desugar, h]
    obtain ⟨rfl, rfl, rfl⟩ := collapsed?_eq_some h
    exact ⟨rfl, hdesugar⟩
  | _ => simp [collapsedTo?] at h

theorem desugar_inlineIf {o : Options} {test body : Node} {alternative : Option Node}
    (h : (inlineIf test body alternative).collapsedTo? o = none) :
    (inlineIf test body alternative).desugar o =
      .inlineIf (test.desugar o) (body.desugar o) (alternative.map (desugar o)) := by
  rw [collapsedTo?] at h
  rw [desugar, h, desugarOption_eq_map]

def desugarName (o : Options) : Node → Node
  | .symbol name => .symbol (o.filterName name)
  | .literal (.string name) => .literal (.string (o.filterName name))
  | name => name.desugar o

def desugarPath (o : Options) : Node → Node
  | .literal (.string path) => .literal (.string (o.includePath path))
  | template => template.desugar o

theorem desugar_filter (name args : Node) :
    (filter name args).desugar o = .filter (name.desugarName o) (args.desugar o) := by
  cases name with
  | literal value => cases value <;> rfl
  | _ => rfl

theorem desugar_inclusion (template : Node) (ignoreMissing : Bool) :
    (inclusion template ignoreMissing).desugar o =
      .inclusion (template.desugarPath o) ignoreMissing := by
  cases template with
  | literal value => cases value <;> rfl
  | _ => rfl

section SameKind

variable {o} {n : Node} (h : n.collapsedTo? o = none)
include h

theorem kind_desugar : (n.desugar o).kind = n.kind := by
  cases n with
  | inlineIf => rw [desugar_inlineIf h]; rfl
  | filter => rw [desugar_filter]; rfl
  | inclusion => rw [desugar_inclusion]; rfl
  | _ => rfl

theorem keyText?_desugar : (n.desugar o).keyText? = n.keyText? := by
  cases n with
  | inlineIf => rw [desugar_inlineIf h]; rfl
  | filter => rw [desugar_filter]; rfl
  | inclusion => rw [desugar_inclusion]; rfl
  | _ => rfl

theorem filterName?_desugarName :
    (n.desugarName o).filterName? = n.filterName?.map o.filterName := by
  cases n with
  | literal value => cases value <;> rfl
  | inlineIf => simp [desugarName, desugar_inlineIf h, filterName?]
  | filter => simp [desugarName, desugar_filter, filterName?]
  | inclusion => simp [desugarName, desugar_inclusion, filterName?]
  | _ => rfl

theorem kind_desugarName : (n.desugarName o).kind = n.kind := by
  cases n with
  | symbol => rfl
  | literal value => cases value <;> rfl
  | _ => exact kind_desugar h

end SameKind

theorem isBareVariable_eq (n : Node) :
    n.isBareVariable = decide (n.kind ∈ [.symbol, .lookup]) := by cases n <;> rfl

theorem standsAlone_eq (n : Node) :
    n.standsAlone = decide (n.kind ∈ [.symbol, .lookup, .literal, .seq .group]) := by
  cases n with
  | seq form children => cases form <;> rfl
  | _ => rfl

theorem needsOutputTag_eq (n : Node) :
    n.needsOutputTag = decide (n.kind ∈ [.literal, .call, .seq .dict]) := by
  cases n with
  | seq form children => cases form <;> rfl
  | _ => rfl

theorem coerce_desugar {n : Node} (h : n.collapsedTo? o = none) (f : Fragment) :
    f.coerce (n.desugar o) = f.coerce n := by
  simp only [Fragment.coerce, isBareVariable_eq, kind_desugar h]

theorem negation_desugar {n : Node} (h : n.collapsedTo? o = none) (f : Fragment) :
    f.negation (n.desugar o) = f.negation n := by
  simp only [Fragment.negation, standsAlone_eq, kind_desugar h]

/-- Neither a conditional nor a name gets a tag from the output around it. -/
theorem outputItem_desugar (n : Node) : (n.desugar o).outputItem = n.outputItem := by
  have htag : (n.desugar o).needsOutputTag = n.needsOutputTag := by
    cases h : n.collapsedTo? o with
    | none => simp only [needsOutputTag_eq, kind_desugar h]
    | some x =>
      obtain ⟨rfl, hdesugar⟩ := desugar_of_collapsedTo? h
      rw [hdesugar]
      rfl
  unfold outputItem
  rw [htag]

theorem operands_desugar (n : Node) : (n.desugar o).operands = n.operands.map (desugar o) := by
  cases n with
  | seq form children => cases form <;> simp [desugar, operands, desugarAll_eq_map]
  | inlineIf test body alternative =>
    cases h : (inlineIf test body alternative).collapsedTo? o with
    | none => simp [desugar_inlineIf h, operands]
    | some x => simp [(desugar_of_collapsedTo? h).2, operands]
  | filter => simp [desugar_filter, operands]
  | inclusion => simp [desugar_inclusion, operands]
  | _ => simp [desugar, operands]

theorem desugar_ne_string {n : Node} (h : ∀ path, n = .literal (.string path) → False)
    (path : String) : n.desugar o = .literal (.string path) → False := by
  cases n with
  | literal value => exact h path
  | inlineIf test body alternative =>
    cases h : (inlineIf test body alternative).collapsedTo? o with
    | none => simp [desugar_inlineIf h]
    | some x => simp [(desugar_of_collapsedTo? h).2]
  | filter => simp [desugar_filter]
  | inclusion => simp [desugar_inclusion]
  | _ => simp [desugar]

theorem desugar_inclusion_of_ne {template : Node}
    (h : ∀ path, template = .literal (.string path) → False) (ignoreMissing : Bool) :
    (inclusion template ignoreMissing).desugar o =
      .inclusion (template.desugar o) ignoreMissing := by
  rw [desugar_inclusion, desugarPath]
  exact h

/-- A target that is not a path is printed like any other part, whatever the options. -/
theorem content_inclusion_of_ne {template : Node}
    (h : ∀ path, template = .literal (.string path) → False) (ignoreMissing : Bool)
    (fs : List Fragment) :
    (inclusion template ignoreMissing).content o fs =
      if fs.length = 1 then .inclusion (fs.headD (.seq [])) ignoreMissing else .seq [] := by
  cases template with
  | literal value =>
    cases value with
    | string path => exact (h path rfl).elim
    | _ => rcases fs with _ | ⟨f, _ | _⟩ <;> simp [content]
  | _ => rcases fs with _ | ⟨f, _ | _⟩ <;> simp [content]

section Uncollapsed

variable {o} {n : Node} (hn : n.collapsedTo? o = none)
include hn

theorem parts_desugar :
    (n.desugar o).parts .neutral = (n.parts o).map fun p => (p.1.desugar o, p.2) := by
  cases n with
  | seq form children => cases form <;> simp [desugar, parts, desugarAll_eq_map]
  | comparison first rest => simp [desugar, parts, desugarAll_eq_map]
  | ifBlock test body alternative => cases alternative <;> simp [desugar, parts, desugarOption]
  | inlineIf test body alternative =>
    rw [desugar_inlineIf hn]
    rw [collapsedTo?] at hn
    cases alternative <;> simp [parts, hn]
  | filter name args => simp [desugar_filter, parts, operands_desugar]
  | call name args => simp [desugar, parts, operands_desugar]
  | inclusion template ignoreMissing =>
    by_cases hpath : ∃ path, template = .literal (.string path)
    · obtain ⟨path, rfl⟩ := hpath
      rfl
    · have hne : ∀ path, template = .literal (.string path) → False := by simpa using hpath
      rw [desugar_inclusion_of_ne o hne, parts, parts]
      · rfl
      · exact hne
      · exact desugar_ne_string o hne
  | assignment targets value body =>
    cases value <;> cases body <;> simp [desugar, parts, desugarAll_eq_map, desugarOption]
  | _ => simp [desugar, parts]

theorem refusal?_desugar (h : ∀ c ∈ n.inspected, c.collapsedTo? o = none) :
    (n.desugar o).refusal? = n.refusal? := by
  cases n with
  | inlineIf => rw [desugar_inlineIf hn]; rfl
  | forLoop target items body alternative => cases alternative <;> rfl
  | filter name args =>
    have hname := h name (by simp [inspected])
    simp [desugar_filter, refusal?, filterName?_desugarName hname, kind_desugarName hname]
  | inclusion => rw [desugar_inclusion]; rfl
  | pair key value =>
    have hkey := h key (by simp [inspected])
    simp [desugar, refusal?, keyText?_desugar hkey, kind_desugar hkey]
  | _ => rfl

theorem shortage?_desugar : (n.desugar o).shortage? = n.shortage? := by
  cases n with
  | inlineIf => rw [desugar_inlineIf hn]; rfl
  | filter => rw [desugar_filter]; rfl
  | inclusion => rw [desugar_inclusion]; rfl
  | assignment targets value body => cases value <;> cases body <;> rfl
  | _ => rfl

theorem hasOwnTag_desugar : (n.desugar o).hasOwnTag = n.hasOwnTag := by
  cases n with
  | seq form children => cases form <;> rfl
  | inlineIf => rw [desugar_inlineIf hn]; rfl
  | filter => rw [desugar_filter]; rfl
  | inclusion => rw [desugar_inclusion]; rfl
  | _ => rfl

theorem content_desugar (h : ∀ c ∈ n.inspected, c.collapsedTo? o = none)
    (hrefusal : n.refusal? = none) (fs : List Fragment) :
    (n.desugar o).content .neutral fs = n.content o fs := by
  -- from a wrong number of parts both sides are printed as nothing
  cases n with
  | seq form children =>
    cases form with
    | output =>
      simp only [desugar, content, desugarAll_eq_map, List.zipWith_map_left, outputItem_desugar]
    | _ => rfl
  | binary op left right =>
    rcases fs with _ | ⟨l, _ | ⟨r, _ | _⟩⟩
    · rfl
    · rfl
    · cases hop : op.isLogical with
      | false => simp [desugar, content, hop]
      | true =>
        have hleft := h left (by simp [inspected, hop])
        have hright := h right (by simp [inspected, hop])
        simp [desugar, content, hop, coerce_desugar o hleft, coerce_desugar o hright]
    · rfl
  | negation target =>
    have htarget := h target (by simp [inspected])
    rcases fs with _ | ⟨f, _ | _⟩
    · rfl
    · simp [desugar, content, negation_desugar o htarget]
    · rfl
  | comparand operand op =>
    rcases fs with _ | ⟨f, _ | _⟩
    · rfl
    · simp [desugar, content, comparisonOp_plainOp]
    · rfl
  | inlineIf test body alternative =>
    have htest := h test (by simp [inspected])
    rw [desugar_inlineIf hn]
    rw [collapsedTo?] at hn
    rcases fs with _ | ⟨f, _ | ⟨g, fs⟩⟩
    · simp [content, hn]
    · rfl
    · simp [content, coerce_desugar o htest]
  | filter name args =>
    have hname := h name (by simp [inspected])
    -- what a filter without a name would be printed as differs, but it is refused
    cases hold : name.filterName? with
    | none => simp [refusal?, hold] at hrefusal
    | some old => simp [desugar_filter, content, filterName?_desugarName hname, hold]
  | inclusion template ignoreMissing =>
    by_cases hpath : ∃ path, template = .literal (.string path)
    · obtain ⟨path, rfl⟩ := hpath
      simp [desugar, content]
    · have hne : ∀ path, template = .literal (.string path) → False := by simpa using hpath
      rw [desugar_inclusion_of_ne o hne, content_inclusion_of_ne _ (desugar_ne_string o hne),
        content_inclusion_of_ne o hne]
  | assignment targets value body => cases value <;> cases body <;> rfl
  | pair key value =>
    have hkey := h key (by simp [inspected])
    rcases fs with _ | ⟨f, _ | _⟩
    · rfl
    · simp [desugar, content, keyText?_desugar hkey]
    · rfl
  | lookup => rcases fs with _ | ⟨f, _ | ⟨g, _ | _⟩⟩ <;> rfl
  | forLoop => rcases fs with _ | ⟨f, _ | ⟨g, _ | ⟨k, _ | _⟩⟩⟩ <;> rfl
  | ifBlock | call | capture => rcases fs with _ | ⟨f, _ | ⟨g, fs⟩⟩ <;> rfl
  | _ => rfl

end Uncollapsed

end Node

theorem printParts_map {o o' : Options} {r : Node → Node} {ps : List (Node × Bool)}
    (h : ∀ p ∈ ps, ((r p.1).print o' p.2).result = (p.1.print o p.2).result) :
    printParts o' (ps.map fun p => (r p.1, p.2)) = printParts o ps := by
  induction ps with
  | nil => rfl
  | cons p ps ih =>
    have hp := h p List.mem_cons_self
    have hps := ih fun q hq => h q (List.mem_cons_of_mem p hq)
    simp only [List.map_cons, printParts_cons, hp, hps]

namespace Node

theorem result_print_desugar {o : Options} {n : Node} (h : n.KeepsKinds o) (wrap : Bool) :
    ((n.desugar o).print .neutral wrap).result = (n.print o wrap).result := by
  induction n using visited_induction generalizing wrap with
  | step n ih =>
    cases hn : n.collapsedTo? o with
    | some x =>
      obtain ⟨rfl, hdesugar⟩ := desugar_of_collapsedTo? hn
      rw [collapsedTo?] at hn
      rw [hdesugar]
      simp [Node.print, hn, Traced.result_bind]
    | none =>
      have hparts : printParts .neutral ((n.desugar o).parts .neutral) = printParts o (n.parts o) := by
        rw [parts_desugar hn]
        refine printParts_map fun p hp => ?_
        have hvisited := fst_mem_visited hp
        exact ih p.1 hvisited (h.of_mem_visited hvisited) p.2
      rw [result_print, result_print, refusal?_desugar hn h.self, shortage?_desugar hn, hparts]
      cases hrefusal : n.refusal? with
      | some e => rfl
      | none => simp only [assemble, hasOwnTag_desugar hn, content_desugar hn h.self hrefusal]

/-- Options ask for nothing that could not be done to the template beforehand. -/
theorem toTwig_eq_toTwig_desugar {o : Options} {root : Node} (h : root.KeepsKinds o) :
    (root.toTwig o).result = ((root.desugar o).toTwig .neutral).result := by
  rw [result_toTwig, result_toTwig, result_print_desugar h]

/-- A chain of renamings, a path with the prefix twice, and a conditional that is collapsed. -/
theorem toTwig_desugar_of_chained_renames :
    ((Node.list [.includeOf (.string "././page"), .seq .output
        [.inlineIf (.symbol "x") (.symbol "x") none,
          .applyFilter "a" (.compareWith (.symbol "y") [("===", .string "./")]) []]]).toTwig
        ⟨[("a", "b"), ("b", "c")], "./", true⟩).result =
      ((Node.list [.includeOf (.string "./page"), .seq .output
        [.symbol "x",
          .applyFilter "b" (.compareWith (.symbol "y") [("==", .string "./")]) []]]).toTwig
        .neutral).result :=
  toTwig_eq_toTwig_desugar (by decide)

-- a negation tells a conditional from a name
example :
    ((Node.negation (.inlineIf (.symbol "x") (.symbol "x") none)).toTwig
        ⟨[], "", true⟩).result = .ok "( (x) == false or (x) is empty )" ∧
      (((Node.negation (.inlineIf (.symbol "x") (.symbol "x") none)).desugar ⟨[], "", true⟩).toTwig
        .neutral).result = .ok "( x == false or x is empty )" := ⟨rfl, rfl⟩

end Node
end TwigPrinter
