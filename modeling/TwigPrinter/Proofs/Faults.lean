import TwigPrinter.Proofs.Parts
/-!
Which templates have no Twig source, and what is reported for them. A node can be at fault by itself
(`Node.fault?`); printing a template fails when one of the nodes it comes to is, and reports the
fault of the first of them. A node is judged before the nodes it goes on to, only an assignment is
judged after its targets.

A node that printing does not come to is not judged at all. For most of these nodes that does no
harm, since the node above them is at fault if they are anything but a name or a plain value. The
body of an assignment that has a value as well is the exception.
-/
namespace TwigPrinter

theorem errorOf?_refuse (e : Option PrintError) : errorOf? (refuse e) = e := by cases e <;> rfl

theorem errorOf?_printParts {o : Options} {ps : List (Node × Bool)} {g : Node → Option PrintError}
    (h : ∀ p ∈ ps, errorOf? (p.1.print o p.2).result = g p.1) :
    errorOf? (printParts o ps) = ps.findSome? fun p => g p.1 := by
  induction ps with
  | nil => rfl
  | cons p ps ih =>
    have hp := h p List.mem_cons_self
    have hps := ih fun q hq => h q (List.mem_cons_of_mem p hq)
    rw [printParts_cons, List.findSome?_cons, ← hp, ← hps]
    cases (p.1.print o p.2).result with
    | error e => rfl
    | ok f => exact errorOf?_bind_ok _ _

namespace Node

/-- What is wrong with a node by itself. -/
def fault? : Node → Option PrintError
  | .other name => some (.unhandled name)
  | .forLoop _ _ _ (some _) => some (.construct "For" "else_ is not handled")
  | .assignment _ none none => some (.construct "Set" "neither value nor body is present")
  | .filter (.symbol _) _ | .filter (.literal (.string _)) _ => none
  | .filter name _ => some (.unhandled name.kind.name)
  | .pair (.symbol _) _ | .pair (.literal _) _ => none
  | .pair key _ => some (.unhandled key.kind.name)
  | _ => none

def isAssignment : Node → Bool
  | .assignment _ _ _ => true
  | _ => false

/-- The nodes that printing comes to, in the order in which they are judged. -/
def judged (n : Node) : List Node :=
  let below := n.visited.attach.flatMap fun m => judged m.val
  if n.isAssignment then below ++ [n] else n :: below
termination_by sizeOf n
decreasing_by exact sizeOf_lt_of_mem_visited m.property

theorem judged_eq (n : Node) :
    n.judged = if n.isAssignment then n.visited.flatMap judged ++ [n]
      else n :: n.visited.flatMap judged := by
  rw [judged]
  simp only [List.flatMap_subtype, List.unattach_attach]

theorem mem_judged_iff {m n : Node} : m ∈ n.judged ↔ m = n ∨ ∃ c ∈ n.visited, m ∈ c.judged := by
  rw [judged_eq]
  split <;> simp [or_comm]

theorem self_mem_judged (n : Node) : n ∈ n.judged := mem_judged_iff.2 (.inl rfl)

/-- An assignment can only lack something, and every other node can only be refused. -/
theorem fault?_eq (n : Node) :
    n.fault? = if n.isAssignment then n.shortage? else n.refusal? := by
  cases n with
  | forLoop target items body alternative => cases alternative <;> rfl
  | assignment targets value body => cases value <;> cases body <;> rfl
  | filter name args =>
    cases name with
    | literal value => cases value <;> rfl
    | _ => rfl
  | pair key value => cases key <;> rfl
  | _ => rfl

theorem shortage?_of_not_assignment {n : Node} (h : n.isAssignment = false) :
    n.shortage? = none := by
  cases n with
  | assignment => cases h
  | _ => rfl

theorem refusal?_of_assignment {n : Node} (h : n.isAssignment = true) : n.refusal? = none := by
  cases n with
  | assignment => rfl
  | _ => cases h

theorem findSome?_flatMap_judged (ns : List Node) :
    (ns.flatMap judged).findSome? fault? = ns.findSome? fun n => n.judged.findSome? fault? := by
  induction ns with
  | nil => rfl
  | cons n rest ih =>
    rw [List.flatMap_cons, List.findSome?_append, List.findSome?_cons, ih]
    cases n.judged.findSome? fault? <;> rfl

/-- One step of the search: the fault of a node against those below it. -/
theorem findSome?_judged (n : Node) :
    n.judged.findSome? fault? =
      n.refusal?.or ((n.visited.findSome? fun m => m.judged.findSome? fault?).or n.shortage?) := by
  rw [judged_eq, ← findSome?_flatMap_judged]
  cases h : n.isAssignment with
  | true => simp [fault?_eq n, h, refusal?_of_assignment h]
  | false =>
    simp only [Bool.false_eq_true, if_false, List.findSome?_cons, fault?_eq n, h,
      shortage?_of_not_assignment h, Option.or_none]
    cases n.refusal? <;> rfl

theorem findSome?_parts (o : Options) (n : Node) :
    ((n.parts o).findSome? fun p => p.1.judged.findSome? fault?) =
      n.visited.findSome? fun m => m.judged.findSome? fault? := by
  rcases fst_parts o n with hparts | ⟨x, rfl, hparts⟩
  · rw [← hparts, List.findSome?_map]
    rfl
  · -- a name is never at fault, so it does not matter that these two are not printed
    have hname : (Node.symbol x).judged.findSome? fault? = none := by
      simp [judged_eq, isAssignment, visited, fault?]
    simp [hparts, visited, hname]

/-- Printing fails with the first fault among the nodes it comes to, if there is one. -/
theorem errorOf?_print (o : Options) (n : Node) (wrap : Bool) :
    errorOf? (n.print o wrap).result = n.judged.findSome? fault? := by
  induction n using visited_induction generalizing wrap with
  | step n ih =>
    have hparts : errorOf? (printParts o (n.parts o)) =
        n.visited.findSome? fun m => m.judged.findSome? fault? := by
      rw [← findSome?_parts o]
      exact errorOf?_printParts (g := fun m => m.judged.findSome? fault?) fun p hp =>
        ih p.1 (fst_mem_visited hp) p.2
    have hafter : ∀ fs : List Fragment, errorOf? (do
        refuse n.shortage?
        Except.ok (n.assemble o wrap fs)) = n.shortage? := by
      intro fs
      rw [errorOf?_bind_ok, errorOf?_refuse]
    rw [result_print, findSome?_judged, ← hparts, errorOf?_bind fun _ => errorOf?_bind hafter,
      errorOf?_refuse]

theorem errorOf?_toTwig (o : Options) (root : Node) :
    errorOf? (root.toTwig o).result = root.judged.findSome? fault? := by
  rw [result_toTwig, errorOf?_bind_ok, errorOf?_print]

/-- A template has Twig source exactly when no node that printing comes to is at fault, whatever the
options; otherwise the first fault is reported. -/
theorem toTwig_fails_at_first_fault (o : Options) (root : Node) :
    ((∃ source, (root.toTwig o).result = .ok source) ↔ ∀ m ∈ root.judged, m.fault? = none) ∧
      ∀ e, (root.toTwig o).result = .error e ↔ root.judged.findSome? fault? = some e := by
  constructor
  · rw [← errorOf?_eq_none_iff, errorOf?_toTwig, List.findSome?_eq_none_iff]
  · intro e
    rw [← errorOf?_eq_some_iff, errorOf?_toTwig]

/-- Nodes for which there is no Twig source wherever they stand. -/
def isUnprintable : Node → Bool
  | .other _ | .forLoop _ _ _ (some _) => true
  | _ => false

/-- The body of an assignment that is given a value too. -/
def ignoredBody? : Node → Option Node
  | .assignment _ (some _) body => body
  | _ => none

theorem ignoredBody?_mem_children {n b : Node} (h : n.ignoredBody? = some b) : b ∈ n.children := by
  unfold ignoredBody? at h
  split at h
  · simp [children, h]
  · cases h

theorem fault?_ne_none_of_isUnprintable {n : Node} (h : n.isUnprintable = true) :
    n.fault? ≠ none := by
  unfold isUnprintable at h
  split at h <;> simp_all [fault?]

theorem args_cases (args : Node) :
    args ∈ args.operands ∨
      ∃ entries, args = .seq .list entries ∧ ∀ e ∈ entries, e ∈ args.operands := by
  by_cases h : ∃ entries, args = .seq .list entries
  · obtain ⟨entries, rfl⟩ := h
    exact .inr ⟨entries, rfl, fun e he => he⟩
  · left
    rw [operands_eq_singleton (by simpa using h)]
    exact List.mem_singleton_self args

/-- Printing passes over a child of a sound node only if the child is a leaf that can be printed, the
list around arguments that are printed themselves, or an ignored body. -/
theorem children_cases {n c : Node} (hn : n.fault? = none) (hc : c ∈ n.children) :
    c ∈ n.visited ∨ (c.children = [] ∧ c.isUnprintable = false) ∨
      (∃ entries, c = .seq .list entries ∧ ∀ e ∈ entries, e ∈ n.visited) ∨
      n.ignoredBody? = some c := by
  cases n with
  | filter name args =>
    simp only [children, List.mem_cons, List.not_mem_nil, or_false] at hc
    rcases hc with rfl | rfl
    · right; left
      cases c with
      | symbol => exact ⟨rfl, rfl⟩
      | literal => exact ⟨rfl, rfl⟩
      | _ => simp [fault?] at hn
    · exact (args_cases c).imp id fun h => .inr (.inl h)
  | call name args =>
    simp only [children, List.mem_cons, List.not_mem_nil, or_false] at hc
    rcases hc with rfl | rfl
    · exact .inl List.mem_cons_self
    · rcases args_cases c with h | ⟨entries, rfl, h⟩
      · exact .inl (List.mem_cons_of_mem _ h)
      · exact .inr (.inr (.inl ⟨entries, rfl, fun e he => List.mem_cons_of_mem _ (h e he)⟩))
  | pair key value =>
    simp only [children, List.mem_cons, List.not_mem_nil, or_false] at hc
    rcases hc with rfl | rfl
    · right; left
      cases c with
      | symbol => exact ⟨rfl, rfl⟩
      | literal => exact ⟨rfl, rfl⟩
      | _ => simp [fault?] at hn
    · exact .inl List.mem_cons_self
  | inclusion template ignoreMissing =>
    obtain rfl := List.mem_singleton.1 hc
    by_cases h : ∃ path, c = .literal (.string path)
    · obtain ⟨path, rfl⟩ := h
      exact .inr (.inl ⟨rfl, rfl⟩)
    · left
      simp_all [visited]
  | forLoop target items body alternative =>
    cases alternative with
    | none => exact .inl hc
    | some _ => simp [fault?] at hn
  | assignment targets value body =>
    cases value with
    | some value =>
      rcases List.mem_append.1 hc with hc | hc
      · exact .inl hc
      · exact .inr (.inr (.inr (Option.mem_toList.1 hc)))
    | none => exact .inl (by simpa [children, visited] using hc)
  | _ => exact .inl hc

/-- In a template that is printed, whatever has no Twig source stands in an ignored body. -/
theorem exists_ignoredBody_of_isUnprintable {n m : Node} (hn : ∀ k ∈ n.judged, k.fault? = none)
    (hm : m ∈ n.nodes) (hbad : m.isUnprintable = true) :
    ∃ a ∈ n.nodes, ∃ b, a.ignoredBody? = some b ∧ m ∈ b.nodes := by
  induction n using visited_induction with
  | step n ih =>
    have hself : n.fault? = none := hn n (self_mem_judged n)
    have hbelow : ∀ v ∈ n.visited, m ∈ v.nodes →
        ∃ a ∈ v.nodes, ∃ b, a.ignoredBody? = some b ∧ m ∈ b.nodes := fun v hv =>
      ih v hv fun k hk => hn k (mem_judged_iff.2 (.inr ⟨v, hv, hk⟩))
    rcases mem_nodes_iff.1 hm with rfl | ⟨c, hc, hmc⟩
    · exact absurd hself (fault?_ne_none_of_isUnprintable hbad)
    rcases children_cases hself hc with hv | ⟨hleaf, hgood⟩ | ⟨entries, rfl, hv⟩ | hignored
    · obtain ⟨a, ha, b, hb⟩ := hbelow c hv hmc
      exact ⟨a, mem_nodes_of_child hc ha, b, hb⟩
    · obtain rfl : m = c := by simpa [nodes_eq, hleaf] using hmc
      rw [hgood] at hbad
      cases hbad
    · rcases mem_nodes_iff.1 hmc with rfl | ⟨e, he, hme⟩
      · cases hbad
      · obtain ⟨a, ha, b, hb⟩ := hbelow e (hv e he) hme
        exact ⟨a, mem_nodes_of_child hc (mem_nodes_of_child he ha), b, hb⟩
    · exact ⟨n, self_mem_nodes n, c, hignored, hmc⟩

/-- A template that is printed is free of nodes without Twig source exactly when the bodies that are
ignored are, since every such node that it has stands in one of these. -/
theorem printed_is_supported_iff_ignored_bodies_are {o : Options} {root : Node} {source : String}
    (h : (root.toTwig o).result = .ok source) :
    ((∀ m ∈ root.nodes, m.isUnprintable = false) ↔
      ∀ a ∈ root.nodes, ∀ b ∈ a.ignoredBody?, ∀ m ∈ b.nodes, m.isUnprintable = false) ∧
    ∀ m ∈ root.nodes, m.isUnprintable = true →
      ∃ a ∈ root.nodes, ∃ b, a.ignoredBody? = some b ∧ m ∈ b.nodes := by
  have hsound : ∀ m ∈ root.judged, m.fault? = none := by
    rw [← List.findSome?_eq_none_iff, ← errorOf?_toTwig o, h, errorOf?_ok]
  refine ⟨⟨?_, ?_⟩, fun m => exists_ignoredBody_of_isUnprintable hsound⟩
  · intro hall a ha b hb m hm
    exact hall m (nodes_subset ha (mem_nodes_of_child (ignoredBody?_mem_children hb) hm))
  · intro hbodies m hm
    cases hbad : m.isUnprintable with
    | false => rfl
    | true =>
      obtain ⟨a, ha, b, hb, hmb⟩ := exists_ignoredBody_of_isUnprintable hsound hm hbad
      rw [← hbad]
      exact hbodies a ha b hb m hmb

/-- A body of text is ignored without harm. -/
theorem ignored_text_is_supported :
    ((Node.assignment [.symbol "x"] (some (.symbol "y")) (some (.data "text"))).toTwig {}).result =
        .ok "\x7b% set x = y %\x7d" ∧
      ∀ m ∈ (Node.assignment [.symbol "x"] (some (.symbol "y")) (some (.data "text"))).nodes,
        m.isUnprintable = false := by
  have hprinted : ((Node.assignment [.symbol "x"] (some (.symbol "y")) (some (.data "text"))).toTwig
      {}).result = .ok "\x7b% set x = y %\x7d" := rfl
  exact ⟨hprinted, (printed_is_supported_iff_ignored_bodies_are hprinted).1.2 (by decide)⟩

/-- Any other body is lost as silently. -/
theorem ignored_macro_is_lost :
    ((Node.assignment [.symbol "x"] (some (.symbol "y")) (some (.other "Macro"))).toTwig {}).result =
        .ok "\x7b% set x = y %\x7d" ∧
      ∃ m ∈ (Node.assignment [.symbol "x"] (some (.symbol "y")) (some (.other "Macro"))).nodes,
        m.isUnprintable = true :=
  ⟨rfl, by decide⟩

end Node
end TwigPrinter
