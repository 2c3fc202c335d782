import TwigPrinter.Template.Node
/-!
Walks over a tree of nodes. `Node.nodes` lists all of it, along the children of each node.
`Node.visited` gives the nodes that printing goes on to, which are not all of the children and of
argument lists are the grandchildren; most inductions about printing go along it.
-/
namespace TwigPrinter

theorem Tree.preorderAll_eq_flatMap {α : Type} (ts : List (Tree α)) :
    Tree.preorderAll ts = ts.flatMap Tree.preorder := by
  induction ts with
  | nil => rfl
  | cons t rest ih => simp [Tree.preorderAll, ih]

namespace Node

/-- The node and all nodes below it, in document order. -/
def nodes (n : Node) : List Node := (n.tree id).preorder

theorem nodes_eq (n : Node) : n.nodes = n :: n.children.flatMap nodes := by
  unfold nodes
  rw [tree_eq, Tree.preorder, Tree.preorderAll_eq_flatMap, List.flatMap_map]
  rfl

theorem self_mem_nodes (n : Node) : n ∈ n.nodes := by
  rw [nodes_eq]
  exact List.mem_cons_self

theorem mem_nodes_iff {m n : Node} : m ∈ n.nodes ↔ m = n ∨ ∃ c ∈ n.children, m ∈ c.nodes := by
  rw [nodes_eq, List.mem_cons, List.mem_flatMap]

theorem mem_nodes_of_child {m c n : Node} (hc : c ∈ n.children) (hm : m ∈ c.nodes) : m ∈ n.nodes :=
  mem_nodes_iff.2 (.inr ⟨c, hc, hm⟩)

theorem sizeOf_lt_of_mem_children {m n : Node} (h : m ∈ n.children) : sizeOf m < sizeOf n := by
  have hlist : ∀ ns : List Node, m ∈ ns → sizeOf m < sizeOf ns := fun _ => List.sizeOf_lt_of_mem
  have hoption : ∀ n : Option Node, n = some m → sizeOf m < sizeOf n := by
    rintro _ rfl
    simp
  cases n with
  | data | symbol | literal | other => simp [children] at h
  | seq form ns =>
    have hm := hlist ns h
    simp only [seq.sizeOf_spec]
    omega
  | lookup | binary | negation | comparand | filter | call | inclusion | capture | pair =>
    simp only [children, List.mem_cons, List.not_mem_nil, or_false] at h
    rcases h with rfl | rfl <;> simp <;> omega
  | comparison first rest =>
    rcases List.mem_cons.1 h with rfl | h
    · simp; omega
    · have hm := hlist rest h
      simp only [comparison.sizeOf_spec]
      omega
  | ifBlock test body alternative | inlineIf test body alternative =>
    simp only [children, List.mem_append, List.mem_cons, List.not_mem_nil, or_false,
      Option.mem_toList] at h
    rcases h with (rfl | rfl) | h
    · simp; omega
    · simp; omega
    · have hm := hoption alternative h
      simp
      omega
  | forLoop target items body alternative =>
    simp only [children, List.mem_append, List.mem_cons, List.not_mem_nil, or_false,
      Option.mem_toList] at h
    rcases h with (rfl | rfl | rfl) | h
    · simp; omega
    · simp; omega
    · simp; omega
    · have hm := hoption alternative h
      simp
      omega
  | assignment targets value body =>
    simp only [children, List.mem_append, Option.mem_toList] at h
    simp only [assignment.sizeOf_spec]
    rcases h with (h | h) | h
    · have hm := hlist targets h
      omega
    · have hm := hoption value h
      omega
    · have hm := hoption body h
      omega

/-- Induction along the children. -/
theorem children_induction {P : Node → Prop} (step : ∀ n, (∀ m ∈ n.children, P m) → P n) (n : Node) :
    P n :=
  step n fun m _ => children_induction step m
termination_by sizeOf n
decreasing_by exact sizeOf_lt_of_mem_children ‹_›

theorem nodes_subset {m n : Node} (h : m ∈ n.nodes) : m.nodes ⊆ n.nodes := by
  induction n using children_induction with
  | step n ih =>
    rcases mem_nodes_iff.1 h with rfl | ⟨c, hc, hmc⟩
    · exact fun k hk => hk
    · exact fun k hk => mem_nodes_of_child hc (ih c hc hmc hk)

/-- The entries of an argument list; any other node is the only argument. -/
def operands : Node → List Node
  | .seq .list entries => entries
  | single => [single]

theorem operands_eq_singleton {n : Node} (h : ∀ entries, n = .seq .list entries → False) :
    n.operands = [n] := by
  unfold operands
  split
  · exact (h _ rfl).elim
  · rfl

/-- The nodes below a node that printing it goes on to, in order. -/
def visited : Node → List Node
  | .seq _ children => children
  | .data _ | .symbol _ | .literal _ | .other _ => []
  | .lookup a b | .binary _ a b => [a, b]
  | .negation a | .comparand a _ | .capture a | .pair _ a => [a]
  | .comparison first rest => first :: rest
  | .ifBlock test body alternative | .inlineIf test body alternative =>
    test :: body :: alternative.toList
  | .forLoop target items body _ => [target, items, body]
  | .filter _ args => args.operands
  | .call name args => name :: args.operands
  | .inclusion (.literal (.string _)) _ => []
  | .inclusion template _ => [template]
  | .assignment targets (some value) _ => targets ++ [value]
  | .assignment targets none body => targets ++ body.toList

/-- What is visited is a child, or an entry of an argument list. -/
theorem mem_visited_cases {m n : Node} (h : m ∈ n.visited) :
    m ∈ n.children ∨ ∃ c ∈ n.children, m ∈ c.children := by
  have hargs : ∀ args : Node, m ∈ args.operands → m = args ∨ m ∈ args.children := by
    intro args hm
    by_cases hlist : ∃ entries, args = .seq .list entries
    · obtain ⟨entries, rfl⟩ := hlist
      exact .inr hm
    · rw [operands_eq_singleton (by simpa using hlist)] at hm
      exact .inl (List.mem_singleton.1 hm)
  cases n with
  | filter name args =>
    rcases hargs args h with rfl | hm
    · simp [children]
    · exact .inr ⟨args, by simp [children], hm⟩
  | call name args =>
    rcases List.mem_cons.1 h with rfl | hm
    · simp [children]
    · rcases hargs args hm with rfl | hm
      · simp [children]
      · exact .inr ⟨args, by simp [children], hm⟩
  | pair key value => exact .inl (List.mem_cons_of_mem key h)
  | inclusion template ignoreMissing =>
    left
    unfold visited at h
    split at h <;> simp_all [children]
  | forLoop target items body alternative => exact .inl (List.mem_append_left _ h)
  | assignment targets value body =>
    left
    cases value with
    | some value => exact List.mem_append_left _ h
    | none => simpa [visited, children] using h
  | _ => exact .inl h

theorem mem_nodes_of_mem_visited {m n : Node} (h : m ∈ n.visited) : m ∈ n.nodes := by
  rcases mem_visited_cases h with hm | ⟨c, hc, hm⟩
  · exact mem_nodes_of_child hm (self_mem_nodes m)
  · exact mem_nodes_of_child hc (mem_nodes_of_child hm (self_mem_nodes m))

theorem sizeOf_lt_of_mem_visited {m n : Node} (h : m ∈ n.visited) : sizeOf m < sizeOf n := by
  rcases mem_visited_cases h with hm | ⟨c, hc, hm⟩
  · exact sizeOf_lt_of_mem_children hm
  · exact Nat.lt_trans (sizeOf_lt_of_mem_children hm) (sizeOf_lt_of_mem_children hc)

/-- Induction along what printing goes on to. -/
theorem visited_induction {P : Node → Prop} (step : ∀ n, (∀ m ∈ n.visited, P m) → P n) (n : Node) :
    P n :=
  step n fun m _ => visited_induction step m
termination_by sizeOf n
decreasing_by exact sizeOf_lt_of_mem_visited ‹_›

end Node
end TwigPrinter
