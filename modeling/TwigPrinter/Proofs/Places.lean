import Mathlib.Data.List.Forall2
import Mathlib.Data.List.Infix
import TwigPrinter.Proofs.Outlines
import TwigPrinter.Template.Build
/-!
Places in a tree and the lines of an outline. A place is the path that leads to a node from the root,
as numbers of children; what an outline shows before the text of a node depends on nothing but which
of the nodes along that path are last children. The places of a tree are listed in the order of the
document, which is the lexicographic order of the paths, and an outline has a line for each of them.
-/
namespace TwigPrinter

namespace Tree

variable {α : Type}

mutual

/-- The values with the paths to them, in document order. -/
def placed : Tree α → List (List Nat × α)
  | .node value children => ([], value) :: placedFrom 0 children

/-- Children with the numbers from `i` on. -/
def placedFrom (i : Nat) : List (Tree α) → List (List Nat × α)
  | [] => []
  | t :: rest => t.placed.map (fun p => (i :: p.1, p.2)) ++ placedFrom (i + 1) rest

end

theorem placedFrom_eq_flatMap (i : Nat) (ts : List (Tree α)) :
    placedFrom i ts = (ts.zipIdx i).flatMap fun c => c.1.placed.map fun p => (c.2 :: p.1, p.2) := by
  induction ts generalizing i with
  | nil => rfl
  | cons t rest ih => simp [placedFrom, ih]

end Tree

namespace Node

/-- The node that a path leads to. -/
def at? (n : Node) : List Nat → Option Node
  | [] => some n
  | i :: path => n.children[i]?.bind fun c => c.at? path

/-- Whether the node at a path is the last child of its parent; the root is not. -/
def isLastAt (root : Node) (path : List Nat) : Bool :=
  path.getLast?.map (· + 1) == (root.at? path.dropLast).map (·.children.length)

/-- All nodes of a tree with the paths to them, in document order. -/
def placed (n : Node) : List (List Nat × Node) := (n.tree id).placed

/-- What `placed` lists below the node itself. -/
def placedBelow (n : Node) : List (List Nat × Node) :=
  n.children.zipIdx.flatMap fun c => c.1.placed.map fun p => (c.2 :: p.1, p.2)

theorem placed_eq (n : Node) : n.placed = ([], n) :: n.placedBelow := by
  unfold placed placedBelow
  rw [tree_eq, Tree.placed, Tree.placedFrom_eq_flatMap, List.zipIdx_map, List.flatMap_map]
  rfl

theorem mem_placedBelow {n m : Node} {path : List Nat} :
    (path, m) ∈ n.placedBelow ↔
      ∃ i rest c, path = i :: rest ∧ n.children[i]? = some c ∧ (rest, m) ∈ c.placed := by
  simp only [placedBelow, List.mem_flatMap, List.mem_map, Prod.exists, Prod.mk.injEq,
    List.mk_mem_zipIdx_iff_getElem?]
  constructor
  · rintro ⟨c, i, hc, rest, m, hm, rfl, rfl⟩
    exact ⟨i, rest, c, rfl, hc, hm⟩
  · rintro ⟨i, rest, c, rfl, hc, hm⟩
    exact ⟨c, i, hc, rest, m, hm, rfl, rfl⟩

/-- The listing has every node of the tree at the path that leads to it. -/
theorem mem_placed_iff {n m : Node} {path : List Nat} :
    (path, m) ∈ n.placed ↔ n.at? path = some m := by
  induction path generalizing n with
  | nil =>
    rw [placed_eq, List.mem_cons, mem_placedBelow]
    simp [at?, eq_comm]
  | cons i path ih =>
    rw [placed_eq, List.mem_cons, mem_placedBelow]
    simp [at?, Option.bind_eq_some_iff, ih]

/-- Document order is the lexicographic order of paths. -/
theorem pairwise_placed (n : Node) : n.placed.Pairwise fun p q => List.Lex (· < ·) p.1 q.1 := by
  induction n using children_induction with
  | step n ih =>
    have hnumbers : n.children.zipIdx.Pairwise fun c d => c.2 < d.2 := by
      rw [← List.pairwise_map, List.zipIdx_map_snd]
      exact List.pairwise_lt_range'
    rw [placed_eq, List.pairwise_cons]
    constructor
    · rintro ⟨path, m⟩ hm
      obtain ⟨i, rest, c, rfl, -, -⟩ := mem_placedBelow.1 hm
      exact .nil
    · rw [placedBelow, List.pairwise_flatMap]
      constructor
      · rintro ⟨c, i⟩ hc
        rw [List.pairwise_map]
        exact (ih c (List.fst_mem_of_mem_zipIdx hc)).imp .cons
      · refine hnumbers.imp fun hlt p hp q hq => ?_
        obtain ⟨p, -, rfl⟩ := List.mem_map.1 hp
        obtain ⟨q, -, rfl⟩ := List.mem_map.1 hq
        exact .rel hlt

theorem snd_placed (n : Node) : n.placed.map Prod.snd = n.nodes := by
  induction n using children_induction with
  | step n ih =>
    have hbelow : n.placedBelow.map Prod.snd = n.children.flatMap nodes := by
      calc n.placedBelow.map Prod.snd
        _ = n.children.zipIdx.flatMap fun c => c.1.nodes := by
          rw [placedBelow, List.map_flatMap]
          refine List.flatMap_congr fun c hc => ?_
          rw [← ih c.1 (List.fst_mem_of_mem_zipIdx hc), List.map_map]
          rfl
        _ = (n.children.zipIdx.map Prod.fst).flatMap nodes := by rw [List.flatMap_map]
        _ = n.children.flatMap nodes := by rw [List.zipIdx_map_fst]
    rw [placed_eq, nodes_eq, List.map_cons, hbelow]

theorem isLastAt_singleton (n : Node) (i : Nat) :
    n.isLastAt [i] = (i + 1 == n.children.length) := by
  simp [isLastAt, at?]

theorem isLastAt_cons {n c : Node} {i : Nat} (hc : n.children[i]? = some c) (j : Nat)
    (path : List Nat) : n.isLastAt (i :: j :: path) = c.isLastAt (j :: path) := by
  simp [isLastAt, at?, hc]

end Node

namespace Outline

/-- The paths to the ancestors of the node at a path, without the root and outermost first. -/
def ancestors (path : List Nat) : List (List Nat) := path.dropLast.inits.tail

theorem ancestors_cons_cons (i j : Nat) (path : List Nat) :
    ancestors (i :: j :: path) = [i] :: (ancestors (j :: path)).map (i :: ·) := by
  have hinits : ∀ l : List Nat, l.inits = [] :: l.inits.tail := by
    intro l
    cases l <;> simp
  rw [ancestors, List.dropLast_cons_cons, List.inits_cons, List.tail_cons, hinits, List.map_cons]
  rfl

theorem exists_cons_of_mem_ancestors {path p : List Nat} (h : p ∈ ancestors path) :
    ∃ j rest, p = j :: rest := by
  unfold ancestors at h
  cases hparent : path.dropLast with
  | nil => simp [hparent] at h
  | cons j parent =>
    rw [hparent, List.inits_cons, List.tail_cons] at h
    obtain ⟨rest, -, rfl⟩ := List.mem_map.1 h
    exact ⟨j, rest, rfl⟩

/-- What stands before the text of the node at a path: three characters for each ancestor below the
root, and three for the node. -/
def marks (root : Node) (path : List Nat) : String :=
  if path = [] then ""
  else String.join ((ancestors path).map fun p => if root.isLastAt p then "   " else "│  ") ++
    if root.isLastAt path then "└─ " else "├─ "

theorem marks_eq_margins {root : Node} {path : List Nat} (h : path ≠ []) :
    marks root path = String.join ((ancestors path).map fun p => margin (root.isLastAt p)) ++
      connector (root.isLastAt path) :=
  if_neg h

@[simp] theorem marks_nil (root : Node) : marks root [] = "" := rfl

theorem marks_singleton (root : Node) (i : Nat) : marks root [i] = connector (root.isLastAt [i]) := by
  simp [marks_eq_margins, ancestors]

/-- Below a child of the root the marks are its margin and the marks within its tree. -/
theorem marks_cons_cons {root c : Node} {i : Nat} (hc : root.children[i]? = some c) (j : Nat)
    (path : List Nat) :
    marks root (i :: j :: path) = margin (root.isLastAt [i]) ++ marks c (j :: path) := by
  have hmargins : (ancestors (j :: path)).map (fun p => margin (root.isLastAt (i :: p))) =
      (ancestors (j :: path)).map fun p => margin (c.isLastAt p) := by
    refine List.map_congr_left fun p hp => ?_
    obtain ⟨k, rest, rfl⟩ := exists_cons_of_mem_ancestors hp
    rw [Node.isLastAt_cons hc]
  simp [marks_eq_margins, ancestors_cons_cons, Node.isLastAt_cons hc, Function.comp_def, hmargins,
    String.join_cons, String.append_assoc]

theorem length_marks (root : Node) (path : List Nat) :
    (marks root path).toList.length = 3 * path.length := by
  have hmargin : ∀ last, (margin last).toList.length = 3 := by decide
  have hconnector : ∀ last, (connector last).toList.length = 3 := by decide
  cases path with
  | nil => rfl
  | cons i path =>
    have hancestors : (ancestors (i :: path)).length = path.length := by simp [ancestors]
    have hmargins : (String.join
        ((ancestors (i :: path)).map fun p => margin (root.isLastAt p))).toList.length =
          3 * path.length := by
      simp [String.toList_join, List.length_flatMap, Function.comp_def, hmargin, hancestors,
        Nat.mul_comm]
    rw [marks_eq_margins (List.cons_ne_nil i path), String.toList_append, List.length_append,
      hmargins, hconnector, List.length_cons, Nat.mul_add]

theorem rows_eq_flatMap_from (i : Nat) (ts : List (Tree String)) :
    rows ts = (ts.zipIdx i).flatMap fun c => itemRows (c.2 + 1 == i + ts.length) c.1 := by
  induction ts generalizing i with
  | nil => rfl
  | cons t rest ih =>
    have hlast : rest.isEmpty = (i + 1 == i + (t :: rest).length) := by
      cases rest <;> simp
    have hlength : i + 1 + rest.length = i + (t :: rest).length := by
      rw [List.length_cons]
      omega
    rw [rows, ih (i + 1), List.zipIdx_cons, List.flatMap_cons, hlast, hlength]

/-- The row of the node `p.2` at the path `p.1`. -/
def row (root : Node) (p : List Nat × Node) : String := marks root p.1 ++ line p.2

-- Seen from the root, the rows of a child's tree are behind its connector or its margin.
theorem itemRows_tree {root c : Node} {i : Nat} (hc : root.children[i]? = some c)
    (hrows : (line c).toList :: rows (c.children.map (Node.tree line)) =
      c.placed.map fun p => (row c p).toList) :
    itemRows (i + 1 == root.children.length) (c.tree line) =
      c.placed.map fun p => (row root (i :: p.1, p.2)).toList := by
  rw [Node.placed_eq, List.map_cons] at hrows
  obtain ⟨-, hbelow⟩ := List.cons.inj hrows
  have hself : (row root ([i], c)).toList =
      (connector (root.isLastAt [i])).toList ++ (line c).toList := by
    simp [row, marks_singleton]
  have hrest : ∀ p ∈ c.placedBelow, (row root (i :: p.1, p.2)).toList =
      (margin (root.isLastAt [i])).toList ++ (row c p).toList := by
    rintro ⟨path, m⟩ hp
    obtain ⟨j, rest, _, rfl, -, -⟩ := Node.mem_placedBelow.1 hp
    simp [row, marks_cons_cons hc]
  rw [Node.tree_eq, itemRows, hbelow, Node.placed_eq, List.map_cons, hself,
    List.map_congr_left hrest, Node.isLastAt_singleton, List.map_map]
  rfl

/-- The rows of an outline are those of the places, in their order. -/
theorem rows_eq_map_placed (n : Node) :
    (line n).toList :: rows (n.children.map (Node.tree line)) =
      n.placed.map fun p => (row n p).toList := by
  induction n using Node.children_induction with
  | step n ih =>
    have hbelow : rows (n.children.map (Node.tree line)) =
        n.placedBelow.map fun p => (row n p).toList := by
      rw [rows_eq_flatMap_from 0, List.zipIdx_map, List.flatMap_map, Node.placedBelow,
        List.map_flatMap]
      refine List.flatMap_congr fun c hc => ?_
      have hchild := ih c.1 (List.fst_mem_of_mem_zipIdx hc)
      have hitem := itemRows_tree (List.mem_zipIdx_iff_getElem?.1 hc) hchild
      simpa [Function.comp_def] using hitem
    rw [Node.placed_eq, List.map_cons, hbelow]
    simp [row]

theorem toList_outline (root : Node) :
    root.outline.toList = lines [] (root.placed.map fun p => (row root p).toList) := by
  rw [Node.outline, Node.tree_eq, toList_draw, rows_eq_map_placed]

theorem newline_not_mem_row {root : Node} (h : ∀ m ∈ root.nodes, '\n' ∉ (line m).toList) :
    ∀ r ∈ root.placed.map (fun p => (row root p).toList), '\n' ∉ r := by
  rw [← rows_eq_map_placed]
  refine newline_not_mem_rows fun s hs => ?_
  rw [← Node.tree_eq, Node.preorder_tree] at hs
  obtain ⟨m, hm, rfl⟩ := List.mem_map.1 hs
  exact h m hm

end Outline

/-- An outline has a line for each place of the tree, in document order: the marks of the place and
the text of the node there. When no text holds a newline these are all the lines, and the text of a
node at depth `d` stands behind `3 * d` characters. -/
theorem Node.outline_follows_paths (root : Node) :
    (root.placed.Pairwise fun p q => List.Lex (· < ·) p.1 q.1) ∧
      (∀ path m, (path, m) ∈ root.placed ↔ root.at? path = some m) ∧
      root.placed.map Prod.snd = root.nodes ∧
      root.outline =
        String.join (root.placed.map fun p => Outline.marks root p.1 ++ Outline.line p.2 ++ "\n") ∧
      ((∀ m ∈ root.nodes, '\n' ∉ (Outline.line m).toList) →
        ∃ lines : List (List Char), root.outline.toList.splitOn '\n' = lines ++ [[]] ∧
          lines.length = root.nodes.length ∧
          List.Forall₂ (fun p l =>
            l = (Outline.marks root p.1).toList ++ (Outline.line p.2).toList ∧
              (Outline.marks root p.1).toList.length = 3 * p.1.length) root.placed lines) := by
  refine ⟨pairwise_placed root, fun _ _ => mem_placed_iff, snd_placed root, ?_, fun h => ?_⟩
  · rw [← String.toList_inj, Outline.toList_outline]
    simp [Outline.lines, Outline.row, List.flatMap_map]
  · refine ⟨root.placed.map fun p => (Outline.row root p).toList, ?_, ?_, ?_⟩
    · rw [Outline.toList_outline, Outline.splitOn_lines (Outline.newline_not_mem_row h)]
    · rw [← snd_placed, List.length_map, List.length_map]
    · rw [List.forall₂_map_right_iff, List.forall₂_same]
      exact fun p _ => ⟨String.toList_append, Outline.length_marks root p.1⟩

def Node.greeting : Node :=
  .seq .root [.text "hi\n", .seq .output [.attr (.symbol "└─ person") "name"]]

/-- A newline in the text of a template is shown and does not start a line. -/
theorem Node.outline_of_greeting :
    (∀ m ∈ greeting.nodes, '\n' ∉ (Outline.line m).toList) ∧
      Outline.marks greeting [0, 0] = "│  └─ " ∧
      Outline.marks greeting [1, 0, 0] = "      ├─ " ∧
      ∃ lines, greeting.outline.toList.splitOn '\n' = lines ++ [[]] ∧ lines.length = 7 := by
  have hnames : greeting.HasNoNewlines := by decide
  have hclean : ∀ m ∈ greeting.nodes, '\n' ∉ (Outline.line m).toList :=
    fun m hm => Outline.newline_not_mem_line (hnames m hm)
  obtain ⟨lines, hlines, hlength, -⟩ := (outline_follows_paths greeting).2.2.2.2 hclean
  exact ⟨hclean, by decide +kernel, by decide +kernel, lines, hlines, hlength⟩

end TwigPrinter
