import Mathlib.Data.List.Basic
import TwigPrinter.Format.Outline
import TwigPrinter.Proofs.Nodes
import TwigPrinter.Proofs.ScalarText
import TwigPrinter.Proofs.Splitting
/-!
An outline shows the tree it is drawn from. Its lines can be told apart as long as no text of a node
holds a newline, whatever else the texts hold. Of a line below the root the first three characters
say whether it starts a node of this level, and whether that is the last one, or belongs to what is
below such a node; so the tree can be read back from the rows of its outline.
-/
namespace TwigPrinter

theorem Tree.sizeOf_lt_of_mem {α : Type} {a : α} {t : Tree α} {ts : List (Tree α)} (h : t ∈ ts) :
    sizeOf t < sizeOf (Tree.node a ts) := by
  have hlist := List.sizeOf_lt_of_mem h
  simp only [Tree.node.sizeOf_spec]
  omega

/-- Induction along the children. -/
theorem Tree.children_induction {α : Type} {P : Tree α → Prop}
    (step : ∀ a ts, (∀ t ∈ ts, P t) → P (.node a ts)) (t : Tree α) : P t := by
  obtain ⟨a, ts⟩ := t
  exact step a ts fun u hu => children_induction step u
termination_by sizeOf t
decreasing_by exact Tree.sizeOf_lt_of_mem hu

namespace Outline

mutual

/-- The lines of a node below the root and of what is below it, without what stands before all of
them. -/
def itemRows (last : Bool) : Tree String → List (List Char)
  | .node text children =>
    ((connector last).toList ++ text.toList) ::
      (rows children).map ((margin last).toList ++ ·)

def rows : List (Tree String) → List (List Char)
  | [] => []
  | t :: rest => itemRows rest.isEmpty t ++ rows rest

end

/-- Rows as lines behind an indentation. -/
def lines (indent : List Char) (rows : List (List Char)) : List Char :=
  rows.flatMap fun row => indent ++ row ++ ['\n']

theorem lines_append (indent : List Char) (rs ss : List (List Char)) :
    lines indent (rs ++ ss) = lines indent rs ++ lines indent ss :=
  List.flatMap_append

theorem toList_drawItems_of {ts : List (Tree String)}
    (h : ∀ t ∈ ts, ∀ (indent : String) (last : Bool),
      (drawItem indent last t).toList = lines indent.toList (itemRows last t)) (indent : String) :
    (drawItems indent ts).toList = lines indent.toList (rows ts) := by
  induction ts with
  | nil => rfl
  | cons t rest ih =>
    have ht := h t List.mem_cons_self indent rest.isEmpty
    have hrest := ih fun u hu => h u (List.mem_cons_of_mem t hu)
    simp [drawItems, rows, lines_append, ht, hrest]

theorem toList_drawItem (t : Tree String) (indent : String) (last : Bool) :
    (drawItem indent last t).toList = lines indent.toList (itemRows last t) := by
  induction t using Tree.children_induction generalizing indent last with
  | step text ts ih =>
    have hbelow := toList_drawItems_of ih (indent ++ margin last)
    rw [drawItem, itemRows]
    simp [lines, hbelow, List.flatMap_map]

/-- An outline is the text of its root and its rows, one a line. -/
theorem toList_draw (text : String) (ts : List (Tree String)) :
    (draw (.node text ts)).toList = lines [] (text.toList :: rows ts) := by
  have hitems : (drawItems "" ts).toList = lines [] (rows ts) :=
    toList_drawItems_of (fun t _ => toList_drawItem t) ""
  simp [draw, hitems, lines]

/-- Rows without newlines can be read back from their lines. -/
theorem splitOn_lines {rs : List (List Char)} (h : ∀ r ∈ rs, '\n' ∉ r) :
    (lines [] rs).splitOn '\n' = rs ++ [[]] := by
  induction rs with
  | nil => rfl
  | cons r rs ih =>
    obtain ⟨hr, hrs⟩ := List.forall_mem_cons.1 h
    have hrow : ∀ c ∈ r, (c == '\n') = false := by
      intro c hc
      simp only [beq_eq_false_iff_ne]
      rintro rfl
      exact hr hc
    have hlines : lines [] (r :: rs) = r ++ '\n' :: lines [] rs := by simp [lines]
    rw [hlines, List.splitOn, List.splitOnP_append_cons_of_forall_mem hrow '\n' (by decide),
      ← List.splitOn, ih hrs, List.cons_append]

theorem lines_inj {rs ss : List (List Char)} (hrs : ∀ r ∈ rs, '\n' ∉ r) (hss : ∀ s ∈ ss, '\n' ∉ s)
    (h : lines [] rs = lines [] ss) : rs = ss := by
  have hsplit : rs ++ [[]] = ss ++ [[]] := by rw [← splitOn_lines hrs, ← splitOn_lines hss, h]
  exact List.append_cancel_right hsplit

theorem connector_append_inj {l k : Bool} {a b : List Char}
    (h : (connector l).toList ++ a = (connector k).toList ++ b) : l = k ∧ a = b := by
  cases l <;> cases k <;> simp [connector] at h ⊢ <;> exact h

/-- The rows below a node start with a margin. -/
def isBelow (row : List Char) : Bool := row.head? == some ' ' || row.head? == some '│'

theorem isBelow_margin (last : Bool) (row : List Char) :
    isBelow ((margin last).toList ++ row) = true := by
  cases last <;> simp [margin, isBelow]

theorem breaksOff_rows (ts : List (Tree String)) : BreaksOff isBelow (rows ts) := by
  cases ts with
  | nil => exact breaksOff_nil _
  | cons t rest =>
    obtain ⟨text, children⟩ := t
    cases h : rest.isEmpty <;> simp [rows, itemRows, connector, h, isBelow]

theorem rows_inj_of {ts us : List (Tree String)}
    (ih : ∀ t ∈ ts, ∀ vs, rows t.children = rows vs → t.children = vs) (h : rows ts = rows us) :
    ts = us := by
  induction ts generalizing us with
  | nil =>
    cases us with
    | nil => rfl
    | cons u us =>
      obtain ⟨text, children⟩ := u
      simp [rows, itemRows] at h
  | cons t ts ihts =>
    obtain ⟨a, cs⟩ := t
    cases us with
    | nil => simp [rows, itemRows] at h
    | cons u us =>
      obtain ⟨b, ds⟩ := u
      simp only [rows, itemRows, List.cons_append, List.cons.injEq] at h
      obtain ⟨hhead, hrest⟩ := h
      obtain ⟨hlast, htext⟩ := connector_append_inj hhead
      rw [hlast] at hrest
      have hbelow : ∀ vs : List (Tree String),
          ∀ row ∈ (rows vs).map ((margin us.isEmpty).toList ++ ·), isBelow row = true := by
        intro vs row hrow
        obtain ⟨row, -, rfl⟩ := List.mem_map.1 hrow
        exact isBelow_margin _ _
      obtain ⟨hchildren, hsiblings⟩ := append_inj_of_breaksOff (hbelow cs) (hbelow ds)
        (breaksOff_rows ts) (breaksOff_rows us) hrest
      have hrows : rows cs = rows ds := by
        rwa [List.map_inj_right fun _ _ => List.append_cancel_left] at hchildren
      have hbelowEq : cs = ds := ih (.node a cs) List.mem_cons_self ds hrows
      have hsiblingsEq : ts = us :=
        ihts (fun v hv => ih v (List.mem_cons_of_mem _ hv)) hsiblings
      rw [hbelowEq, hsiblingsEq, String.toList_inj.1 htext]

theorem rows_inj {ts us : List (Tree String)} (h : rows ts = rows us) : ts = us := by
  have hchildren : ∀ t : Tree String, ∀ vs, rows t.children = rows vs → t.children = vs := by
    intro t
    induction t using Tree.children_induction with
    | step a cs ih => exact fun vs hvs => rows_inj_of ih hvs
  exact rows_inj_of (fun t _ => hchildren t) h

theorem exists_mem_itemRows {ts : List (Tree String)} {row : List Char} (h : row ∈ rows ts) :
    ∃ t ∈ ts, ∃ last, row ∈ itemRows last t := by
  induction ts with
  | nil => simp [rows] at h
  | cons t ts ih =>
    rw [rows, List.mem_append] at h
    rcases h with h | h
    · exact ⟨t, List.mem_cons_self, _, h⟩
    · obtain ⟨u, hu, hrow⟩ := ih h
      exact ⟨u, List.mem_cons_of_mem t hu, hrow⟩

theorem newline_not_mem_itemRows {t : Tree String} (h : ∀ s ∈ t.preorder, '\n' ∉ s.toList)
    {last : Bool} {row : List Char} (hrow : row ∈ itemRows last t) : '\n' ∉ row := by
  induction t using Tree.children_induction generalizing last row with
  | step text ts ih =>
    simp only [Tree.preorder, Tree.preorderAll_eq_flatMap, List.forall_mem_cons,
      List.mem_flatMap] at h
    have hmarks : '\n' ∉ (connector last).toList ∧ '\n' ∉ (margin last).toList := by
      cases last <;> simp [connector, margin]
    rw [itemRows, List.mem_cons, List.mem_map] at hrow
    rcases hrow with rfl | ⟨below, hbelow, rfl⟩
    · simp [hmarks, h.1]
    · obtain ⟨t, ht, _, hmem⟩ := exists_mem_itemRows hbelow
      have hclean := ih t ht (fun s hs => h.2 s ⟨t, ht, hs⟩) hmem
      simp [hmarks, hclean]

theorem newline_not_mem_rows {text : String} {ts : List (Tree String)}
    (h : ∀ s ∈ (Tree.node text ts).preorder, '\n' ∉ s.toList) :
    ∀ row ∈ text.toList :: rows ts, '\n' ∉ row := by
  intro row hrow
  simp only [Tree.preorder, Tree.preorderAll_eq_flatMap, List.forall_mem_cons,
    List.mem_flatMap] at h
  rcases List.mem_cons.1 hrow with rfl | hrow
  · exact h.1
  · obtain ⟨t, ht, _, hmem⟩ := exists_mem_itemRows hrow
    exact newline_not_mem_itemRows (fun s hs => h.2 s ⟨t, ht, hs⟩) hmem

/-- A drawing of texts without newlines determines the tree of texts. -/
theorem draw_inj {t u : Tree String} (ht : ∀ s ∈ t.preorder, '\n' ∉ s.toList)
    (hu : ∀ s ∈ u.preorder, '\n' ∉ s.toList) (h : draw t = draw u) : t = u := by
  obtain ⟨a, ts⟩ := t
  obtain ⟨b, us⟩ := u
  have hlines : lines [] (a.toList :: rows ts) = lines [] (b.toList :: rows us) := by
    rw [← toList_draw, ← toList_draw, h]
  obtain ⟨htext, hrows⟩ :=
    List.cons.inj (lines_inj (newline_not_mem_rows ht) (newline_not_mem_rows hu) hlines)
  rw [String.toList_inj.1 htext, rows_inj hrows]

end Outline

namespace Node

theorem preorder_tree {α : Type} (f : Node → α) (n : Node) :
    (n.tree f).preorder = n.nodes.map f := by
  induction n using children_induction with
  | step n ih =>
    rw [tree_eq, Tree.preorder, Tree.preorderAll_eq_flatMap, List.flatMap_map, nodes_eq,
      List.map_cons, List.map_flatMap]
    congr 1
    exact List.flatMap_congr ih

/-- The texts of a node that its line in an outline shows as they are. -/
def rawTexts : Node → List String
  | .symbol s | .comparand _ s | .other s => [s]
  | _ => []

/-- No text that is shown as it is holds a newline. -/
def HasNoNewlines (n : Node) : Prop := ∀ m ∈ n.nodes, ∀ s ∈ m.rawTexts, '\n' ∉ s.toList

instance (n : Node) : Decidable n.HasNoNewlines :=
  inferInstanceAs (Decidable (∀ m ∈ n.nodes, ∀ s ∈ m.rawTexts, '\n' ∉ s.toList))

end Node

theorem isBareChar_digit16 {n : Nat} {c : Char} (h : c ∈ Nat.toDigits 16 n) :
    isBareChar c = true := by
  have hdigit : ∀ d < 16, isBareChar d.digitChar = true := by decide
  induction n using Nat.strongRecOn with
  | ind n ih =>
    rw [Nat.toDigits_eq_if (by decide)] at h
    split at h
    · obtain rfl := List.mem_singleton.1 h
      exact hdigit n ‹_›
    · rcases List.mem_append.1 h with h | h
      · exact ih _ (Nat.div_lt_self (by omega) (by decide)) h
      · obtain rfl := List.mem_singleton.1 h
        exact hdigit _ (Nat.mod_lt n (by decide))

theorem IsBare.newline_not_mem {cs : List Char} (h : IsBare cs) : '\n' ∉ cs :=
  fun hmem => absurd (h _ hmem) (by decide)

theorem newline_not_mem_visible (s : String) : '\n' ∉ (Text.visible s).toList := by
  have hchar : ∀ c, '\n' ∉ Text.visibleChar c := by
    intro c
    have hdigits : '\n' ∉ Nat.toDigits 16 c.toNat :=
      IsBare.newline_not_mem fun _ => isBareChar_digit16
    by_cases hc : c = '\n'
    · subst hc
      decide
    · unfold Text.visibleChar
      repeat' split
      all_goals simp [Text.codePoint, hdigits, Ne.symm hc]
  simp [Text.visible, hchar]

theorem newline_not_mem_shown (v : Scalar) : '\n' ∉ v.shown.toList := by
  cases v with
  | string s => exact newline_not_mem_visible s
  | _ => exact (Scalar.isBare_text (by simp)).newline_not_mem

namespace Outline

theorem newline_not_mem_cut {label : String} (h : '\n' ∉ label.toList) :
    '\n' ∉ (cut label).toList := by
  unfold cut
  split
  · exact h
  · have htake : '\n' ∉ label.toList.take labelLimit := fun hmem => h (List.mem_of_mem_take hmem)
    simp [htake]

theorem newline_not_mem_name {k : Kind} (h : ∀ name, k = .other name → '\n' ∉ name.toList) :
    '\n' ∉ k.name.toList := by
  cases k with
  | other name => exact h name rfl
  | seq form => cases form <;> decide
  | binary op => cases op <;> decide
  | _ => decide

theorem newline_not_mem_label {n : Node} (h : ∀ s ∈ n.rawTexts, '\n' ∉ s.toList) {label : String}
    (hlabel : n.label? = some label) : '\n' ∉ label.toList := by
  cases n with
  | data text =>
    obtain rfl : Text.visible text = label := by simpa [Node.label?] using hlabel
    exact newline_not_mem_visible text
  | literal value =>
    obtain rfl : value.shown = label := by simpa [Node.label?] using hlabel
    exact newline_not_mem_shown value
  | symbol name => exact h label (by simpa [Node.label?, Node.rawTexts] using hlabel.symm)
  | comparand operand op => exact h label (by simpa [Node.label?, Node.rawTexts] using hlabel.symm)
  | inclusion template ignoreMissing =>
    cases ignoreMissing with
    | false => simp [Node.label?] at hlabel
    | true =>
      obtain rfl : "ignore missing" = label := by simpa [Node.label?] using hlabel
      decide
  | _ => simp [Node.label?] at hlabel

theorem newline_not_mem_line {n : Node} (h : ∀ s ∈ n.rawTexts, '\n' ∉ s.toList) :
    '\n' ∉ (line n).toList := by
  have hkind : '\n' ∉ n.kind.name.toList := by
    refine newline_not_mem_name fun name hname => h name ?_
    cases n <;> simp_all [Node.kind, Node.rawTexts]
  unfold line
  cases hl : n.label? with
  | none => exact hkind
  | some label =>
    have hcut := newline_not_mem_cut (newline_not_mem_label h hl)
    simp [hkind, hcut]

end Outline

/-- Templates whose names hold no newlines have the same outline exactly when they have the same tree
of lines. -/
theorem Node.outline_eq_iff_same_lines {a b : Node} (ha : a.HasNoNewlines) (hb : b.HasNoNewlines) :
    a.outline = b.outline ↔ a.tree Outline.line = b.tree Outline.line := by
  have hlines : ∀ {n : Node}, n.HasNoNewlines →
      ∀ s ∈ (n.tree Outline.line).preorder, '\n' ∉ s.toList := by
    intro n hn s hs
    rw [preorder_tree] at hs
    obtain ⟨m, hm, rfl⟩ := List.mem_map.1 hs
    exact Outline.newline_not_mem_line (hn m hm)
  constructor
  · exact Outline.draw_inj (hlines ha) (hlines hb)
  · intro h
    rw [outline, outline, h]

/-- A node that is called like a line of a drawing is not taken for that line. -/
theorem Node.outline_of_drawn_name :
    (Node.seq .list [.other "x", .seq .group [.other "y"]]).HasNoNewlines ∧
      (Node.seq .list [.other "x", .seq .group [], .other "   └─ y"]).HasNoNewlines ∧
      (Node.seq .list [.other "x", .seq .group [.other "y"]]).outline ≠
        (Node.seq .list [.other "x", .seq .group [], .other "   └─ y"]).outline := by
  have ha : (Node.seq .list [.other "x", .seq .group [.other "y"]]).HasNoNewlines := by decide
  have hb : (Node.seq .list [.other "x", .seq .group [], .other "   └─ y"]).HasNoNewlines := by
    decide
  refine ⟨ha, hb, fun h => ?_⟩
  have htrees := (Node.outline_eq_iff_same_lines ha hb).1 h
  exact absurd (congrArg (fun t => t.children.length) htrees) (by decide)

end TwigPrinter
