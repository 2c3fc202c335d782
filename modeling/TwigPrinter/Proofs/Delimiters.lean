import TwigPrinter.Proofs.Expressions
import TwigPrinter.Proofs.TagText
/-!
Where tags stand in Twig source. A template is printed as a row of pieces: its own text as it stands,
and tags, none of which holds a mark of another one. `Node.pieces` gives the row for a template, with
one tag for each expression of an output and one for each statement and its end.
-/
namespace TwigPrinter

/-- Templates: text, outputs of text and expressions, and statements around templates. -/
inductive IsTemplate : Node → Prop where
  | data (text : String) : IsTemplate (.data text)
  | output {children : List Node} : (∀ n ∈ children, (∃ text, n = .data text) ∨ IsExpression n) →
      IsTemplate (.seq .output children)
  | root {children : List Node} : (∀ n ∈ children, IsTemplate n) → IsTemplate (.seq .root children)
  | list {children : List Node} : (∀ n ∈ children, IsTemplate n) → IsTemplate (.seq .list children)
  | ifBlock {test body : Node} {alternative : Option Node} : IsExpression test → IsTemplate body →
      (∀ n ∈ alternative, IsTemplate n) → IsTemplate (.ifBlock test body alternative)
  | forLoop {target items body : Node} : IsExpression target → IsExpression items →
      IsTemplate body → IsTemplate (.forLoop target items body none)
  | inclusion {template : Node} (ignoreMissing : Bool) : IsExpression template →
      IsTemplate (.inclusion template ignoreMissing)
  | assignment {targets : List Node} {value : Node} : (∀ n ∈ targets, IsExpression n) →
      IsExpression value → IsTemplate (.assignment targets (some value) none)
  | assignmentBlock {targets : List Node} {body : Node} : (∀ n ∈ targets, IsExpression n) →
      IsTemplate body → IsTemplate (.assignment targets none (some body))
  | capture {body : Node} : IsTemplate body → IsTemplate (.capture body)

/-- A piece of Twig source: text outside of tags, or a tag with what stands in it. -/
inductive Piece where
  | text (s : String)
  | expression (inside : String)
  | statement (inside : String)
  deriving DecidableEq, Repr

namespace Piece

def render : Piece → String
  | .text s => s
  | .expression inside => "\x7b\x7b " ++ inside ++ " \x7d\x7d"
  | .statement inside => "\x7b% " ++ inside ++ " %\x7d"

/-- What stands in a tag fits in it. -/
def WellDelimited : Piece → Prop
  | .text _ => True
  | .expression inside | .statement inside => FitsInTag inside.toList

end Piece

namespace Node

/-- The text of the target of an inclusion. -/
def includeTarget (o : Options) : Node → String
  | .literal (.string path) => "\"" ++ Text.escape (o.includePath path) ++ "\""
  | template => template.inline o

def outputPiece (o : Options) : Node → Piece
  | .data text => .text text
  | n => .expression (n.inline o)

mutual

/-- The pieces that a template is printed as. -/
def pieces (o : Options) : Node → List Piece
  | .data text => [.text text]
  | .seq .output children => children.map (outputPiece o)
  | .seq _ children => piecesAll o children
  | .ifBlock test body alternative =>
    .statement ("if " ++ test.inline o) :: pieces o body ++ elsePieces o alternative ++
      [.statement "endif"]
  | .forLoop target items body _ =>
    .statement ("for " ++ target.inline o ++ " in " ++ items.inline o) :: pieces o body ++
      [.statement "endfor"]
  | .inclusion template ignoreMissing =>
    [.statement ("include " ++ template.includeTarget o ++
      if ignoreMissing then " ignore missing" else "")]
  | .assignment targets (some value) _ =>
    [.statement ("set " ++ ", ".intercalate (targets.map (inline o)) ++ " = " ++ value.inline o)]
  | .assignment targets none (some body) =>
    .statement ("set " ++ ", ".intercalate (targets.map (inline o))) :: pieces o body ++
      [.statement "endset"]
  | .capture body => pieces o body
  | _ => []

def piecesAll (o : Options) : List Node → List Piece
  | [] => []
  | n :: rest => pieces o n ++ piecesAll o rest

def elsePieces (o : Options) : Option Node → List Piece
  | none => []
  | some n => .statement "else" :: pieces o n

end

/-- The texts of a node that are printed inside of tags. -/
def tagTexts : Node → List String
  | .symbol s | .literal (.string s) | .comparand _ s => [s]
  | _ => []

/-- No text that is printed inside of a tag holds a character of a mark. -/
def HasCleanTags (n : Node) : Prop := ∀ m ∈ n.nodes, ∀ s ∈ m.tagTexts, MarkFree s.toList

instance (n : Node) : Decidable n.HasCleanTags :=
  inferInstanceAs (Decidable (∀ m ∈ n.nodes, ∀ s ∈ m.tagTexts, MarkFree s.toList))

theorem HasCleanTags.child {n c : Node} (h : n.HasCleanTags) (hc : c ∈ n.children) :
    c.HasCleanTags :=
  fun m hm => h m (mem_nodes_of_child hc hm)

theorem HasCleanTags.own {n : Node} (h : n.HasCleanTags) {s : String} (hs : s ∈ n.tagTexts) :
    MarkFree s.toList :=
  h n (self_mem_nodes n) s hs

theorem markFree_filterName? {name : Node} (h : name.HasCleanTags) {s : String}
    (hs : name.filterName? = some s) : MarkFree s.toList := by
  apply h.own
  unfold filterName? at hs
  split at hs <;> simp_all [tagTexts]

theorem markFree_keyText? {key : Node} (h : key.HasCleanTags) {s : String}
    (hs : key.keyText? = some s) : MarkFree s.toList := by
  cases key with
  | symbol name =>
    obtain rfl : name = s := by simpa [keyText?] using hs
    exact h.own (by simp [tagTexts])
  | literal value =>
    obtain rfl : value.text = s := by simpa [keyText?] using hs
    cases value with
    | string s => exact h.own (by simp [tagTexts, Scalar.text])
    | _ => exact (Scalar.isBare_text (by simp)).markFree
  | _ => simp [keyText?] at hs

end Node

/-- The renamed filters have names without characters of marks. -/
def Options.HasCleanNames (o : Options) : Prop := ∀ r ∈ o.filterRenames, MarkFree r.2.toList

instance (o : Options) : Decidable o.HasCleanNames :=
  inferInstanceAs (Decidable (∀ r ∈ o.filterRenames, MarkFree r.2.toList))

theorem markFree_filterName {o : Options} (ho : o.HasCleanNames) {s : String}
    (hs : MarkFree s.toList) : MarkFree (o.filterName s).toList :=
  Options.filterName_of_forall (Q := fun t => MarkFree t.toList) hs ho

theorem markFree_comparisonOp {op : String} (h : MarkFree op.toList) :
    MarkFree (comparisonOp op).toList :=
  comparisonOp_of_forall (Q := fun t => MarkFree t.toList) h (by decide)

section Expressions

variable {o : Options}

/-- Expressions are put together so that they fit in a tag when their parts do. -/
theorem expressionText_sealed : ExpressionText Sealed where
  fixed := by
    intro s hs
    have htext : s = " % " ∨ MarkFree s.toList := by
      revert s
      decide
    rcases htext with rfl | h
    · exact ⟨rfl, by decide, by decide⟩
    · exact h.sealed
  append := Sealed.append
  round := by
    intro cs h
    have hopen : Sealed ['('] := MarkFree.sealed (by decide)
    have hclose : Sealed [')'] := MarkFree.sealed (by decide)
    exact (hopen.append h).append hclose
  square := by
    intro cs h
    have hopen : Sealed ['['] := MarkFree.sealed (by decide)
    have hclose : Sealed [']'] := MarkFree.sealed (by decide)
    exact (hopen.append h).append hclose
  braces := Sealed.braces

theorem sealed_ofScalar {value : Scalar} (h : (Node.literal value).HasCleanTags) :
    Sealed (Fragment.ofScalar value).chars := by
  cases value with
  | string s => exact sealed_quoted (h.own (by simp [Node.tagTexts]))
  | _ => simpa [Fragment.ofScalar] using (Scalar.isBare_text (by simp)).markFree.sealed

theorem Node.HasCleanTags.sealed_ownTexts {n : Node} (h : n.HasCleanTags) (ho : o.HasCleanNames) :
    ∀ t ∈ n.ownTexts o, Sealed t := by
  intro t ht
  cases n with
  | symbol name =>
    obtain rfl := List.mem_singleton.1 ht
    exact (h.own (by simp [tagTexts])).sealed
  | literal value =>
    obtain rfl := List.mem_singleton.1 ht
    exact sealed_ofScalar h
  | comparand operand op =>
    obtain rfl := List.mem_singleton.1 ht
    exact (markFree_comparisonOp (h.own (by simp [tagTexts]))).sealed
  | filter name args =>
    obtain ⟨s, hs, rfl⟩ := List.mem_map.1 ht
    have hname := markFree_filterName? (h.child (by simp [children])) (Option.mem_toList.1 hs)
    exact (markFree_filterName ho hname).sealed
  | pair key value =>
    obtain ⟨s, hs, rfl⟩ := List.mem_map.1 ht
    exact sealed_quoted (markFree_keyText? (h.child (by simp [children])) (Option.mem_toList.1 hs))
  | _ => cases ht

theorem IsExpression.prints_sealed (ho : o.HasCleanNames) {e : Node} (he : IsExpression e)
    (hclean : e.HasCleanTags) : Prints o Sealed e := by
  refine he.prints expressionText_sealed fun m hm => ?_
  have hm' : m.HasCleanTags := fun k hk => hclean k (Node.nodes_subset hm hk)
  exact hm'.sealed_ownTexts ho

/-- In a tag an expression is printed as without: as an item of an output it is in exactly one. -/
theorem Prints.outputItem {P : List Char → Prop} {n : Node} (h : Prints o P n)
    (hn : n.needsOutputTag = !n.hasOwnTag) :
    ∃ f, (n.print o true).result = .ok f ∧
      (Node.outputItem n f).render = (Piece.expression (n.inline o)).render := by
  obtain ⟨f, hf, hinline, -⟩ := h.inline
  obtain ⟨hbefore, hafter, fs, hfs, rfl⟩ := Node.result_print_eq_ok_iff.1 hf
  refine ⟨n.assemble o true fs, ?_, ?_⟩
  · exact Node.result_print_eq_ok_iff.2 ⟨hbefore, hafter, fs, hfs, rfl⟩
  · rw [← hinline]
    cases htag : n.hasOwnTag <;>
      simp [Node.outputItem, hn, htag, Node.assemble, Fragment.expression, Fragment.render,
        Delimiters.left, Delimiters.right, Piece.render]

end Expressions

/-- The node is printed, with either flag, as the pieces one after the other. -/
structure PrintsAs (o : Options) (n : Node) (ps : List Piece) : Prop where
  result : ∀ wrap, ∃ f, (n.print o wrap).result = .ok f ∧
    f.render = String.join (ps.map Piece.render)
  wellDelimited : ∀ p ∈ ps, p.WellDelimited

section Templates

variable {o : Options}

theorem IsExpression.needsOutputTag_eq {e : Node} (he : IsExpression e) :
    e.needsOutputTag = !e.hasOwnTag := by
  cases he <;> rfl

theorem render_seq (fs : List Fragment) :
    (Fragment.seq fs).render = String.join (fs.map (·.render)) := by
  rw [Fragment.render]
  induction fs with
  | nil => rfl
  | cons f rest ih => simp [Fragment.renderAll, ih]

theorem render_text (s : String) : (Fragment.text s).render = s := by rw [Fragment.render]

theorem render_statement (f : Fragment) :
    (Fragment.statement f).render = (Piece.statement f.render).render := by
  simp [Fragment.statement, Fragment.render, Piece.render, Delimiters.left, Delimiters.right]

theorem piecesAll_eq_flatMap (ns : List Node) :
    Node.piecesAll o ns = ns.flatMap (Node.pieces o) := by
  induction ns with
  | nil => rfl
  | cons n rest ih => simp [Node.piecesAll, ih]

theorem printsAs_data (text : String) : PrintsAs o (.data text) [.text text] where
  result := fun wrap => ⟨.text text, by simp [Node.print], by simp [Fragment.render, Piece.render]⟩
  wellDelimited := by simp [Piece.WellDelimited]

theorem printParts_printsAs {ns : List Node} (h : ∀ n ∈ ns, PrintsAs o n (n.pieces o))
    (wrap : Bool) :
    ∃ fs, printParts o (ns.map (·, wrap)) = .ok fs ∧ (Fragment.seq fs).render =
      String.join ((Node.piecesAll o ns).map Piece.render) := by
  induction ns with
  | nil => exact ⟨[], rfl, rfl⟩
  | cons n rest ih =>
    obtain ⟨f, hf, hrender⟩ := (h n List.mem_cons_self).result wrap
    obtain ⟨fs, hfs, hall⟩ := ih fun m hm => h m (List.mem_cons_of_mem n hm)
    refine ⟨f :: fs, by simp [hf, hfs], ?_⟩
    rw [render_seq] at hall ⊢
    simp [Node.piecesAll, hrender, hall]

theorem printsAs_seq {form : SeqForm} {children : List Node} (hform : form = .root ∨ form = .list)
    (h : ∀ n ∈ children, PrintsAs o n (n.pieces o)) :
    PrintsAs o (.seq form children) ((Node.seq form children).pieces o) where
  result := by
    intro wrap
    obtain ⟨fs, hfs, hrender⟩ := printParts_printsAs h false
    refine ⟨.seq fs, ?_, ?_⟩
    · rcases hform with rfl | rfl <;>
        exact Node.result_print_eq_ok_iff.2 ⟨rfl, rfl, fs, hfs, rfl⟩
    · rcases hform with rfl | rfl <;> exact hrender
  wellDelimited := by
    have hpieces : (Node.seq form children).pieces o = children.flatMap (Node.pieces o) := by
      rw [← piecesAll_eq_flatMap]
      rcases hform with rfl | rfl <;> rfl
    intro p hp
    rw [hpieces] at hp
    obtain ⟨n, hn, hp⟩ := List.mem_flatMap.1 hp
    exact (h n hn).wellDelimited p hp

theorem printsAs_output {children : List Node}
    (h : ∀ n ∈ children, (∃ f, (n.print o true).result = .ok f ∧
      (Node.outputItem n f).render = (n.outputPiece o).render) ∧ (n.outputPiece o).WellDelimited) :
    PrintsAs o (.seq .output children) ((Node.seq .output children).pieces o) where
  result := by
    intro wrap
    have hitems : ∃ fs, printParts o (children.map (·, true)) = .ok fs ∧
        (Fragment.seq (List.zipWith Node.outputItem children fs)).render =
          String.join ((children.map (Node.outputPiece o)).map Piece.render) := by
      induction children with
      | nil => exact ⟨[], rfl, rfl⟩
      | cons n rest ih =>
        obtain ⟨f, hf, hrender⟩ := (h n List.mem_cons_self).1
        obtain ⟨fs, hfs, hall⟩ := ih fun m hm => h m (List.mem_cons_of_mem n hm)
        refine ⟨f :: fs, by simp [hf, hfs], ?_⟩
        rw [render_seq] at hall ⊢
        simpa [hrender] using hall
    obtain ⟨fs, hfs, hrender⟩ := hitems
    refine ⟨.seq (List.zipWith Node.outputItem children fs), ?_, hrender⟩
    exact Node.result_print_eq_ok_iff.2 ⟨rfl, rfl, fs, hfs, rfl⟩
  wellDelimited := by
    intro p hp
    obtain ⟨n, hn, rfl⟩ := List.mem_map.1 hp
    exact (h n hn).2

/-- A statement of a few words before an expression. -/
theorem wellDelimited_statement {word inside : String} (hword : MarkFree word.toList)
    (h : Sealed inside.toList) : (Piece.statement (word ++ inside)).WellDelimited := by
  rw [Piece.WellDelimited, String.toList_append]
  exact (hword.sealed.append h).fitsInTag

theorem wellDelimited_end {word : String} (hword : MarkFree word.toList) :
    (Piece.statement word).WellDelimited :=
  hword.sealed.fitsInTag

theorem printsAs_ifBlock {test body : Node} {alternative : Option Node}
    (htest : Prints o Sealed test) (hbody : PrintsAs o body (body.pieces o))
    (halternative : ∀ n ∈ alternative, PrintsAs o n (n.pieces o)) :
    PrintsAs o (.ifBlock test body alternative) ((Node.ifBlock test body alternative).pieces o) := by
  obtain ⟨f, hf, hinline, hsealed⟩ := htest.inline
  constructor
  · intro wrap
    obtain ⟨g, hg, hrender⟩ := hbody.result true
    cases alternative with
    | none =>
      refine ⟨.ifBlock f g none, ?_, ?_⟩
      · refine Node.result_print_eq_ok_iff.2 ⟨rfl, rfl, [f, g], ?_, rfl⟩
        simp [Node.parts, hf, hg]
      · simp [Fragment.ifBlock, render_seq, render_statement, render_text, Node.pieces,
          Node.elsePieces, hinline, hrender]
    | some n =>
      obtain ⟨e, he, helse⟩ := (halternative n rfl).result true
      refine ⟨.ifBlock f g (some e), ?_, ?_⟩
      · refine Node.result_print_eq_ok_iff.2 ⟨rfl, rfl, [f, g, e], ?_, rfl⟩
        simp [Node.parts, hf, hg, he]
      · simp [Fragment.ifBlock, render_seq, render_statement, render_text, Node.pieces,
          Node.elsePieces, hinline, hrender, helse]
  · have helse : ∀ p ∈ Node.elsePieces o alternative, p.WellDelimited := by
      cases alternative with
      | none => simp [Node.elsePieces]
      | some n =>
        intro p hp
        rcases List.mem_cons.1 hp with rfl | hp
        · exact wellDelimited_end (by decide)
        · exact (halternative n rfl).wellDelimited p hp
    intro p hp
    simp only [Node.pieces, List.mem_append, List.mem_cons, List.not_mem_nil, or_false] at hp
    rcases hp with ((rfl | hp) | hp) | rfl
    · exact wellDelimited_statement (by decide) hsealed
    · exact hbody.wellDelimited p hp
    · exact helse p hp
    · exact wellDelimited_end (by decide)

theorem printsAs_forLoop {target items body : Node} (htarget : Prints o Sealed target)
    (hitems : Prints o Sealed items) (hbody : PrintsAs o body (body.pieces o)) :
    PrintsAs o (.forLoop target items body none)
      ((Node.forLoop target items body none).pieces o) := by
  obtain ⟨f, hf, hinline, hsealed⟩ := htarget.inline
  obtain ⟨g, hg, hinline', hsealed'⟩ := hitems.inline
  constructor
  · intro wrap
    obtain ⟨b, hb, hrender⟩ := hbody.result true
    refine ⟨.forBlock f g b, ?_, ?_⟩
    · refine Node.result_print_eq_ok_iff.2 ⟨rfl, rfl, [f, g, b], ?_, rfl⟩
      simp [Node.parts, hf, hg, hb]
    · simp [Fragment.forBlock, render_seq, render_statement, render_text, Node.pieces, hinline,
        hinline', hrender, String.append_assoc]
  · intro p hp
    simp only [Node.pieces, List.mem_append, List.mem_cons, List.not_mem_nil, or_false] at hp
    rcases hp with (rfl | hp) | rfl
    · have hin : Sealed " in ".toList := MarkFree.sealed (by decide)
      have hinside := (hsealed.append hin).append hsealed'
      rw [String.append_assoc, String.append_assoc]
      exact wellDelimited_statement (by decide) (by simpa using hinside)
    · exact hbody.wellDelimited p hp
    · exact wellDelimited_end (by decide)

theorem printsAs_capture {body : Node} (hbody : PrintsAs o body (body.pieces o)) :
    PrintsAs o (.capture body) ((Node.capture body).pieces o) where
  result := by
    intro wrap
    obtain ⟨f, hf, hrender⟩ := hbody.result true
    refine ⟨f, ?_, hrender⟩
    refine Node.result_print_eq_ok_iff.2 ⟨rfl, rfl, [f], ?_, rfl⟩
    simp [Node.parts, hf]
  wellDelimited := hbody.wellDelimited

theorem markFree_includePath {path : String} (h : MarkFree path.toList) :
    MarkFree (o.includePath path).toList := by
  intro c hc
  unfold Options.includePath at hc
  dsimp only at hc
  split at hc
  · rw [String.toList_ofList] at hc
    exact h c (List.mem_of_mem_drop hc)
  · exact h c hc

theorem prints_inclusion {template : Node} (ignoreMissing wrap : Bool)
    (hclean : template.HasCleanTags) (h : Prints o Sealed template) :
    ∃ f, ((Node.inclusion template ignoreMissing).print o wrap).result =
        .ok (.inclusion f ignoreMissing) ∧
      f.render = template.includeTarget o ∧ Sealed (template.includeTarget o).toList := by
  by_cases hpath : ∃ path, template = .literal (.string path)
  · obtain ⟨path, rfl⟩ := hpath
    have hmarks : MarkFree path.toList := hclean.own (by simp [Node.tagTexts])
    have hquoted := sealed_quoted (markFree_includePath (o := o) hmarks)
    have hrender : (Fragment.quoted (o.includePath path)).render =
        (Node.literal (.string path)).includeTarget o := by
      simp [Fragment.quoted, Fragment.render, Delimiters.left, Delimiters.right,
        Node.includeTarget]
    refine ⟨.quoted (o.includePath path), ?_, hrender, hrender ▸ hquoted⟩
    exact Node.result_print_eq_ok_iff.2 ⟨rfl, rfl, [], rfl, rfl⟩
  · have hne : ∀ path, template = .literal (.string path) → False := by simpa using hpath
    obtain ⟨f, hf, hinline, hsealed⟩ := h.inline
    have htarget : template.includeTarget o = template.inline o := by
      rw [Node.includeTarget]
      exact hne
    refine ⟨f, ?_, htarget ▸ hinline, htarget ▸ hsealed⟩
    refine Node.result_print_eq_ok_iff.2 ⟨rfl, rfl, [f], ?_, ?_⟩
    · simp [Node.parts, hf]
    · simp [Node.assemble, Node.hasOwnTag, Node.content]

theorem printsAs_inclusion {template : Node} (ignoreMissing : Bool)
    (hclean : template.HasCleanTags) (h : Prints o Sealed template) :
    PrintsAs o (.inclusion template ignoreMissing)
      ((Node.inclusion template ignoreMissing).pieces o) where
  result := by
    intro wrap
    obtain ⟨f, hf, hrender, -⟩ := prints_inclusion ignoreMissing wrap hclean h
    refine ⟨_, hf, ?_⟩
    cases ignoreMissing <;>
      simp [Fragment.inclusion, render_statement, render_seq, render_text, Node.pieces, hrender,
        String.append_assoc]
  wellDelimited := by
    obtain ⟨-, -, -, hsealed⟩ := prints_inclusion ignoreMissing false hclean h
    intro p hp
    obtain rfl := List.mem_singleton.1 hp
    rw [String.append_assoc]
    refine wellDelimited_statement (by decide) ?_
    rw [String.toList_append]
    exact hsealed.append (MarkFree.sealed (by cases ignoreMissing <;> decide))

theorem prints_targets {targets : List Node} (h : ∀ n ∈ targets, Prints o Sealed n) :
    ∃ fs, printParts o (targets.map (·, false)) = .ok fs ∧
      (Fragment.joined ", " fs).render = ", ".intercalate (targets.map (Node.inline o)) ∧
      Sealed (", ".intercalate (targets.map (Node.inline o))).toList := by
  obtain ⟨hwrites, hsealed⟩ := written_of_prints h
  obtain ⟨fs, hfs, hchars⟩ := printParts_writes hwrites
  have htext : (", ".intercalate (targets.map (Node.inline o))).toList =
      [',', ' '].intercalate (targets.map (Node.written o)) := by
    rw [String.toList_intercalate, List.map_map]
    rfl
  refine ⟨fs, hfs, String.toList_inj.1 ?_, ?_⟩
  · rw [htext, ← hchars]
    exact Fragment.chars_joined ", " fs
  · rw [htext]
    exact expressionText_sealed.intercalate (show ", " ∈ fixedTexts by decide) hsealed

theorem printsAs_assignment {targets : List Node} {value : Node}
    (htargets : ∀ n ∈ targets, Prints o Sealed n) (hvalue : Prints o Sealed value) :
    PrintsAs o (.assignment targets (some value) none)
      ((Node.assignment targets (some value) none).pieces o) := by
  obtain ⟨fs, hfs, hnames, hsealed⟩ := prints_targets htargets
  obtain ⟨f, hf, hinline, hsealed'⟩ := hvalue.inline
  constructor
  · intro wrap
    refine ⟨.assignment (.joined ", " fs) f, ?_, ?_⟩
    · refine Node.result_print_eq_ok_iff.2 ⟨rfl, rfl, fs ++ [f], ?_, ?_⟩
      · simp [Node.parts, printParts_append, hfs, hf]
      · simp [Node.assemble, Node.hasOwnTag, Node.content]
    · simp [Fragment.assignment, render_statement, render_seq, render_text, Node.pieces, hnames,
        hinline, String.append_assoc]
  · intro p hp
    obtain rfl := List.mem_singleton.1 hp
    have hequals : Sealed " = ".toList := MarkFree.sealed (by decide)
    have hinside := (hsealed.append hequals).append hsealed'
    rw [String.append_assoc, String.append_assoc]
    refine wellDelimited_statement (by decide) ?_
    rw [String.toList_append, String.toList_append, ← List.append_assoc]
    exact hinside

theorem printsAs_assignmentBlock {targets : List Node} {body : Node}
    (htargets : ∀ n ∈ targets, Prints o Sealed n) (hbody : PrintsAs o body (body.pieces o)) :
    PrintsAs o (.assignment targets none (some body))
      ((Node.assignment targets none (some body)).pieces o) := by
  obtain ⟨fs, hfs, hnames, hsealed⟩ := prints_targets htargets
  constructor
  · intro wrap
    obtain ⟨f, hf, hrender⟩ := hbody.result true
    refine ⟨.assignmentBlock (.joined ", " fs) f, ?_, ?_⟩
    · refine Node.result_print_eq_ok_iff.2 ⟨rfl, rfl, fs ++ [f], ?_, ?_⟩
      · simp [Node.parts, printParts_append, hfs, hf]
      · simp [Node.assemble, Node.hasOwnTag, Node.content]
    · simp [Fragment.assignmentBlock, render_statement, render_seq, render_text, Node.pieces, hnames,
        hrender]
  · intro p hp
    simp only [Node.pieces, List.mem_append, List.mem_cons, List.not_mem_nil, or_false] at hp
    rcases hp with (rfl | hp) | rfl
    · exact wellDelimited_statement (by decide) hsealed
    · exact hbody.wellDelimited p hp
    · exact wellDelimited_end (by decide)

theorem IsTemplate.printsAs (ho : o.HasCleanNames) {t : Node} (ht : IsTemplate t)
    (hclean : t.HasCleanTags) : PrintsAs o t (t.pieces o) := by
  have hchild : ∀ {n c : Node}, n.HasCleanTags → c ∈ n.children → IsExpression c →
      Prints o Sealed c := fun hn hc he => he.prints_sealed ho (hn.child hc)
  induction ht with
  | data text => exact printsAs_data text
  | @output children h =>
    refine printsAs_output fun n hn => ?_
    rcases h n hn with ⟨text, rfl⟩ | he
    · refine ⟨⟨.text text, by simp [Node.print], ?_⟩, trivial⟩
      simp [Node.outputItem, Node.needsOutputTag, render_text, Node.outputPiece, Piece.render]
    · have hprints := hchild hclean hn he
      obtain ⟨f, -, -, hsealed⟩ := hprints.inline
      have hpiece : n.outputPiece o = .expression (n.inline o) := by cases he <;> rfl
      rw [hpiece]
      exact ⟨hprints.outputItem he.needsOutputTag_eq, hsealed.fitsInTag⟩
  | root _ ih => exact printsAs_seq (.inl rfl) fun n hn => ih n hn (hclean.child hn)
  | list _ ih => exact printsAs_seq (.inr rfl) fun n hn => ih n hn (hclean.child hn)
  | @ifBlock test body alternative htest _ _ hbody halternative =>
    refine printsAs_ifBlock (hchild hclean (by simp [Node.children]) htest)
      (hbody (hclean.child (by simp [Node.children]))) fun n hn => ?_
    exact halternative n hn (hclean.child (by simp [Node.children, Option.mem_def.1 hn]))
  | forLoop htarget hitems _ hbody =>
    exact printsAs_forLoop (hchild hclean (by simp [Node.children]) htarget)
      (hchild hclean (by simp [Node.children]) hitems)
      (hbody (hclean.child (by simp [Node.children])))
  | inclusion ignoreMissing h =>
    exact printsAs_inclusion ignoreMissing (hclean.child (by simp [Node.children]))
      (hchild hclean (by simp [Node.children]) h)
  | assignment htargets hvalue =>
    exact printsAs_assignment
      (fun n hn => hchild hclean (by simp [Node.children, hn]) (htargets n hn))
      (hchild hclean (by simp [Node.children]) hvalue)
  | assignmentBlock htargets _ hbody =>
    exact printsAs_assignmentBlock
      (fun n hn => hchild hclean (by simp [Node.children, hn]) (htargets n hn))
      (hbody (hclean.child (by simp [Node.children])))
  | capture _ hbody => exact printsAs_capture (hbody (hclean.child (by simp [Node.children])))

end Templates

/-- The text of a piece outside of tags. -/
def Piece.text? : Piece → Option String
  | .text s => some s
  | _ => none

namespace Node

def data? : Node → Option String
  | .data text => some text
  | _ => none

/-- The texts of a template, in document order. -/
def texts (n : Node) : List String := n.nodes.filterMap data?

theorem texts_eq (n : Node) : n.texts = n.data?.toList ++ n.children.flatMap texts := by
  rw [texts, nodes_eq, List.filterMap_cons, List.filterMap_flatMap]
  cases n.data? <;> rfl

theorem texts_eq_nil {n : Node} (hself : n.data? = none) (h : ∀ c ∈ n.children, c.texts = []) :
    n.texts = [] := by
  rw [texts_eq, hself, List.flatMap_eq_nil_iff.2 h]
  rfl

theorem texts_of_keyText? {n : Node} (h : n.keyText?.isSome = true) : n.texts = [] := by
  unfold keyText? at h
  split at h
  · rfl
  · rfl
  · cases h

end Node

theorem IsExpression.texts {e : Node} (he : IsExpression e) : e.texts = [] := by
  induction he with
  | symbol name => rfl
  | literal value => rfl
  | lookup _ _ htarget hkey =>
    exact Node.texts_eq_nil rfl (by simpa [Node.children] using ⟨htarget, hkey⟩)
  | binary op _ _ hleft hright =>
    exact Node.texts_eq_nil rfl (by simpa [Node.children] using ⟨hleft, hright⟩)
  | negation _ htarget => exact Node.texts_eq_nil rfl (by simpa [Node.children] using htarget)
  | @comparison first rest _ _ hfirst hrest =>
    refine Node.texts_eq_nil rfl fun c hc => ?_
    rcases List.mem_cons.1 hc with rfl | hc
    · exact hfirst
    · obtain ⟨p, hp, rfl⟩ := List.mem_map.1 hc
      exact Node.texts_eq_nil rfl (by simpa [Node.children] using hrest p hp)
  | @inlineIf test body alternative _ _ _ htest hbody halternative =>
    refine Node.texts_eq_nil rfl fun c hc => ?_
    simp only [Node.children, List.mem_append, List.mem_cons, List.not_mem_nil, or_false,
      Option.mem_toList] at hc
    rcases hc with (rfl | rfl) | hc
    · exact htest
    · exact hbody
    · exact halternative c hc
  | filter hname _ hargs =>
    have hname := Node.texts_of_keyText? (Node.keyText?_of_filterName? hname)
    have hargs := Node.texts_eq_nil (n := .list _) rfl hargs
    exact Node.texts_eq_nil rfl (by simpa [Node.children] using ⟨hname, hargs⟩)
  | call _ _ hname hargs =>
    have hargs := Node.texts_eq_nil (n := .list _) rfl hargs
    exact Node.texts_eq_nil rfl (by simpa [Node.children] using ⟨hname, hargs⟩)
  | group _ hchildren => exact Node.texts_eq_nil rfl hchildren
  | @dict entries hkeys _ hvalues =>
    refine Node.texts_eq_nil rfl fun c hc => ?_
    obtain ⟨p, hp, rfl⟩ := List.mem_map.1 hc
    have hkey := Node.texts_of_keyText? (hkeys p hp)
    exact Node.texts_eq_nil rfl (by simpa [Node.children] using ⟨hkey, hvalues p hp⟩)

section Texts

variable {o : Options}

theorem text?_outputPiece {n : Node} (h : (∃ text, n = .data text) ∨ IsExpression n) :
    (n.outputPiece o).text?.toList = n.texts := by
  rcases h with ⟨text, rfl⟩ | he
  · rfl
  · rw [he.texts]
    cases he <;> rfl

theorem texts_piecesAll {ns : List Node}
    (h : ∀ n ∈ ns, (n.pieces o).filterMap Piece.text? = n.texts) :
    (Node.piecesAll o ns).filterMap Piece.text? = ns.flatMap Node.texts := by
  rw [piecesAll_eq_flatMap, List.filterMap_flatMap]
  exact List.flatMap_congr h

/-- No text of a template is lost, moved or changed. -/
theorem IsTemplate.texts {n : Node} (hn : IsTemplate n) :
    (n.pieces o).filterMap Piece.text? = n.texts := by
  induction hn with
  | data text => rfl
  | @output children h =>
    have hitems : ∀ n ∈ children, (n.outputPiece o).text?.toList = n.texts :=
      fun n hn => text?_outputPiece (h n hn)
    calc (children.map (Node.outputPiece o)).filterMap Piece.text?
        = children.flatMap fun n => (n.outputPiece o).text?.toList := by
          rw [List.filterMap_map, List.filterMap_eq_flatMap_toList]; rfl
      _ = children.flatMap Node.texts := List.flatMap_congr hitems
      _ = (Node.seq .output children).texts := by rw [Node.texts_eq]; rfl
  | root _ ih =>
    rw [Node.texts_eq]
    exact texts_piecesAll ih
  | list _ ih =>
    rw [Node.texts_eq]
    exact texts_piecesAll ih
  | @ifBlock test body alternative htest _ _ hbody halternative =>
    have helse : (Node.elsePieces o alternative).filterMap Piece.text? =
        alternative.toList.flatMap Node.texts := by
      cases alternative with
      | none => rfl
      | some n => simpa [Node.elsePieces, Piece.text?, List.filterMap_cons] using halternative n rfl
    simp [Node.texts_eq (.ifBlock test body alternative), Node.data?, Node.children, Node.pieces,
      Piece.text?, List.filterMap_cons, htest.texts, hbody, helse]
  | @forLoop target items body htarget hitems _ hbody =>
    simp [Node.texts_eq (.forLoop target items body none), Node.data?, Node.children, Node.pieces,
      Piece.text?, List.filterMap_cons, htarget.texts, hitems.texts, hbody]
  | @inclusion template ignoreMissing h =>
    simp [Node.texts_eq (.inclusion template ignoreMissing), Node.data?, Node.children, Node.pieces,
      Piece.text?, List.filterMap_cons, h.texts]
  | @assignment targets value htargets hvalue =>
    have hnames : targets.flatMap Node.texts = [] :=
      List.flatMap_eq_nil_iff.2 fun n hn => (htargets n hn).texts
    simp [Node.texts_eq (.assignment targets (some value) none), Node.data?, Node.children,
      Node.pieces, Piece.text?, hnames, hvalue.texts]
  | @assignmentBlock targets body htargets _ hbody =>
    have hnames : targets.flatMap Node.texts = [] :=
      List.flatMap_eq_nil_iff.2 fun n hn => (htargets n hn).texts
    simp [Node.texts_eq (.assignment targets none (some body)), Node.data?, Node.children,
      Node.pieces, Piece.text?, List.filterMap_cons, hnames, hbody]
  | @capture body _ hbody =>
    simp [Node.texts_eq (.capture body), Node.data?, Node.children, Node.pieces, hbody]

end Texts

/-- A template whose names, strings and operators hold no characters of marks is printed as its
pieces. What stands in each tag fits in it, and outside of the tags stand the texts of the template. -/
theorem toTwig_eq_pieces {o : Options} {root : Node} (hroot : IsTemplate root)
    (hclean : root.HasCleanTags) (ho : o.HasCleanNames) :
    (root.toTwig o).result = .ok (String.join ((root.pieces o).map Piece.render)) ∧
      (∀ p ∈ root.pieces o, p.WellDelimited) ∧
      (root.pieces o).filterMap Piece.text? = root.texts := by
  have hprints := hroot.printsAs ho hclean
  obtain ⟨f, hf, hrender⟩ := hprints.result false
  refine ⟨?_, hprints.wellDelimited, hroot.texts⟩
  rw [Node.result_toTwig, hf, ok_bind, hrender]

/-- A dictionary in a dictionary, with a remainder in it. -/
def nestedDicts : Node :=
  .dict [(.string "a", .dict [(.symbol "b", .binary .mod (.symbol "x") (.symbol "y"))])]

theorem isExpression_nestedDicts : IsExpression nestedDicts := by
  have hvalue := IsExpression.binary .mod (.symbol "x") (.symbol "y")
  have hinner : IsExpression (.dict [(.symbol "b", .binary .mod (.symbol "x") (.symbol "y"))]) :=
    .dict (by decide) (by simpa using hvalue)
  exact .dict (by decide) (by simpa using hinner)

/-- Neither a text that looks like a tag nor the braces at the end of the dictionaries are taken for
marks. -/
theorem toTwig_nestedDicts :
    ((Node.list [.text "\x7b% if ", .seq .output [nestedDicts]]).toTwig {}).result =
        .ok "\x7b% if \x7b\x7b \x7b\"a\": \x7b\"b\": x % y\x7d\x7d \x7d\x7d" ∧
      ∀ p ∈ (Node.list [.text "\x7b% if ", .seq .output [nestedDicts]]).pieces {},
        p.WellDelimited := by
  have htext : IsTemplate (.text "\x7b% if ") := .output (by simp)
  have houtput : IsTemplate (.seq .output [nestedDicts]) :=
    .output (by simpa using .inr isExpression_nestedDicts)
  have hroot : IsTemplate (.list [.text "\x7b% if ", .seq .output [nestedDicts]]) :=
    .list (by simpa using ⟨htext, houtput⟩)
  have hclean : (Node.list [.text "\x7b% if ", .seq .output [nestedDicts]]).HasCleanTags := by
    decide
  have hnames : ({} : Options).HasCleanNames := by decide
  exact ⟨rfl, (toTwig_eq_pieces hroot hclean hnames).2.1⟩

end TwigPrinter
