import TwigPrinter.Proofs.Delimiters
/-!
What the flag of a printed node changes. It decides nothing but whether an expression is put into a
tag of its own: what stands in the tag, and whether there is anything, come out the same. An output,
which prints its children with the flag set, adds the tag for those expressions that the flag does
not put into one, so that each expression of an output is in exactly one tag.
-/
namespace TwigPrinter
namespace Node

section Flag

variable (o : Options)

/-- The printed form of a node without its own tag. -/
def printContent (n : Node) : Except PrintError Fragment := do
  refuse n.refusal?
  let fs ← printParts o (n.parts o)
  refuse n.shortage?
  .ok (n.content o fs)

theorem result_print_of_hasOwnTag {n : Node} (h : n.hasOwnTag = true) (wrap : Bool) :
    (n.print o wrap).result = (do
      let f ← n.printContent o
      .ok (.expression f wrap)) := by
  simp [result_print, printContent, assemble, h]

theorem result_print_of_not_hasOwnTag {n : Node} (h : n.hasOwnTag = false) (wrap : Bool) :
    (n.print o wrap).result = n.printContent o := by
  simp [result_print, printContent, assemble, h]

theorem errorOf?_result_print (n : Node) (wrap : Bool) :
    errorOf? (n.print o wrap).result = errorOf? (n.printContent o) := by
  cases h : n.hasOwnTag with
  | true => rw [result_print_of_hasOwnTag o h, errorOf?_bind_ok]
  | false => rw [result_print_of_not_hasOwnTag o h]

/-- The text of a node, printed with the flag. -/
def rendered (n : Node) (wrap : Bool) : Except PrintError String := do
  let f ← (n.print o wrap).result
  .ok f.render

theorem render_expression (f : Fragment) (wrap : Bool) :
    (Fragment.expression f wrap).render =
      if wrap then (Piece.expression f.render).render else f.render := by
  cases wrap <;>
    simp [Fragment.expression, Fragment.render, Piece.render, Delimiters.left, Delimiters.right]

theorem rendered_of_hasOwnTag {n : Node} (h : n.hasOwnTag = true) (wrap : Bool) :
    n.rendered o wrap = (do
      let f ← n.printContent o
      .ok (if wrap then (Piece.expression f.render).render else f.render)) := by
  simp [rendered, result_print_of_hasOwnTag o h, render_expression]

theorem needsOutputTag_of_hasOwnTag {n : Node} (h : n.hasOwnTag = true) :
    n.needsOutputTag = false := by
  cases n with
  | seq form children => cases form <;> simp_all [hasOwnTag, needsOutputTag]
  | _ => simp_all [hasOwnTag, needsOutputTag]

/-- One item of an output has one tag, from the flag or from the output. -/
theorem rendered_outputItem {n : Node} (h : n.hasOwnTag = true ∨ n.needsOutputTag = true) :
    (do
      let f ← (n.print o true).result
      .ok (outputItem n f).render) = (do
      let s ← n.rendered o false
      .ok (Piece.expression s).render) := by
  cases htag : n.hasOwnTag with
  | true =>
    have hnone := needsOutputTag_of_hasOwnTag htag
    simp [result_print_of_hasOwnTag o htag, rendered, render_expression, outputItem, hnone]
  | false =>
    have hadded : n.needsOutputTag = true := by simpa [htag] using h
    simp [result_print_of_not_hasOwnTag o htag, rendered, render_expression, outputItem, hadded]

theorem rendered_outputItems {children : List Node}
    (h : ∀ c ∈ children, c.hasOwnTag = true ∨ c.needsOutputTag = true) :
    (do
      let fs ← printParts o (children.map (·, true))
      .ok (Fragment.seq (List.zipWith outputItem children fs)).render) = (do
      let texts ← children.mapM (·.rendered o false)
      .ok (String.join (texts.map fun s => (Piece.expression s).render))) := by
  induction children with
  | nil => rfl
  | cons c rest ih =>
    have hitem := rendered_outputItem o (h c List.mem_cons_self)
    have hrest := ih fun d hd => h d (List.mem_cons_of_mem c hd)
    calc (do
          let fs ← printParts o ((c :: rest).map (·, true))
          .ok (Fragment.seq (List.zipWith outputItem (c :: rest) fs)).render)
        = (do
          let s ← (do
            let f ← (c.print o true).result
            .ok (outputItem c f).render)
          let t ← (do
            let fs ← printParts o (rest.map (·, true))
            .ok (Fragment.seq (List.zipWith outputItem rest fs)).render)
          .ok (s ++ t)) := by simp [render_seq]
      _ = (do
          let texts ← (c :: rest).mapM (·.rendered o false)
          .ok (String.join (texts.map fun s => (Piece.expression s).render))) := by
        rw [hitem, hrest]
        simp

theorem rendered_output (children : List Node) (wrap : Bool) :
    (Node.seq .output children).rendered o wrap = (do
      let fs ← printParts o (children.map (·, true))
      .ok (Fragment.seq (List.zipWith outputItem children fs)).render) := by
  simp [rendered, result_print, refusal?, shortage?, refuse, parts, assemble, hasOwnTag, content]

end Flag

/-- With the flag set a node is printed as without, in a tag of its own if it is of a kind that the
flag is for. An output of expressions puts the text of each one into one tag. -/
theorem flag_adds_outer_tag_only (o : Options) :
    (∀ n : Node, errorOf? (n.print o true).result = errorOf? (n.print o false).result) ∧
      (∀ n : Node, n.hasOwnTag = true → n.rendered o true = (do
        let s ← n.rendered o false
        .ok ("\x7b\x7b " ++ s ++ " \x7d\x7d"))) ∧
      (∀ n : Node, n.hasOwnTag = false → (n.print o true).result = (n.print o false).result) ∧
      ∀ (children : List Node) (wrap : Bool),
        (∀ c ∈ children, c.hasOwnTag = true ∨ c.needsOutputTag = true) →
        (Node.seq .output children).rendered o wrap = (do
          let texts ← children.mapM (·.rendered o false)
          .ok (String.join (texts.map fun s => "\x7b\x7b " ++ s ++ " \x7d\x7d"))) := by
  refine ⟨fun n => ?_, fun n h => ?_, fun n h => ?_, fun children wrap h => ?_⟩
  · rw [errorOf?_result_print, errorOf?_result_print]
  · rw [rendered_of_hasOwnTag o h, rendered_of_hasOwnTag o h]
    simp [Piece.render]
  · rw [result_print_of_not_hasOwnTag o h, result_print_of_not_hasOwnTag o h]
  · rw [rendered_output, rendered_outputItems o h]
    rfl

/-- A collapsed conditional, a call and a dictionary in one output: the first gets its tag from the
flag, the others get it from the output. -/
theorem rendered_output_of_three_kinds :
    (Node.seq .output [.inlineIf (.symbol "x") (.symbol "x") none, .apply (.symbol "f") [],
        .dict [(.symbol "k", .symbol "v")]]).rendered { collapseSelfConditional := true } false =
      .ok "\x7b\x7b x \x7d\x7d\x7b\x7b f() \x7d\x7d\x7b\x7b \x7b\"k\": v\x7d \x7d\x7d" := by
  have houtput := (flag_adds_outer_tag_only { collapseSelfConditional := true }).2.2.2
  rw [houtput _ false (by decide)]
  rfl

end Node
end TwigPrinter
