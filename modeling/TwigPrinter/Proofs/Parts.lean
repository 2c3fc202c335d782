import TwigPrinter.Proofs.Answers
import TwigPrinter.Proofs.Nodes
import TwigPrinter.Twig.Print
/-!
Printing one node, taken apart. `Node.print` keeps a log and goes through a tree in one pass; what it
answers for a node is settled by a few functions of that node alone: the parts it prints and the flag
of each (`Node.parts`), why it is refused before its parts (`Node.refusal?`) or after them
(`Node.shortage?`), and how the printed parts are put together (`Node.assemble`).
`Node.result_print` says so, and what is proved about answers below starts from it.
-/
namespace TwigPrinter

/-- Stops with the error, if there is one. -/
def refuse : Option PrintError → Except PrintError Unit
  | some e => .error e
  | none => .ok ()

theorem refuse_eq_ok_iff {e : Option PrintError} {u : Unit} : refuse e = .ok u ↔ e = none := by
  cases e <;> simp [refuse]

namespace Traced

theorem result_noteIf (condition : Bool) (e : Event) : (noteIf condition e).result = .ok () := by
  cases condition <;> rfl

theorem result_coerce (source : Node) (printed : Fragment) :
    (Traced.coerce source printed).result = .ok (printed.coerce source) := by
  simp [Traced.coerce, result_bind, result_noteIf]

theorem result_includePath (o : Options) (path : String) :
    (includePath o path).result = .ok (.quoted (o.includePath path)) := by
  simp [includePath, result_bind, result_noteIf]

end Traced

namespace Node

theorem collapsed?_eq_some {o : Options} {test body : Node} {alternative : Option Node} {x : String}
    (h : o.collapsed? test body alternative = some x) :
    test = .symbol x ∧ body = .symbol x ∧ alternative = none := by
  unfold Options.collapsed? selfConditional? at h
  split at h
  · split at h
    · split at h <;> simp_all
    · simp at h
  · simp at h

/-- The parts that are printed for a node, in order, each with its flag. Literals are printed alike
with either flag, so that no part has a flag of its own for being one. A collapsed conditional counts
as a name here, without parts. -/
def parts (o : Options) : Node → List (Node × Bool)
  | .seq .output children => children.map (·, true)
  | .seq _ children => children.map (·, false)
  | .data _ | .symbol _ | .literal _ | .other _ => []
  | .lookup a b | .binary _ a b => [(a, false), (b, false)]
  | .negation a | .comparand a _ | .pair _ a => [(a, false)]
  | .comparison first rest => (first, false) :: rest.map (·, false)
  | .ifBlock test body alternative =>
    (test, false) :: (body, true) :: alternative.toList.map (·, true)
  | .inlineIf test body alternative =>
    if (o.collapsed? test body alternative).isSome then []
    else (test, false) :: (body, false) :: alternative.toList.map (·, false)
  | .forLoop target items body _ => [(target, false), (items, false), (body, true)]
  | .filter _ args => args.operands.map (·, false)
  | .call name args => (name, false) :: args.operands.map (·, false)
  | .inclusion (.literal (.string _)) _ => []
  | .inclusion template _ => [(template, false)]
  | .assignment targets (some value) _ => targets.map (·, false) ++ [(value, false)]
  | .assignment targets none (some body) => targets.map (·, false) ++ [(body, true)]
  | .assignment targets none none => targets.map (·, false)
  | .capture body => [(body, true)]

/-- What is printed for a node is what is visited, except for the two names of a collapsed
conditional. -/
theorem fst_parts (o : Options) (n : Node) :
    (n.parts o).map Prod.fst = n.visited ∨
      ∃ x, n = .inlineIf (.symbol x) (.symbol x) none ∧ n.parts o = [] := by
  cases n with
  | seq form children => cases form <;> simp [parts, visited, Function.comp_def]
  | inlineIf test body alternative =>
    cases h : o.collapsed? test body alternative with
    | none => simp [parts, visited, h, Function.comp_def]
    | some x =>
      obtain ⟨rfl, rfl, rfl⟩ := collapsed?_eq_some h
      simp [parts, h]
  | inclusion template ignoreMissing =>
    left
    unfold parts visited
    split <;> simp_all
  | assignment targets value body =>
    cases value <;> cases body <;> simp [parts, visited, Function.comp_def]
  | _ => simp [parts, visited, Function.comp_def]

theorem fst_mem_visited {o : Options} {n : Node} {p : Node × Bool} (h : p ∈ n.parts o) :
    p.1 ∈ n.visited := by
  rcases fst_parts o n with hparts | ⟨x, rfl, hparts⟩
  · rw [← hparts]
    exact List.mem_map_of_mem h
  · rw [hparts] at h
    cases h

/-- Why a node is refused before any of its parts is printed. -/
def refusal? : Node → Option PrintError
  | .forLoop _ _ _ (some _) => some (.construct Kind.forLoop.name "else_ is not handled")
  | .filter name _ => if name.filterName?.isNone then some (.unhandled name.kind.name) else none
  | .pair key _ => if key.keyText?.isNone then some (.unhandled key.kind.name) else none
  | .other name => some (.unhandled name)
  | _ => none

/-- Why a node is refused once its parts are printed. -/
def shortage? : Node → Option PrintError
  | .assignment _ none none =>
    some (.construct Kind.assignment.name "neither value nor body is present")
  | _ => none

/-- The nodes that the flag puts into a tag of their own. -/
def hasOwnTag : Node → Bool
  | .symbol _ | .lookup _ _ | .binary _ _ _ | .negation _ | .comparison _ _ | .inlineIf _ _ _
  | .filter _ _ | .seq .group _ => true
  | _ => false

/-- The printed form of a node without its own tag, from the printed forms of its parts. -/
def content (o : Options) : Node → List Fragment → Fragment
  | .seq .output children, fs => .seq (List.zipWith outputItem children fs)
  | .seq .group _, fs => .seq ["(", .seq fs, ")"]
  | .seq .dict _, fs => .wrap (.joined ", " fs) .brace true
  | .seq _ _, fs => .seq fs
  | .data text, _ => .text text
  | .symbol name, _ => .text name
  | .literal value, _ => .ofScalar value
  | .lookup _ _, [base, index] => .seq [base, "[", index, "]"]
  | .binary op left right, [l, r] =>
    if op.isLogical then .seq [l.coerce left, op.token, r.coerce right] else .seq [l, op.token, r]
  | .negation target, [inner] => .negation target inner
  | .comparison _ _, fs => .seq fs
  | .comparand _ op, [right] => .seq [" ", comparisonOp op, " ", right]
  | .ifBlock _ _ _, test :: body :: rest => .ifBlock test body rest.head?
  | .inlineIf test body alternative, [] => .text ((o.collapsed? test body alternative).getD "")
  | .inlineIf test _ _, tested :: chosen :: rest => .choice (tested.coerce test) chosen rest.head?
  | .forLoop _ _ _ _, [target, items, body] => .forBlock target items body
  | .filter name _, fs =>
    .filterCall (o.filterName (name.filterName?.getD "")) (fs.map (·.render))
  | .call _ _, name :: fs => .seq [name, "(", .text (", ".intercalate (fs.map (·.render))), ")"]
  | .inclusion (.literal (.string path)) ignoreMissing, _ =>
    .inclusion (.quoted (o.includePath path)) ignoreMissing
  | .inclusion _ ignoreMissing, [target] => .inclusion target ignoreMissing
  | .assignment _ (some _) _, fs => .assignment (.joined ", " fs.dropLast) (fs.getLastD (.seq []))
  | .assignment _ none (some _), fs =>
    .assignmentBlock (.joined ", " fs.dropLast) (fs.getLastD (.seq []))
  | .capture _, [body] => body
  | .pair key _, [value] => .seq [.quoted (key.keyText?.getD ""), ": ", value]
  | _, _ => .seq []

/-- The printed form of a node from those of its parts. -/
def assemble (o : Options) (wrap : Bool) (n : Node) (fs : List Fragment) : Fragment :=
  if n.hasOwnTag then .expression (n.content o fs) wrap else n.content o fs

theorem result_print_isLiteral (o : Options) (n : Node) :
    (n.print o n.isLiteral).result = (n.print o false).result := by
  cases n <;> simp [isLiteral, Node.print]

end Node

/-- The answers for parts, one after the other up to the first error. -/
def printParts (o : Options) (ps : List (Node × Bool)) : Except PrintError (List Fragment) :=
  ps.mapM fun p => (p.1.print o p.2).result

section PrintParts

variable (o : Options)

@[simp] theorem printParts_nil : printParts o [] = .ok [] := rfl

@[simp] theorem printParts_cons (p : Node × Bool) (ps : List (Node × Bool)) :
    printParts o (p :: ps) = (do
      let f ← (p.1.print o p.2).result
      let fs ← printParts o ps
      .ok (f :: fs)) := by
  simp [printParts]

theorem printParts_append (ps qs : List (Node × Bool)) :
    printParts o (ps ++ qs) = (do
      let fs ← printParts o ps
      let gs ← printParts o qs
      .ok (fs ++ gs)) := by
  simp [printParts]

theorem result_printAll (wrap : Node → Bool) (ns : List Node) :
    (printAll o wrap ns).result = printParts o (ns.map fun n => (n, wrap n)) := by
  induction ns with
  | nil => simp [printAll]
  | cons n rest ih => simp [printAll, Traced.result_bind, ih]

theorem printParts_isLiteral (ns : List Node) :
    printParts o (ns.map fun n => (n, n.isLiteral)) = printParts o (ns.map (·, false)) := by
  induction ns with
  | nil => rfl
  | cons n rest ih => simp [ih, Node.result_print_isLiteral]

theorem result_printOption (wrap : Bool) (n : Option Node) :
    (printOption o wrap n).result = (do
      let fs ← printParts o (n.toList.map (·, wrap))
      .ok fs.head?) := by
  cases n with
  | none => rfl
  | some n => simp [printOption, Traced.result_bind]

theorem result_renderOperands (ns : List Node) :
    (renderOperands o ns).result = (do
      let fs ← printParts o (ns.map (·, false))
      .ok (fs.map (·.render))) := by
  induction ns with
  | nil => rfl
  | cons n rest ih => simp [renderOperands, Traced.result_bind, ih, Node.result_print_isLiteral]

end PrintParts

namespace Node

theorem renderOperands_operands (o : Options) {args : Node}
    (h : ∀ entries, args = .seq .list entries → False) :
    renderOperands o args.operands = (do
      let printed ← args.print o args.isLiteral
      pure [printed.render]) := by
  rw [operands_eq_singleton h, renderOperands, renderOperands]
  rfl

/-- The printer tells a list of arguments from any other node; both are printed as operands. -/
theorem print_call (o : Options) (name args : Node) (wrap : Bool) :
    (call name args).print o wrap = Traced.after (.visit .call wrap) (do
      let name ← name.print o false
      let args ← renderOperands o args.operands
      pure (.seq [name, "(", .text (", ".intercalate args), ")"])) := by
  by_cases hargs : ∃ entries, args = .seq .list entries
  · obtain ⟨entries, rfl⟩ := hargs
    simp only [Node.print]
    rfl
  · have hsingle : ∀ entries, args = .seq .list entries → False := by simpa using hargs
    simp only [Node.print, renderOperands_operands o hsingle]
    rfl

theorem print_filter (o : Options) {name : Node} {old : String} (h : name.filterName? = some old)
    (args : Node) (wrap : Bool) :
    (filter name args).print o wrap = Traced.after (.visit .filter wrap) (do
      Traced.noteIf (o.filterName old != old) (.rename old (o.filterName old))
      let args ← renderOperands o args.operands
      pure (.expression (.filterCall (o.filterName old) args) wrap)) := by
  by_cases hargs : ∃ entries, args = .seq .list entries
  · obtain ⟨entries, rfl⟩ := hargs
    simp only [Node.print, h]
    rfl
  · have hsingle : ∀ entries, args = .seq .list entries → False := by simpa using hargs
    simp only [Node.print, h, renderOperands_operands o hsingle]
    rfl

section ResultPrint

attribute [local simp] Node.print refusal? parts shortage? assemble hasOwnTag content refuse
  Traced.result_bind Traced.result_noteIf Traced.result_coerce Traced.result_includePath
  result_print_isLiteral result_printAll result_printOption result_renderOperands

/-- The answer for a node, from the answers for its parts. -/
theorem result_print (o : Options) (n : Node) (wrap : Bool) :
    (n.print o wrap).result = (do
      refuse n.refusal?
      let fs ← printParts o (n.parts o)
      refuse n.shortage?
      .ok (n.assemble o wrap fs)) := by
  cases n with
  | seq form children => cases form <;> simp [printParts_isLiteral]
  | binary op left right => cases h : op.isLogical <;> simp [h]
  | inlineIf test body alternative =>
    cases h : o.collapsed? test body alternative with
    | none => simp [h]
    | some x =>
      obtain ⟨rfl, rfl, rfl⟩ := collapsed?_eq_some h
      simp [h]
  | forLoop target items body alternative => cases alternative <;> simp
  | filter name args =>
    cases h : name.filterName? with
    | none =>
      rw [Node.print.eq_def]
      simp [h]
    | some old =>
      rw [print_filter o h]
      simp [h]
  | call name args =>
    rw [print_call]
    simp
  | inclusion template ignoreMissing =>
    simp only [Node.print, refusal?, shortage?, refuse]
    split <;> simp
  | assignment targets value body =>
    cases value with
    | some value => simp [printParts_append]
    | none => cases body <;> simp [printParts_append]
  | pair key value => cases h : key.keyText? <;> simp [h]
  | _ => simp

end ResultPrint

/-- A node is printed when nothing speaks against it and its parts are printed. -/
theorem result_print_eq_ok_iff {o : Options} {n : Node} {wrap : Bool} {f : Fragment} :
    (n.print o wrap).result = .ok f ↔
      n.refusal? = none ∧ n.shortage? = none ∧
        ∃ fs, printParts o (n.parts o) = .ok fs ∧ n.assemble o wrap fs = f := by
  simp only [result_print, bind_eq_ok_iff, refuse_eq_ok_iff, Except.ok.injEq]
  constructor
  · rintro ⟨-, hbefore, fs, hfs, -, hafter, rfl⟩
    exact ⟨hbefore, hafter, fs, hfs, rfl⟩
  · rintro ⟨hbefore, hafter, fs, hfs, rfl⟩
    exact ⟨(), hbefore, fs, hfs, (), hafter, rfl⟩

theorem result_toTwig (o : Options) (root : Node) :
    (root.toTwig o).result = (do
      let f ← (root.print o false).result
      .ok f.render) := by
  simp [toTwig, toFragment, Traced.result_bind]

end Node
end TwigPrinter
