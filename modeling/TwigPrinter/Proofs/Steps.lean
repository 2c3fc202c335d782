import TwigPrinter.Proofs.Parts
/-!
What printing a node notes down, taken apart. Apart from its value a computation leaves a log, the
events and the error it ends with. `Node.steps` lists what printing a node does one after the other:
it notes an event, prints a part, or stops. Its log is that of the steps up to the first one that
fails (`Node.takes_steps`), and what is proved about events starts from that.
-/
namespace TwigPrinter

structure Log where
  events : List Event
  error? : Option PrintError

namespace Log

def andThen (a b : Log) : Log :=
  match a.error? with
  | some _ => a
  | none => ⟨a.events ++ b.events, b.error?⟩

theorem andThen_of_some {a : Log} {e : PrintError} (h : a.error? = some e) (b : Log) :
    a.andThen b = a := by
  simp [andThen, h]

theorem andThen_of_none {a : Log} (h : a.error? = none) (b : Log) :
    a.andThen b = ⟨a.events ++ b.events, b.error?⟩ := by
  simp [andThen, h]

theorem andThen_assoc (a b c : Log) : (a.andThen b).andThen c = a.andThen (b.andThen c) := by
  cases ha : a.error? with
  | some e => rw [andThen_of_some ha, andThen_of_some ha, andThen_of_some ha]
  | none => cases hb : b.error? <;> simp [andThen, ha, hb]

/-- One log after the other, up to the first one with an error. -/
def inTurn (logs : List Log) : Log := logs.foldr andThen ⟨[], none⟩

@[simp] theorem inTurn_nil : inTurn [] = ⟨[], none⟩ := rfl

@[simp] theorem inTurn_cons (a : Log) (logs : List Log) :
    inTurn (a :: logs) = a.andThen (inTurn logs) := rfl

theorem inTurn_singleton (a : Log) : inTurn [a] = a := by
  obtain ⟨events, _ | e⟩ := a <;> simp [andThen]

theorem inTurn_append (as bs : List Log) : inTurn (as ++ bs) = (inTurn as).andThen (inTurn bs) := by
  induction as with
  | nil => simp [andThen]
  | cons a as ih => rw [List.cons_append, inTurn_cons, inTurn_cons, ih, andThen_assoc]

theorem inTurn_of_none {logs : List Log} (h : (inTurn logs).error? = none) :
    (∀ a ∈ logs, a.error? = none) ∧ (inTurn logs).events = logs.flatMap events := by
  induction logs with
  | nil => simp
  | cons a logs ih =>
    rw [inTurn_cons] at h ⊢
    cases ha : a.error? with
    | some e => simp [andThen_of_some ha, ha] at h
    | none =>
      rw [andThen_of_none ha] at h ⊢
      obtain ⟨hlogs, hevents⟩ := ih h
      exact ⟨List.forall_mem_cons.2 ⟨ha, hlogs⟩, by rw [List.flatMap_cons, hevents]⟩

end Log

namespace Traced

variable {α β : Type}

def log (x : Traced α) : Log := ⟨x.events, errorOf? x.result⟩

theorem log_bind {x : Traced α} {f : α → Traced β} {l : Log} (h : ∀ a, (f a).log = l) :
    (x >>= f).log = x.log.andThen l := by
  cases hx : x.result with
  | error e => simp [log, Log.andThen, events_bind_error f hx, result_bind, hx]
  | ok a =>
    obtain rfl := h a
    simp [log, Log.andThen, events_bind_ok f hx, result_bind, hx]

end Traced

/-- One step of printing a node. A computation that stops may note a warning first. -/
inductive Step where
  | note (event : Event)
  | part (n : Node) (wrap : Bool)
  | stop (warning : Option Event) (error : PrintError)

namespace Step

def log (o : Options) : Step → Log
  | .note event => ⟨[event], none⟩
  | .part n wrap => (n.print o wrap).log
  | .stop warning error => ⟨warning.toList, some error⟩

def noteIf (condition : Bool) (event : Event) : List Step :=
  if condition then [.note event] else []

/-- An operand is printed with a flag that says whether it is a literal. -/
def operand (n : Node) : Step := .part n n.isLiteral

def truthTest (n : Node) : List Step := noteIf n.isBareVariable (.truthTest n.kind)

end Step

/-- The steps that printing a node takes after it is noted that printing has come to it. -/
def Node.steps (o : Options) (wrap : Bool) : Node → List Step
  | .seq .output children => children.map (.part · true)
  | .seq .list children => children.map .operand
  | .seq _ children => children.map (.part · false)
  | .data _ | .symbol _ | .literal _ => []
  | .lookup target key => [.part target false, .operand key]
  | .binary op left right =>
    [.operand left, .operand right] ++
      if op.isLogical then Step.truthTest left ++ Step.truthTest right else []
  | .negation target => [.part target false]
  | .comparison first rest => .operand first :: rest.map (.part · false)
  | .comparand operand _ => [.operand operand]
  | .ifBlock test body alternative =>
    [.part test false, .part body true] ++ alternative.toList.map (.part · true)
  | .inlineIf test body alternative =>
    match o.collapsed? test body alternative with
    | some x => [.note (.collapse x), .part body wrap]
    | none =>
      .part test false :: (Step.truthTest test ++
        .part body false :: alternative.toList.map (.part · false))
  | .forLoop _ _ _ (some _) =>
    [.stop (some .loopAlternative) (.construct Kind.forLoop.name "else_ is not handled")]
  | .forLoop target items body none => [.part target false, .part items false, .part body true]
  | .filter name args =>
    match name.filterName? with
    | none => [.stop none (.unhandled name.kind.name)]
    | some old =>
      Step.noteIf (o.filterName old != old) (.rename old (o.filterName old)) ++
        args.operands.map .operand
  | .call name args => .part name false :: args.operands.map .operand
  | .inclusion (.literal (.string path)) _ => Step.noteIf (o.includePath path != path) (.strip path)
  | .inclusion template _ => [.part template false]
  | .assignment targets (some value) _ => targets.map (.part · false) ++ [.part value false]
  | .assignment targets none (some body) => targets.map (.part · false) ++ [.part body true]
  | .assignment targets none none =>
    targets.map (.part · false) ++
      [.stop none (.construct Kind.assignment.name "neither value nor body is present")]
  | .capture body => [.part body true]
  | .pair key value =>
    match key.keyText? with
    | none => [.stop none (.unhandled key.kind.name)]
    | some _ => [.part value false]
  | .other name => [.stop (some (.noRule name)) (.unhandled name)]

/-- The computation leaves the log of the steps. -/
def Traced.Takes {α : Type} (o : Options) (x : Traced α) (steps : List Step) : Prop :=
  x.log = Log.inTurn (steps.map (Step.log o))

namespace Traced

variable {α β : Type} {o : Options} {x : Traced α} {ss ts : List Step}

theorem takes_pure (a : α) : (pure a : Traced α).Takes o [] := rfl

theorem Takes.bind {f : α → Traced β} (hx : x.Takes o ss) (hf : ∀ a, (f a).Takes o ts) :
    (x >>= f).Takes o (ss ++ ts) := by
  unfold Takes
  rw [log_bind hf, hx, List.map_append, Log.inTurn_append]

/-- A last step that only makes a value adds nothing. -/
theorem Takes.bind_pure {f : α → β} (hx : x.Takes o ss) :
    (x >>= fun a => pure (f a)).Takes o ss := by
  simpa using hx.bind fun a => takes_pure (f a)

theorem takes_print (n : Node) (wrap : Bool) : (n.print o wrap).Takes o [.part n wrap] :=
  (Log.inTurn_singleton _).symm

theorem takes_operand (n : Node) : (n.print o n.isLiteral).Takes o [.operand n] :=
  takes_print n n.isLiteral

theorem takes_noteIf (condition : Bool) (event : Event) :
    (Traced.noteIf condition event).Takes o (Step.noteIf condition event) := by
  cases condition <;> rfl

theorem takes_fail (e : PrintError) : (fail e : Traced α).Takes o [.stop none e] := rfl

theorem takes_warning (warning : Event) (e : PrintError) :
    (note warning >>= fun _ => (fail e : Traced α)).Takes o [.stop (some warning) e] := rfl

theorem takes_coerce (source : Node) (printed : Fragment) :
    (Traced.coerce source printed).Takes o (Step.truthTest source) :=
  (takes_noteIf _ _).bind_pure

theorem takes_includePath (path : String) :
    (Traced.includePath o path).Takes o (Step.noteIf (o.includePath path != path) (.strip path)) :=
  (takes_noteIf _ _).bind_pure

theorem takes_printAll (wrap : Node → Bool) (ns : List Node) :
    (printAll o wrap ns).Takes o (ns.map fun n => .part n (wrap n)) := by
  induction ns with
  | nil => exact takes_pure []
  | cons n rest ih =>
    rw [printAll]
    exact (takes_print n (wrap n)).bind fun _ => ih.bind_pure

theorem takes_renderOperands (ns : List Node) :
    (renderOperands o ns).Takes o (ns.map .operand) := by
  induction ns with
  | nil => exact takes_pure []
  | cons n rest ih =>
    rw [renderOperands]
    exact (takes_operand n).bind fun _ => ih.bind_pure

theorem takes_printOption (wrap : Bool) (n : Option Node) :
    (printOption o wrap n).Takes o (n.toList.map (.part · wrap)) := by
  cases n with
  | none => exact takes_pure none
  | some n => exact (takes_print n wrap).bind_pure

end Traced

namespace Node

open Traced

theorem takes_of_body {o : Options} {n : Node} {wrap : Bool} {body : Traced Fragment}
    {ss : List Step} (hprint : n.print o wrap = after (.visit n.kind wrap) body)
    (hbody : body.Takes o ss) : (n.print o wrap).Takes o (.note (.visit n.kind wrap) :: ss) := by
  unfold Takes at hbody ⊢
  rw [hprint, List.map_cons, Log.inTurn_cons, ← hbody]
  rfl

/-- Printing a node notes that it has come to the node and then takes its steps. -/
theorem takes_steps (o : Options) (n : Node) (wrap : Bool) :
    (n.print o wrap).Takes o (.note (.visit n.kind wrap) :: n.steps o wrap) := by
  cases n with
  | seq form children =>
    cases form <;> exact takes_of_body (Node.print.eq_def ..) (takes_printAll _ children).bind_pure
  | data | symbol | literal => exact takes_of_body (Node.print.eq_def ..) (takes_pure _)
  | lookup target key =>
    exact takes_of_body (Node.print.eq_def ..)
      ((takes_print target false).bind fun _ => (takes_operand key).bind_pure)
  | binary op left right =>
    refine takes_of_body (Node.print.eq_def ..)
      ((takes_operand left).bind fun l => (takes_operand right).bind fun r => ?_)
    cases op.isLogical with
    | false => exact takes_pure _
    | true => exact (takes_coerce left l).bind fun _ => (takes_coerce right r).bind_pure
  | negation target =>
    exact takes_of_body (Node.print.eq_def ..) (takes_print target false).bind_pure
  | comparison first rest =>
    exact takes_of_body (Node.print.eq_def ..)
      ((takes_operand first).bind fun _ => (takes_printAll _ rest).bind_pure)
  | comparand operand op =>
    exact takes_of_body (Node.print.eq_def ..) (takes_operand operand).bind_pure
  | ifBlock test body alternative =>
    exact takes_of_body (Node.print.eq_def ..) ((takes_print test false).bind fun _ =>
      (takes_print body true).bind fun _ => (takes_printOption true alternative).bind_pure)
  | inlineIf test body alternative =>
    refine takes_of_body (Node.print.eq_def ..) ?_
    dsimp only [steps]
    cases o.collapsed? test body alternative with
    | some x => exact (takes_noteIf true (.collapse x)).bind fun _ => takes_print body wrap
    | none =>
      exact (takes_print test false).bind fun printed => (takes_coerce test printed).bind fun _ =>
        (takes_print body false).bind fun _ => (takes_printOption false alternative).bind_pure
  | forLoop target items body alternative =>
    refine takes_of_body (Node.print.eq_def ..) ?_
    cases alternative with
    | some _ => exact takes_warning _ _
    | none =>
      exact (takes_print target false).bind fun _ => (takes_print items false).bind fun _ =>
        (takes_print body true).bind_pure
  | filter name args =>
    cases hname : name.filterName? with
    | none =>
      refine takes_of_body (Node.print.eq_def ..) ?_
      simpa [steps, hname] using takes_fail _
    | some old =>
      refine takes_of_body (print_filter o hname args wrap) ?_
      simpa [steps, hname] using (takes_noteIf _ _).bind fun _ =>
        (takes_renderOperands args.operands).bind_pure
  | call name args =>
    exact takes_of_body (print_call o name args wrap)
      ((takes_print name false).bind fun _ => (takes_renderOperands args.operands).bind_pure)
  | inclusion template ignoreMissing =>
    refine takes_of_body (Node.print.eq_def ..) ?_
    by_cases hpath : ∃ path, template = .literal (.string path)
    · obtain ⟨path, rfl⟩ := hpath
      exact (takes_includePath path).bind_pure
    · have hne : ∀ path, template = .literal (.string path) → False := by simpa using hpath
      simpa [steps] using (takes_print template false).bind_pure
  | assignment targets value body =>
    refine takes_of_body (Node.print.eq_def ..) ?_
    have htargets := takes_printAll (o := o) (fun _ => false) targets
    cases value with
    | some value => exact htargets.bind fun _ => (takes_print value false).bind_pure
    | none =>
      cases body with
      | some body => exact htargets.bind fun _ => (takes_print body true).bind_pure
      | none => exact htargets.bind fun _ => takes_fail _
  | capture body => exact takes_of_body (Node.print.eq_def ..) (takes_print body true)
  | pair key value =>
    refine takes_of_body (Node.print.eq_def ..) ?_
    dsimp only [steps]
    cases key.keyText? with
    | none => exact takes_fail _
    | some text => exact (takes_print value false).bind_pure
  | other name => exact takes_of_body (Node.print.eq_def ..) (takes_warning _ _)

theorem events_toTwig {o : Options} {root : Node} {f : Fragment}
    (h : (root.print o false).result = .ok f) :
    (root.toTwig o).events = (root.print o false).events ++ [.finish f.render.utf8ByteSize] :=
  Traced.events_bind_ok _ h

/-- The last that is noted, if nothing went wrong, is the size of the source. -/
theorem log_toTwig (o : Options) (root : Node) :
    ∃ bytes, (root.toTwig o).log = (root.print o false).log.andThen ⟨[.finish bytes], none⟩ := by
  cases h : (root.print o false).result with
  | error e =>
    refine ⟨0, ?_⟩
    simp [Traced.log, Log.andThen, toTwig, toFragment, Traced.events_bind_error _ h,
      Traced.result_bind, h]
  | ok f =>
    refine ⟨f.render.utf8ByteSize, ?_⟩
    simp [Traced.log, events_toTwig h, result_toTwig, h, Log.andThen]

end Node
end TwigPrinter
