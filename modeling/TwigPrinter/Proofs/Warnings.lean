import TwigPrinter.Proofs.Faults
import TwigPrinter.Proofs.Steps
import TwigPrinter.Template.Build
/-!
Warnings in the log of a template that cannot be printed. The first node at fault ends the printing.
Two kinds of faults are announced by a warning, which is then the last event and the only one of its
level: a node without Twig source and a loop with an alternative. Nothing is noted for the others,
an assignment without anything to assign and names of filters and keys of pairs that are not names.
-/
namespace TwigPrinter
namespace Node

def isFaulty (n : Node) : Bool := n.fault?.isSome

/-- The warning that announces the fault of a node. -/
def warning? : Node → Option Event
  | .other name => some (.noRule name)
  | .forLoop _ _ _ (some _) => some .loopAlternative
  | _ => none

theorem isSome_warning? (n : Node) : n.warning?.isSome = n.isUnprintable := by
  cases n with
  | forLoop target items body alternative => cases alternative <;> rfl
  | _ => rfl

theorem level_of_warning? {n : Node} {w : Event} (h : n.warning? = some w) : w.level = .warn := by
  unfold warning? at h
  split at h <;> simp_all [Event.level] <;> subst h <;> rfl

end Node

namespace Log

def warnings (l : Log) : List Event := l.events.filter (·.level = .warn)

/-- The log ends at a fault of the node, if there is one, and announces it as is due. -/
structure BlamedOn (l : Log) (m : Option Node) : Prop where
  error : l.error? = m.bind Node.fault?
  faulty : ∀ n ∈ m, n.isFaulty
  warnings : l.warnings = (m.bind Node.warning?).toList
  last : ∀ w ∈ m.bind Node.warning?, l.events.getLast? = some w

theorem blamedOn_note {e : Event} (h : e.level ≠ .warn) : BlamedOn ⟨[e], none⟩ none :=
  ⟨rfl, by simp, by simp [Log.warnings, h], by simp⟩

theorem blamedOn_nil : BlamedOn ⟨[], none⟩ none := ⟨rfl, by simp, rfl, by simp⟩

theorem blamedOn_stop {n : Node} {e : PrintError} (h : n.fault? = some e) :
    BlamedOn ⟨n.warning?.toList, some e⟩ (some n) where
  error := by simp [h]
  faulty := by simp [Node.isFaulty, h]
  warnings := by
    cases hw : n.warning? with
    | none => simp [Log.warnings, hw]
    | some w => simp [Log.warnings, hw, Node.level_of_warning? hw]
  last := by
    intro w hw
    obtain hw : n.warning? = some w := by simpa using hw
    simp [hw]

theorem BlamedOn.andThen {a b : Log} {m m' : Option Node} (ha : a.BlamedOn m) (hb : b.BlamedOn m') :
    (a.andThen b).BlamedOn (m.or m') := by
  cases m with
  | some n =>
    obtain ⟨e, he⟩ : ∃ e, n.fault? = some e := Option.isSome_iff_exists.1 (ha.faulty n rfl)
    have herror : a.error? = some e := by simp [ha.error, he]
    rw [andThen_of_some herror]
    exact ha
  | none =>
    have hquiet : a.events.filter (·.level = .warn) = [] := ha.warnings
    rw [andThen_of_none ha.error]
    refine ⟨hb.error, hb.faulty, ?_, ?_⟩
    · simpa [Log.warnings, hquiet] using hb.warnings
    · intro w hw
      simp [hb.last w hw]

theorem blamedOn_inTurn {α : Type} {log : α → Log} {blame : α → Option Node} {xs : List α}
    (h : ∀ x ∈ xs, (log x).BlamedOn (blame x)) :
    (inTurn (xs.map log)).BlamedOn (xs.findSome? blame) := by
  induction xs with
  | nil => exact blamedOn_nil
  | cons x rest ih =>
    have hrest := ih fun y hy => h y (List.mem_cons_of_mem x hy)
    have hturn := (h x List.mem_cons_self).andThen hrest
    rw [List.findSome?_cons]
    cases hx : blame x <;> simpa [hx] using hturn

end Log

namespace Node

/-- The node whose fault ends the step. -/
def blamed? (n : Node) : Step → Option Node
  | .note _ => none
  | .part m _ => m.judged.find? isFaulty
  | .stop _ _ => some n

/-- What a step of a node can be. -/
def Permits (n : Node) : Step → Prop
  | .note e => e.level = .debug
  | .part m _ => m ∈ n.visited
  | .stop warning e => warning = n.warning? ∧ n.fault? = some e

section Permits

variable (n m : Node)

theorem permits_note (e : Event) : n.Permits (.note e) ↔ e.level = .debug := Iff.rfl

theorem permits_part (w : Bool) : n.Permits (.part m w) ↔ m ∈ n.visited := Iff.rfl

theorem permits_operand : n.Permits (.operand m) ↔ m ∈ n.visited := Iff.rfl

theorem permits_stop (warning : Option Event) (e : PrintError) :
    n.Permits (.stop warning e) ↔ warning = n.warning? ∧ n.fault? = some e := Iff.rfl

theorem permits_noteIf (condition : Bool) (e : Event) :
    (∀ s ∈ Step.noteIf condition e, n.Permits s) ↔ (condition = true → e.level = .debug) := by
  cases condition <;> simp [Step.noteIf, permits_note]

attribute [local simp] steps visited permits_note permits_part permits_operand permits_stop
  permits_noteIf Step.truthTest or_imp forall_and Event.level warning? refusal? shortage?
  isAssignment fault?_eq

theorem permits_steps (o : Options) (wrap : Bool) : ∀ s ∈ n.steps o wrap, n.Permits s := by
  cases n with
  | seq form children => cases form <;> simp
  | binary op left right => cases hop : op.isLogical <;> simp [hop]
  | comparison first rest => simp +contextual
  | ifBlock test body alternative => cases alternative <;> simp
  | inlineIf test body alternative =>
    dsimp only [steps]
    cases o.collapsed? test body alternative with
    | some x => simp
    | none => cases alternative <;> simp
  | forLoop target items body alternative => cases alternative <;> simp
  | filter name args => cases h : name.filterName? <;> simp [h]
  | call name args => simp +contextual
  | inclusion template ignoreMissing =>
    by_cases hpath : ∃ path, template = .literal (.string path)
    · obtain ⟨path, rfl⟩ := hpath
      simp
    · have hne : ∀ path, template = .literal (.string path) → False := by simpa using hpath
      simp
  | assignment targets value body => cases value <;> cases body <;> simp +contextual
  | pair key value => cases h : key.keyText? <;> simp [h]
  | _ => simp

end Permits

theorem find?_judged (n : Node) :
    n.judged.find? isFaulty =
      (if n.refusal?.isSome then some n else none).or
        ((n.visited.findSome? fun m => m.judged.find? isFaulty).or
          (if n.shortage?.isSome then some n else none)) := by
  rw [judged_eq]
  cases h : n.isAssignment with
  | true =>
    have hself : n.isFaulty = n.shortage?.isSome := by simp [isFaulty, fault?_eq, h]
    cases hs : n.shortage?.isSome <;> simp [refusal?_of_assignment h, List.find?_flatMap, hself, hs]
  | false =>
    have hself : n.isFaulty = n.refusal?.isSome := by simp [isFaulty, fault?_eq, h]
    cases hs : n.refusal?.isSome <;>
      simp [shortage?_of_not_assignment h, List.find?_flatMap, hself, hs]

section Search

variable (n m : Node)

theorem blamed?_note (e : Event) : n.blamed? (.note e) = none := rfl

theorem blamed?_part (w : Bool) : n.blamed? (.part m w) = m.judged.find? isFaulty := rfl

theorem blamed?_operand : n.blamed? (.operand m) = m.judged.find? isFaulty := rfl

theorem blamed?_stop (warning : Option Event) (e : PrintError) :
    n.blamed? (.stop warning e) = some n := rfl

theorem findSome?_noteIf (condition : Bool) (e : Event) :
    (Step.noteIf condition e).findSome? n.blamed? = none := by
  cases condition <;> rfl

attribute [local simp] steps visited blamed?_note blamed?_part blamed?_operand blamed?_stop
  findSome?_noteIf Step.truthTest List.findSome?_map Function.comp_def List.findSome?_cons
  refusal? shortage?

theorem findSome?_steps (o : Options) (wrap : Bool) :
    (n.steps o wrap).findSome? n.blamed? = n.judged.find? isFaulty := by
  rw [find?_judged]
  cases n with
  | seq form children => cases form <;> simp
  | binary op left right => cases hop : op.isLogical <;> simp [hop]
  | inlineIf test body alternative =>
    cases h : o.collapsed? test body alternative with
    | none => simp [h]
    | some x =>
      -- the test that is not printed is a name, which is never at fault
      obtain ⟨rfl, rfl, rfl⟩ := collapsed?_eq_some h
      have hname : (Node.symbol x).judged.find? isFaulty = none := find?_judged _
      simp [h, hname]
  | forLoop target items body alternative => cases alternative <;> simp
  | filter name args => cases h : name.filterName? <;> simp [h]
  | inclusion template ignoreMissing =>
    by_cases hpath : ∃ path, template = .literal (.string path)
    · obtain ⟨path, rfl⟩ := hpath
      simp
    · have hne : ∀ path, template = .literal (.string path) → False := by simpa using hpath
      simp
  | assignment targets value body => cases value <;> cases body <;> simp
  | pair key value => cases h : key.keyText? <;> simp [h]
  | _ => simp

end Search

/-- Printing a node ends at the first node at fault. -/
theorem blamedOn_print (o : Options) (n : Node) (wrap : Bool) :
    (n.print o wrap).log.BlamedOn (n.judged.find? isFaulty) := by
  induction n using visited_induction generalizing wrap with
  | step n ih =>
    have hsteps : ∀ s ∈ n.steps o wrap, (s.log o).BlamedOn (n.blamed? s) := by
      intro s hs
      have hpermits := permits_steps n o wrap s hs
      cases s with
      | note e =>
        have hlevel : e.level = .debug := hpermits
        exact Log.blamedOn_note (by simp [hlevel])
      | part m w => exact ih m hpermits w
      | stop warning e =>
        obtain ⟨rfl, he⟩ := hpermits
        exact Log.blamedOn_stop he
    have hvisit : Log.BlamedOn ⟨[.visit n.kind wrap], none⟩ none :=
      Log.blamedOn_note (by simp [Event.level])
    rw [takes_steps o n wrap, ← findSome?_steps n o wrap]
    exact hvisit.andThen (Log.blamedOn_inTurn hsteps)

theorem blamedOn_toTwig (o : Options) (root : Node) :
    (root.toTwig o).log.BlamedOn (root.judged.find? isFaulty) := by
  obtain ⟨bytes, hlog⟩ := log_toTwig o root
  have hfinish := Log.blamedOn_note (e := .finish bytes) (by simp [Event.level])
  rw [hlog]
  simpa using (blamedOn_print o root false).andThen hfinish

/-- A template that is printed has no warnings. One that is not ends at the first node at fault:
when that is a node without Twig source or a loop with an alternative, a warning is the last event
and no other event is one; at any other fault there is no warning at all. -/
theorem toTwig_warns_of_unprintable_only (o : Options) (root : Node) :
    (∀ source, (root.toTwig o).result = .ok source →
      ∀ e ∈ (root.toTwig o).events, e.level ≠ .warn) ∧
    ∀ error, (root.toTwig o).result = .error error →
      ∃ m, root.judged.find? isFaulty = some m ∧ m.fault? = some error ∧
        (m.isUnprintable = true → ∃ before w, (root.toTwig o).events = before ++ [w] ∧
          w.level = .warn ∧ ∀ e ∈ before, e.level ≠ .warn) ∧
        (m.isUnprintable = false → ∀ e ∈ (root.toTwig o).events, e.level ≠ .warn) := by
  obtain ⟨herror, hfaulty, hwarnings, hlast⟩ := blamedOn_toTwig o root
  have hquiet : (root.judged.find? isFaulty).bind warning? = none →
      ∀ e ∈ (root.toTwig o).events, e.level ≠ .warn := by
    intro h
    rw [h] at hwarnings
    simpa [Log.warnings, Traced.log] using hwarnings
  constructor
  · intro source hsource
    apply hquiet
    cases hm : root.judged.find? isFaulty with
    | none => rfl
    | some m =>
      obtain ⟨e, he⟩ := Option.isSome_iff_exists.1 (hfaulty m hm)
      simp [Traced.log, hsource, hm, he] at herror
  · intro error hfailed
    have hsome : (root.judged.find? isFaulty).bind fault? = some error := by
      simpa [Traced.log, hfailed] using herror.symm
    obtain ⟨m, hm, hfault⟩ := Option.bind_eq_some_iff.1 hsome
    refine ⟨m, hm, hfault, fun hbad => ?_, fun hgood => hquiet ?_⟩
    · rw [← isSome_warning?] at hbad
      obtain ⟨w, hw⟩ := Option.isSome_iff_exists.1 hbad
      have hends : (root.toTwig o).events.getLast? = some w := hlast w (by simp [hm, hw])
      obtain ⟨before, hbefore⟩ := List.getLast?_eq_some_iff.1 hends
      have hlevel := level_of_warning? hw
      refine ⟨before, w, hbefore, hlevel, ?_⟩
      simpa [Log.warnings, Traced.log, hbefore, hm, hw, hlevel] using hwarnings
    · simpa [hm, ← isSome_warning?] using hgood

/-- A node without Twig source is announced from inside of a loop. -/
theorem toTwig_warns_of_macro_in_loop :
    ((loop (.symbol "x") (.symbol "xs") [.other "Macro"]).toTwig {}).result =
        .error (.unhandled "Macro") ∧
      ∃ before w, ((loop (.symbol "x") (.symbol "xs") [.other "Macro"]).toTwig {}).events =
        before ++ [w] ∧ w.level = .warn ∧ ∀ e ∈ before, e.level ≠ .warn := by
  have hfailed : ((loop (.symbol "x") (.symbol "xs") [.other "Macro"]).toTwig {}).result =
      .error (.unhandled "Macro") := rfl
  obtain ⟨m, hm, -, hannounced, -⟩ := (toTwig_warns_of_unprintable_only {} _).2 _ hfailed
  obtain rfl : Node.other "Macro" = m := by
    simpa [loop, list, judged_eq, visited, isAssignment, isFaulty, fault?] using hm
  exact ⟨hfailed, hannounced rfl⟩

/-- An assignment of nothing fails, and so do a filter and a pair whose names are outputs, without
any warning. -/
theorem toTwig_fails_without_warning :
    ((assignment [.symbol "x"] none none).toTwig {}).result =
        .error (.construct "Set" "neither value nor body is present") ∧
      ((filter (.seq .output []) (list [])).toTwig {}).result = .error (.unhandled "Output") ∧
      ((pair (.seq .output []) (.symbol "x")).toTwig {}).result = .error (.unhandled "Output") ∧
      ∀ n ∈ [assignment [.symbol "x"] none none, filter (.seq .output []) (list []),
          pair (.seq .output []) (.symbol "x")],
        ∀ e ∈ (n.toTwig {}).events, e.level ≠ .warn := by
  exact ⟨rfl, rfl, rfl, by decide⟩

end Node
end TwigPrinter
