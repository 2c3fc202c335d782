import Mathlib.Data.List.Perm.Basic
import TwigPrinter.Proofs.Desugaring
import TwigPrinter.Proofs.Quotations
import TwigPrinter.Proofs.Visits
/-!
What a successful printing notes besides the nodes it comes to. A node calls for notes about what
printing it changes (`Node.rewrites`): truth tests that are spelled out, a filter that is renamed, a
path that is shortened, a conditional that is collapsed. The log has the notes of the nodes that
printing comes to and no others. It has them once each, although the text of an operand can be printed
twice, and not in the order of the nodes, since a truth test is noted after its operands.
-/
namespace TwigPrinter

open scoped List

namespace Node

variable (o : Options)

def isSelfConditional : Node → Bool
  | .inlineIf (.symbol x) (.symbol y) none => x == y
  | _ => false

/-- The nodes that a node asks for their truth value. -/
def tested : Node → List Node
  | .binary op left right => if op.isLogical then [left, right] else []
  | .inlineIf test body alternative =>
    if o.collapseSelfConditional && isSelfConditional (.inlineIf test body alternative) then []
    else [test]
  | _ => []

def renamed? : Node → Option String
  | .filter name _ => name.filterName?.filter fun old => o.filterName old != old
  | _ => none

/-- The path of an included template, if it begins with the mark of relative paths. -/
def stripped? : Node → Option String
  | .inclusion (.literal (.string path)) _ =>
    if o.includePrefix != "" && o.includePrefix.toList.isPrefixOf path.toList then some path else none
  | .inclusion _ _ | _ => none

def truthNotes (ns : List Node) : List Event :=
  (ns.filter isBareVariable).map fun n => .truthTest n.kind

/-- What printing a node notes besides that it has come to the node. -/
def rewrites (n : Node) : List Event :=
  truthNotes (n.tested o) ++ (n.renamed? o).toList.map (fun old => .rename old (o.filterName old)) ++
    (n.stripped? o).toList.map .strip ++ (n.collapsedTo? o).toList.map .collapse

theorem isSome_collapsed? (test body : Node) (alternative : Option Node) :
    (o.collapsed? test body alternative).isSome =
      (o.collapseSelfConditional && isSelfConditional (.inlineIf test body alternative)) := by
  rw [Bool.eq_iff_iff, Bool.and_eq_true]
  constructor
  · intro h
    obtain ⟨x, hx⟩ := Option.isSome_iff_exists.1 h
    obtain ⟨rfl, rfl, rfl⟩ := collapsed?_eq_some hx
    cases ho : o.collapseSelfConditional <;> simp_all [Options.collapsed?, isSelfConditional]
  · rintro ⟨ho, hself⟩
    unfold isSelfConditional at hself
    split at hself
    · simp_all [Options.collapsed?, selfConditional?]
    · cases hself

theorem isSome_collapsedTo? (n : Node) :
    (n.collapsedTo? o).isSome = (o.collapseSelfConditional && n.isSelfConditional) := by
  cases n with
  | inlineIf test body alternative => exact isSome_collapsed? o test body alternative
  | _ => simp [collapsedTo?, isSelfConditional]

theorem includePath_ne (path : String) :
    (o.includePath path != path) =
      (o.includePrefix != "" && o.includePrefix.toList.isPrefixOf path.toList) := by
  by_cases hmark : ∃ rest, path = o.includePrefix ++ rest
  · obtain ⟨rest, hrest⟩ := hmark
    have hshorter : rest = path ↔ o.includePrefix = "" := by
      rw [hrest, ← String.toList_inj, ← String.toList_inj]
      simp
    rw [Options.includePath_append hrest, isPrefixOf_toList_iff.2 ⟨rest, hrest⟩, Bool.and_true,
      Bool.eq_iff_iff, bne_iff_ne, bne_iff_ne, Ne, hshorter]
  · have hnot : o.includePrefix.toList.isPrefixOf path.toList = false := by
      rwa [← Bool.not_eq_true, isPrefixOf_toList_iff]
    rw [Options.includePath_of_ne (by simpa using hmark), hnot]
    simp

end Node

namespace Step

def event? : Step → Option Event
  | .note e => some e
  | _ => none

section Simp

variable (n : Node) (wrap condition : Bool) (e : Event) (warning : Option Event) (error : PrintError)

@[simp] theorem event?_note : (note e).event? = some e := rfl
@[simp] theorem event?_part : (part n wrap).event? = none := rfl
@[simp] theorem event?_operand : (operand n).event? = none := rfl
@[simp] theorem event?_stop : (stop warning error).event? = none := rfl

@[simp] theorem filterMap_event?_noteIf :
    (noteIf condition e).filterMap event? = if condition then [e] else [] := by
  cases condition <;> rfl

@[simp] theorem filterMap_event?_truthTest :
    (truthTest n).filterMap event? = Node.truthNotes [n] := by
  cases h : n.isBareVariable <;> simp [truthTest, Node.truthNotes, h]

end Simp
end Step

namespace Node

variable (o : Options)

section Notes

attribute [local simp] steps List.filterMap_cons List.filterMap_map Function.comp_def rewrites
  tested renamed? stripped? collapsedTo?

theorem filterMap_event?_steps (n : Node) (wrap : Bool) :
    (n.steps o wrap).filterMap Step.event? = n.rewrites o := by
  cases n with
  | seq form children => cases form <;> simp [truthNotes]
  | binary op left right =>
    cases h : op.isLogical <;> simp [h, truthNotes, ← List.map_append, ← List.filter_append]
  | inlineIf test body alternative =>
    cases h : o.collapsed? test body alternative <;> simp [h, ← isSome_collapsed?, truthNotes]
  | forLoop target items body alternative => cases alternative <;> simp [truthNotes]
  | filter name args =>
    cases h : name.filterName? with
    | none => simp [h, truthNotes]
    | some old => cases hold : o.filterName old != old <;> simp_all [truthNotes, Option.filter]
  | inclusion template ignoreMissing =>
    by_cases hpath : ∃ path, template = .literal (.string path)
    · obtain ⟨path, rfl⟩ := hpath
      cases hmark : o.includePath path != path <;> simp_all [truthNotes, ← includePath_ne]
    · have hne : ∀ path, template = .literal (.string path) → False := by simpa using hpath
      simp [truthNotes]
  | assignment targets value body => cases value <;> cases body <;> simp [truthNotes]
  | pair key value => cases h : key.keyText? <;> simp [h, truthNotes]
  | _ => simp [truthNotes]

end Notes
end Node

/-- The events of a computation other than those that tell which nodes it comes to. -/
def Traced.remarks {α : Type} (x : Traced α) : List Event :=
  x.events.filter (·.visited?.isNone)

namespace Node

variable (o : Options)

theorem mem_rewrites_cases {n : Node} {e : Event} (h : e ∈ n.rewrites o) :
    (∃ kind, e = .truthTest kind) ∨ (∃ old new, e = .rename old new) ∨ (∃ path, e = .strip path) ∨
      ∃ x, e = .collapse x := by
  simp only [rewrites, truthNotes, List.mem_append, List.mem_map] at h
  rcases h with ((⟨_, -, rfl⟩ | ⟨_, -, rfl⟩) | ⟨_, -, rfl⟩) | ⟨_, -, rfl⟩ <;> simp

/-- What a step adds to the remarks, if it goes well: its own note, or the notes of the nodes that
printing its part comes to. -/
theorem perm_remarks_step {n : Node} {wrap : Bool} {s : Step} (hs : s ∈ n.steps o wrap)
    (hok : (s.log o).error? = none)
    (ih : ∀ m ∈ n.visited, ∀ wrap f, (m.print o wrap).result = .ok f →
      (m.print o wrap).remarks ~ (m.remaining o .listed).flatMap (rewrites o)) :
    (s.log o).events.filter (·.visited?.isNone) ~
      s.event?.toList ++ (s.node?.toList.flatMap (remaining o .listed)).flatMap (rewrites o) := by
  cases s with
  | note e =>
    have hmem : e ∈ n.rewrites o := by
      rw [← filterMap_event?_steps o n wrap]
      exact List.mem_filterMap.2 ⟨_, hs, rfl⟩
    rcases mem_rewrites_cases o hmem with ⟨_, rfl⟩ | ⟨_, _, rfl⟩ | ⟨_, rfl⟩ | ⟨_, rfl⟩ <;>
      exact .refl _
  | part m w =>
    obtain ⟨f, hf⟩ := errorOf?_eq_none_iff.1 hok
    simpa [Step.log, Traced.log, Traced.remarks] using ih m (permits_steps n o wrap _ hs) w f hf
  | stop warning e => cases hok

/-- The remarks of a successful printing are the notes of the nodes that it comes to. -/
theorem perm_remarks {n : Node} {wrap : Bool} {f : Fragment} (h : (n.print o wrap).result = .ok f) :
    (n.print o wrap).remarks ~ (n.remaining o .listed).flatMap (rewrites o) := by
  induction n using visited_induction generalizing wrap f with
  | step n ih =>
    have hrefusal : n.refusal? = none := (result_print_eq_ok_iff.1 h).1
    have hlog : (n.print o wrap).log =
        Log.inTurn ((.note (.visit n.kind wrap) :: n.steps o wrap).map (Step.log o)) :=
      takes_steps o n wrap
    have hok : (n.print o wrap).log.error? = none := by simp [Traced.log, h]
    rw [hlog] at hok
    obtain ⟨hsteps, hevents⟩ := Log.inTurn_of_none hok
    have hremarks : (n.print o wrap).remarks =
        (n.steps o wrap).flatMap fun s => (s.log o).events.filter (·.visited?.isNone) := by
      change (n.print o wrap).log.events.filter _ = _
      rw [hlog, hevents, List.map_cons, List.flatMap_cons, List.flatMap_map, List.filter_append,
        List.filter_flatMap]
      rfl
    calc (n.print o wrap).remarks
        = (n.steps o wrap).flatMap fun s => (s.log o).events.filter (·.visited?.isNone) := hremarks
      _ ~ (n.steps o wrap).flatMap fun s => s.event?.toList ++
            (s.node?.toList.flatMap (remaining o .listed)).flatMap (rewrites o) :=
        .flatMap_left _ fun s hs =>
          perm_remarks_step o hs (hsteps _ (List.mem_map_of_mem (List.mem_cons_of_mem _ hs)))
            fun m hm wrap f hf => ih m hm hf
      _ ~ (n.steps o wrap).flatMap (fun s => s.event?.toList) ++
            (n.steps o wrap).flatMap fun s =>
              (s.node?.toList.flatMap (remaining o .listed)).flatMap (rewrites o) :=
        (List.flatMap_append_perm _ _ _).symm
      _ = (n.remaining o .listed).flatMap (rewrites o) := by
        rw [remaining_eq_steps o hrefusal wrap, List.flatMap_cons, ← filterMap_event?_steps o n wrap,
          List.filterMap_eq_flatMap_toList, List.filterMap_eq_flatMap_toList]
        simp only [List.flatMap_assoc]

end Node

def Traced.tally {α : Type} (x : Traced α) (message : String) : Nat :=
  x.events.countP (·.message = message)

theorem countP_flatMap_of_each {α β : Type} {f : α → List β} {p : β → Bool} {q : α → Bool}
    (h : ∀ a, (f a).countP p = if q a then 1 else 0) (as : List α) :
    (as.flatMap f).countP p = as.countP q := by
  induction as with
  | nil => rfl
  | cons a as ih => rw [List.flatMap_cons, List.countP_append, List.countP_cons, h, ih, Nat.add_comm]

namespace Node

section Messages

variable (o : Options) (ns : List Node)

attribute [local simp] rewrites truthNotes List.countP_map Function.comp_def Event.message
  List.countP_filter

theorem countP_truthTest :
    (ns.flatMap (rewrites o)).countP (·.message = "spelling out truthiness test") =
      (ns.flatMap (tested o)).countP isBareVariable := by
  simp [List.countP_flatMap]

theorem countP_rename :
    (ns.flatMap (rewrites o)).countP (·.message = "renaming filter") =
      ns.countP fun n => (n.renamed? o).isSome := by
  refine countP_flatMap_of_each (fun n => ?_) ns
  cases h : n.renamed? o <;> simp [h]

theorem countP_strip :
    (ns.flatMap (rewrites o)).countP (·.message = "stripping relative include prefix") =
      ns.countP fun n => (n.stripped? o).isSome := by
  refine countP_flatMap_of_each (fun n => ?_) ns
  cases h : n.stripped? o <;> simp [h]

theorem countP_collapse :
    (ns.flatMap (rewrites o)).countP (·.message = "collapsing self conditional") =
      if o.collapseSelfConditional then ns.countP isSelfConditional else 0 := by
  have heach : ∀ n, (rewrites o n).countP (·.message = "collapsing self conditional") =
      if o.collapseSelfConditional && n.isSelfConditional then 1 else 0 := by
    intro n
    rw [← isSome_collapsedTo?]
    cases h : n.collapsedTo? o <;> simp [h]
  rw [countP_flatMap_of_each heach]
  cases o.collapseSelfConditional <;> simp

end Messages

section Log

variable {o : Options} {root : Node} {f : Fragment} (h : (root.print o false).result = .ok f)

include h

theorem tally_toTwig {message : String} (hvisit : "dispatch" ≠ message)
    (hfinish : "transform finished" ≠ message) :
    (root.toTwig o).tally message =
      ((root.remaining o .listed).flatMap (rewrites o)).countP (·.message = message) := by
  have hend : [Event.finish f.render.utf8ByteSize].countP (·.message = message) = 0 := by
    simp [Event.message, hfinish]
  rw [Traced.tally, events_toTwig h, List.countP_append, hend, Nat.add_zero,
    ← (perm_remarks o h).countP_eq, Traced.remarks, List.countP_filter]
  refine List.countP_congr fun e _ => ?_
  cases e <;> simp [Event.visited?, Event.message, hvisit]

theorem message_ne_of_mem_print {e : Event} (he : e ∈ (root.print o false).events) :
    e.message ≠ "transform finished" := by
  cases hvisit : e.visited? with
  | some kind => cases e <;> simp_all [Event.visited?, Event.message]
  | none =>
    have hremark : e ∈ (root.print o false).remarks := List.mem_filter.2 ⟨he, by simp [hvisit]⟩
    obtain ⟨n, -, hn⟩ := List.mem_flatMap.1 ((perm_remarks o h).mem_iff.1 hremark)
    rcases mem_rewrites_cases o hn with ⟨_, rfl⟩ | ⟨_, _, rfl⟩ | ⟨_, rfl⟩ | ⟨_, rfl⟩ <;>
      simp [Event.message]

end Log

/-- A successful printing notes each change once for each node that calls for it, among the nodes that
it comes to, and ends with a note of the size of the source. -/
theorem toTwig_notes_each_rewrite_once {o : Options} {root : Node} {source : String}
    (h : (root.toTwig o).result = .ok source) :
    (root.toTwig o).visits = (root.remaining o .listed).map kind ∧
      (root.toTwig o).tally "spelling out truthiness test" =
        ((root.remaining o .listed).flatMap (tested o)).countP isBareVariable ∧
      (root.toTwig o).tally "renaming filter" =
        (root.remaining o .listed).countP (fun n => (n.renamed? o).isSome) ∧
      (root.toTwig o).tally "stripping relative include prefix" =
        (root.remaining o .listed).countP (fun n => (n.stripped? o).isSome) ∧
      (root.toTwig o).tally "collapsing self conditional" =
        (if o.collapseSelfConditional then (root.remaining o .listed).countP isSelfConditional
          else 0) ∧
      ∃ before, (root.toTwig o).events = before ++ [.finish source.utf8ByteSize] ∧
        ∀ e ∈ before, e.message ≠ "transform finished" := by
  have hvisits := visits_toTwig_of_ok h
  rw [result_toTwig, bind_eq_ok_iff] at h
  obtain ⟨f, hf, hsource⟩ := h
  obtain rfl : f.render = source := by simpa using hsource
  refine ⟨hvisits, ?_, ?_, ?_, ?_, _, events_toTwig hf, fun e he => message_ne_of_mem_print hf he⟩
  · rw [tally_toTwig hf (by decide) (by decide), countP_truthTest]
  · rw [tally_toTwig hf (by decide) (by decide), countP_rename]
  · rw [tally_toTwig hf (by decide) (by decide), countP_strip]
  · rw [tally_toTwig hf (by decide) (by decide), countP_collapse]

/-- An index with a filter in it, where a truth value is wanted. -/
def doubledFilter : Node :=
  .binary .or (.lookup (.symbol "y") (applyFilter "safe" (.symbol "w") []))
    (.inlineIf (.symbol "x") (.symbol "x") none)

/-- The renamed filter is printed twice and noted once. -/
theorem toTwig_notes_doubled_filter_once :
    (doubledFilter.toTwig {}).result =
        .ok ("( y[w | raw] == true or y[w | raw] is not empty ) or " ++
          "( x == true or x is not empty ) ? x : \"\"") ∧
      (doubledFilter.remaining {} .listed).countP (fun n => (n.renamed? {}).isSome) = 1 ∧
      ((doubledFilter.remaining {} .listed).flatMap (tested {})).countP isBareVariable = 2 := by
  have hprinted : (doubledFilter.toTwig {}).result =
      .ok ("( y[w | raw] == true or y[w | raw] is not empty ) or " ++
        "( x == true or x is not empty ) ? x : \"\"") := rfl
  obtain ⟨-, htests, hrenamed, -⟩ := toTwig_notes_each_rewrite_once hprinted
  exact ⟨hprinted, hrenamed.symm.trans (by decide), htests.symm.trans (by decide)⟩

end Node
end TwigPrinter
