import Mathlib.Data.List.Basic
import TwigPrinter.Proofs.Warnings
/-!
The order in which printing comes to the nodes of a template. Two walks are compared. One follows the
children of each node and marks the nodes that have no printed form of their own (`Node.listing`);
the other is the printer, whose log has an entry for each node it comes to. When printing succeeds the
log has the nodes that are left unmarked, each once and in the order of the document. When it fails
the log stops on the way. Both walks are compared step by step, along `Node.steps`.
-/
namespace TwigPrinter

/-- How a node stands in the listing of a tree: listed, left out by itself, or left out together with
everything below it. -/
inductive Mark where
  | listed
  | passed
  | cut
  deriving DecidableEq, Repr

namespace Node

/-- The list around arguments is left out, and its entries are not. -/
def argumentMark : Node → Mark
  | .seq .list _ => .passed
  | _ => .listed

def templateMark : Node → Mark
  | .literal (.string _) => .passed
  | _ => .listed

def marked (o : Options) : Node → List (Node × Mark)
  | .filter name args => [(name, .cut), (args, args.argumentMark)]
  | .call name args => [(name, .listed), (args, args.argumentMark)]
  | .inclusion template _ => [(template, template.templateMark)]
  | .pair key value => [(key, .cut), (value, .listed)]
  | .assignment targets (some value) body =>
    targets.map (·, .listed) ++ [(value, .listed)] ++ body.toList.map (·, .cut)
  | .inlineIf test body alternative =>
    (test, if (o.collapsed? test body alternative).isSome then .passed else .listed) ::
      (body, .listed) :: alternative.toList.map (·, .listed)
  | n => n.children.map (·, .listed)

theorem fst_marked (o : Options) (n : Node) : (n.marked o).map Prod.fst = n.children := by
  cases n with
  | assignment targets value body =>
    cases value <;> simp [marked, children, Function.comp_def]
  | _ => simp [marked, children, Function.comp_def]

theorem mem_children_of_mem_marked {o : Options} {n : Node} {p : Node × Mark}
    (h : p ∈ n.marked o) : p.1 ∈ n.children := by
  rw [← fst_marked o]
  exact List.mem_map_of_mem h

/-- All nodes in document order with their marks. Below a node that is cut everything is. -/
def listing (o : Options) (mark : Mark) (n : Node) : List (Node × Mark) :=
  (n, mark) :: (n.marked o).attach.flatMap fun p =>
    listing o (if mark = .cut then .cut else p.val.2) p.val.1
termination_by sizeOf n
decreasing_by exact sizeOf_lt_of_mem_children (mem_children_of_mem_marked p.property)

/-- The nodes that are left of the listing of a tree. -/
def remaining (o : Options) (mark : Mark) (n : Node) : List Node :=
  ((n.listing o mark).filter (·.2 = .listed)).map Prod.fst

theorem listing_eq (o : Options) (mark : Mark) (n : Node) :
    n.listing o mark = (n, mark) :: (n.marked o).flatMap fun p =>
      p.1.listing o (if mark = .cut then .cut else p.2) := by
  rw [listing, List.flatMap_subtype (g := fun p => p.1.listing o (if mark = .cut then .cut else p.2)),
    List.unattach_attach]
  intros
  rfl

/-- Without the marks the listing is the tree in document order. -/
theorem fst_listing (o : Options) (mark : Mark) (n : Node) :
    (n.listing o mark).map Prod.fst = n.nodes := by
  induction n using children_induction generalizing mark with
  | step n ih =>
    rw [listing_eq, nodes_eq, ← fst_marked o, List.flatMap_map, List.map_cons, List.map_flatMap]
    congr 1
    exact List.flatMap_congr fun p hp => ih p.1 (mem_children_of_mem_marked hp) _

theorem remaining_cut (o : Options) (n : Node) : n.remaining o .cut = [] := by
  induction n using children_induction with
  | step n ih =>
    have hbelow : ∀ p ∈ n.marked o, p.1.remaining o .cut = [] := fun p hp =>
      ih p.1 (mem_children_of_mem_marked hp)
    unfold remaining at hbelow ⊢
    rw [listing_eq, List.filter_cons_of_neg (by simp), List.filter_flatMap, List.map_flatMap]
    exact List.flatMap_eq_nil_iff.2 hbelow

theorem remaining_passed (o : Options) (n : Node) :
    n.remaining o .passed = (n.marked o).flatMap fun p => p.1.remaining o p.2 := by
  simp [remaining, listing_eq o .passed n, List.filter_flatMap, List.map_flatMap]

theorem remaining_listed (o : Options) (n : Node) :
    n.remaining o .listed = n :: (n.marked o).flatMap fun p => p.1.remaining o p.2 := by
  simp [remaining, listing_eq o .listed n, List.filter_flatMap, List.map_flatMap]

/-- The entries of an argument list are listed in its place. -/
theorem remaining_argument (o : Options) (args : Node) :
    args.remaining o args.argumentMark = args.operands.flatMap (remaining o .listed) := by
  by_cases hargs : ∃ entries, args = .seq .list entries
  · obtain ⟨entries, rfl⟩ := hargs
    rw [argumentMark, remaining_passed]
    simp [marked, children, operands, List.flatMap_map]
  · have hsingle : ∀ entries, args = .seq .list entries → False := by simpa using hargs
    have hmark : args.argumentMark = .listed := by
      rw [argumentMark]
      exact hsingle
    simp [operands_eq_singleton hsingle, hmark]

end Node

/-- The kind of the node that an event says printing has come to. -/
def Event.visited? : Event → Option Kind
  | .visit kind _ => some kind
  | _ => none

theorem Event.visited?_of_level {e : Event} (h : e.level ≠ .trace) : e.visited? = none := by
  cases e <;> simp_all [level, visited?]

def Traced.visits {α : Type} (x : Traced α) : List Kind := x.events.filterMap Event.visited?

namespace Log

variable {a b : Log} {ks ls : List Kind}

def visits (l : Log) : List Kind := l.events.filterMap Event.visited?

/-- The log tells of nodes of the given kinds, in this order, and may end on the way. -/
structure Follows (l : Log) (ks : List Kind) : Prop where
  initial : l.visits <+: ks
  whole : l.error? = none → l.visits = ks

theorem follows_visit (kind : Kind) (wrap : Bool) :
    Follows ⟨[.visit kind wrap], none⟩ [kind] :=
  ⟨List.prefix_rfl, fun _ => rfl⟩

theorem follows_of_quiet {events : List Event} (h : ∀ e ∈ events, e.level ≠ .trace)
    (error? : Option PrintError) : Follows ⟨events, error?⟩ [] := by
  have hvisits : visits ⟨events, error?⟩ = [] :=
    List.filterMap_eq_nil_iff.2 fun e he => Event.visited?_of_level (h e he)
  exact ⟨by simp [hvisits], fun _ => hvisits⟩

/-- Of two logs in a row the second one is reached only after the whole of the first. -/
theorem Follows.andThen (ha : a.Follows ks) (hb : b.Follows ls) :
    (a.andThen b).Follows (ks ++ ls) := by
  cases herror : a.error? with
  | some e =>
    rw [andThen_of_some herror]
    exact ⟨ha.initial.trans (List.prefix_append ks ls), by simp [herror]⟩
  | none =>
    have hvisits : visits ⟨a.events ++ b.events, b.error?⟩ = ks ++ b.visits := by
      rw [← ha.whole herror]
      exact List.filterMap_append
    rw [andThen_of_none herror]
    refine ⟨?_, fun hnone => ?_⟩
    · rw [hvisits]
      exact (List.prefix_append_right_inj ks).2 hb.initial
    · rw [hvisits, hb.whole hnone]

theorem visits_prefix_andThen (a b : Log) : a.visits <+: (a.andThen b).visits := by
  cases herror : a.error? with
  | some e => simp [andThen_of_some herror]
  | none => simp [andThen_of_none herror, visits]

theorem follows_inTurn {α : Type} {log : α → Log} {kinds : α → List Kind} {xs : List α}
    (h : ∀ x ∈ xs, (log x).Follows (kinds x)) : (inTurn (xs.map log)).Follows (xs.flatMap kinds) := by
  induction xs with
  | nil => exact follows_of_quiet (by simp) none
  | cons x rest ih =>
    exact (h x List.mem_cons_self).andThen (ih fun y hy => h y (List.mem_cons_of_mem x hy))

/-- A log that ends with an error may be taken to have ended on a longer way. -/
theorem Follows.of_prefix (h : a.Follows ks) (hks : ks <+: ls) (herror : a.error? ≠ none) :
    a.Follows ls :=
  ⟨h.initial.trans hks, fun hnone => absurd hnone herror⟩

end Log

namespace Step

/-- The node that a step prints. -/
def node? : Step → Option Node
  | .part n _ => some n
  | _ => none

section Simp

variable (n : Node) (wrap condition : Bool) (e : Event) (warning : Option Event) (error : PrintError)

@[simp] theorem node?_note : (note e).node? = none := rfl
@[simp] theorem node?_part : (part n wrap).node? = some n := rfl
@[simp] theorem node?_operand : (operand n).node? = some n := rfl
@[simp] theorem node?_stop : (stop warning error).node? = none := rfl

@[simp] theorem filterMap_node?_noteIf : (noteIf condition e).filterMap node? = [] := by
  cases condition <;> rfl

@[simp] theorem filterMap_node?_truthTest : (truthTest n).filterMap node? = [] :=
  filterMap_node?_noteIf ..

end Simp
end Step

namespace Node

section Steps

variable (o : Options)

attribute [local simp] steps List.filterMap_cons List.filterMap_map Function.comp_def

attribute [local simp] marked children refusal? remaining_argument List.flatMap_map

/-- Printing goes on to the nodes that head what remains below a node, unless it refuses the node. -/
theorem remaining_eq_steps {n : Node} (h : n.refusal? = none) (wrap : Bool) :
    n.remaining o .listed =
      n :: ((n.steps o wrap).filterMap Step.node?).flatMap (remaining o .listed) := by
  rw [remaining_listed]
  congr 1
  cases n with
  | seq form children => cases form <;> simp
  | binary op left right => cases hop : op.isLogical <;> simp [hop]
  | inlineIf test body alternative =>
    cases hname : o.collapsed? test body alternative with
    | none => simp [hname]
    | some x =>
      obtain ⟨rfl, rfl, rfl⟩ := collapsed?_eq_some hname
      simp [hname, remaining_passed]
  | forLoop target items body alternative => cases alternative <;> simp_all
  | filter name args => cases hname : name.filterName? <;> simp_all [remaining_cut]
  | inclusion template ignoreMissing =>
    by_cases hpath : ∃ path, template = .literal (.string path)
    · obtain ⟨path, rfl⟩ := hpath
      simp [templateMark, remaining_passed]
    · have hne : ∀ path, template = .literal (.string path) → False := by simpa using hpath
      simp [templateMark]
  | assignment targets value body => cases value <;> cases body <;> simp [remaining_cut]
  | pair key value => cases hkey : key.keyText? <;> simp_all [remaining_cut]
  | other name => simp at h
  | _ => simp

/-- A node that is refused is refused before anything below it is printed. -/
theorem filterMap_node?_of_refusal {n : Node} (h : n.refusal? ≠ none) (wrap : Bool) :
    (n.steps o wrap).filterMap Step.node? = [] := by
  cases n with
  | forLoop target items body alternative => cases alternative <;> simp_all
  | filter name args => cases hname : name.filterName? <;> simp_all
  | pair key value => cases hkey : key.keyText? <;> simp_all
  | other name => simp
  | _ => simp at h

end Steps

variable {o : Options}

/-- Printing comes to the node and to the nodes that remain below it, in this order. -/
theorem follows_print (n : Node) (wrap : Bool) :
    (n.print o wrap).log.Follows ((n.remaining o .listed).map kind) := by
  induction n using visited_induction generalizing wrap with
  | step n ih =>
    have hsteps : ∀ s ∈ n.steps o wrap,
        (s.log o).Follows (s.node?.toList.flatMap fun m => (m.remaining o .listed).map kind) := by
      intro s hs
      have hpermits := permits_steps n o wrap s hs
      cases s with
      | note e =>
        have hlevel : e.level = .debug := hpermits
        exact Log.follows_of_quiet (by simp [hlevel]) none
      | part m w => simpa [Step.log] using ih m hpermits w
      | stop warning e =>
        obtain ⟨rfl, -⟩ := hpermits
        refine Log.follows_of_quiet (fun w hw => ?_) (some e)
        simp [level_of_warning? (Option.mem_toList.1 hw)]
    have hall : (n.print o wrap).log.Follows
        ((n :: ((n.steps o wrap).filterMap Step.node?).flatMap (remaining o .listed)).map kind) := by
      have hvisit : (Step.log o (.note (.visit n.kind wrap))).Follows [n.kind] :=
        Log.follows_visit n.kind wrap
      rw [takes_steps o n wrap]
      simpa [List.filterMap_eq_flatMap_toList, List.flatMap_assoc, List.map_flatMap] using
        hvisit.andThen (Log.follows_inTurn hsteps)
    by_cases hrefusal : n.refusal? = none
    · rwa [remaining_eq_steps o hrefusal wrap]
    · refine hall.of_prefix ?_ fun hnone => ?_
      · rw [filterMap_node?_of_refusal o hrefusal, remaining_listed]
        simp
      · obtain ⟨f, hf⟩ := errorOf?_eq_none_iff.1 hnone
        exact hrefusal (result_print_eq_ok_iff.1 hf).1

theorem follows_toTwig (o : Options) (root : Node) :
    (root.toTwig o).log.Follows ((root.remaining o .listed).map kind) := by
  obtain ⟨bytes, hlog⟩ := log_toTwig o root
  have hquiet : ∀ e ∈ [Event.finish bytes], e.level ≠ .trace := by simp [Event.level]
  rw [hlog]
  simpa using (follows_print root false).andThen (Log.follows_of_quiet hquiet none)

theorem visits_toTwig_of_ok {root : Node} {source : String}
    (h : (root.toTwig o).result = .ok source) :
    (root.toTwig o).visits = (root.remaining o .listed).map kind :=
  (follows_toTwig o root).whole (by simp [Traced.log, h])

theorem visits_toTwig_ne_nil (o : Options) (root : Node) : (root.toTwig o).visits ≠ [] := by
  obtain ⟨bytes, hlog⟩ := log_toTwig o root
  have hself : [root.kind] <+: (root.print o false).log.visits := by
    rw [takes_steps o root false]
    exact Log.visits_prefix_andThen ⟨[.visit root.kind false], none⟩ _
  have hprint : (root.print o false).log.visits <+: (root.toTwig o).log.visits := by
    rw [hlog]
    exact Log.visits_prefix_andThen _ _
  exact List.ne_nil_of_mem ((hself.trans hprint).subset List.mem_cons_self)

/-- Printing comes to the nodes that remain of the listing of a template, each once and in its place;
when it fails, to some of them from the first one on. -/
theorem visits_toTwig_in_document_order (o : Options) (root : Node) :
    (root.listing o .listed).map Prod.fst = root.nodes ∧
      (∀ source, (root.toTwig o).result = .ok source →
        (root.toTwig o).visits = (root.remaining o .listed).map kind) ∧
      ∀ e, (root.toTwig o).result = .error e →
        (root.toTwig o).visits ≠ [] ∧
          (root.toTwig o).visits <+: (root.remaining o .listed).map kind := by
  exact ⟨fst_listing o .listed root, fun _ => visits_toTwig_of_ok,
    fun _ _ => ⟨visits_toTwig_ne_nil o root, (follows_toTwig o root).initial⟩⟩

/-- A name of a filter, a list of arguments, a body beside a value and a path are passed over. -/
theorem remaining_of_passed_over :
    ((Node.list [.applyFilter "safe" (.symbol "x") [.string "y"], .includeOf (.string "./page"),
        .assignment [.symbol "z"] (some (.symbol "w")) (some (.data "lost"))]).remaining {}
        .listed).map kind =
      [.seq .list, .filter, .symbol, .literal, .inclusion, .assignment, .symbol, .symbol] :=
  ((visits_toTwig_in_document_order {} _).2.1 _ rfl).symm

end Node
end TwigPrinter
