import TwigPrinter.Proofs.Constructs
import TwigPrinter.Proofs.Nodes
/-!
Expressions, and what holds of the text of each of them. A property of texts that is kept when texts
are put together as in an expression (`ExpressionText`) holds of every expression whose own texts
have it: its names, strings and operators, as they are written.
-/
namespace TwigPrinter

/-- Expressions as a template has them inside of tags. -/
inductive IsExpression : Node → Prop where
  | symbol (name : String) : IsExpression (.symbol name)
  | literal (value : Scalar) : IsExpression (.literal value)
  | lookup {target key : Node} :
      IsExpression target → IsExpression key → IsExpression (.lookup target key)
  | binary (op : BinaryOp) {left right : Node} :
      IsExpression left → IsExpression right → IsExpression (.binary op left right)
  | negation {target : Node} : IsExpression target → IsExpression (.negation target)
  | comparison {first : Node} {rest : List (String × Node)} : IsExpression first →
      (∀ p ∈ rest, IsExpression p.2) → IsExpression (.compareWith first rest)
  | inlineIf {test body : Node} {alternative : Option Node} : IsExpression test →
      IsExpression body → (∀ n ∈ alternative, IsExpression n) →
      IsExpression (.inlineIf test body alternative)
  | filter {name : Node} {args : List Node} : name.filterName?.isSome = true →
      (∀ n ∈ args, IsExpression n) → IsExpression (.filter name (.list args))
  | call {name : Node} {args : List Node} : IsExpression name →
      (∀ n ∈ args, IsExpression n) → IsExpression (.call name (.list args))
  | group {children : List Node} : (∀ n ∈ children, IsExpression n) →
      IsExpression (.seq .group children)
  | dict {entries : List (Node × Node)} : (∀ p ∈ entries, p.1.keyText?.isSome = true) →
      (∀ p ∈ entries, IsExpression p.2) → IsExpression (.dict entries)

theorem Node.keyText?_of_filterName? {n : Node} (h : n.filterName?.isSome = true) :
    n.keyText?.isSome = true := by
  unfold filterName? at h
  split at h
  · rfl
  · rfl
  · cases h

/-- A property of texts that goes from the parts of an expression to the expression. -/
structure ExpressionText (P : List Char → Prop) : Prop where
  fixed : ∀ s ∈ fixedTexts, P s.toList
  append : ∀ {a b}, P a → P b → P (a ++ b)
  round : ∀ {a}, P a → P ('(' :: a ++ [')'])
  square : ∀ {a}, P a → P ('[' :: a ++ [']'])
  /-- A dictionary, whose first character after the brace is a quote if there is one. -/
  braces : ∀ {a}, P a → (∀ c ∈ a.head?, c = '"') → P ('\x7b' :: a ++ ['\x7d'])

namespace ExpressionText

variable {P : List Char → Prop} (hP : ExpressionText P) {a : List Char} {as : List (List Char)}
include hP

/-- The property as a relation, between equal texts only. -/
theorem concatenative : Concatenative fun a b => a = b ∧ P a where
  fixed := fun s hs => ⟨rfl, hP.fixed s hs⟩
  append := by
    rintro a _ b _ ⟨rfl, ha⟩ ⟨rfl, hb⟩
    exact ⟨rfl, hP.append ha hb⟩
  round := by
    rintro a _ ⟨rfl, h⟩
    exact ⟨rfl, hP.round h⟩
  square := by
    rintro a _ ⟨rfl, h⟩
    exact ⟨rfl, hP.square h⟩

theorem flatten (h : ∀ a ∈ as, P a) : P as.flatten :=
  (hP.concatenative.flatten (List.forall₂_same.2 fun a ha => ⟨rfl, h a ha⟩)).2

theorem intercalate {sep : String} (hsep : sep ∈ fixedTexts) (h : ∀ a ∈ as, P a) :
    P (sep.toList.intercalate as) :=
  (hP.concatenative.intercalate hsep (List.forall₂_same.2 fun a ha => ⟨rfl, h a ha⟩)).2

theorem filterArguments (h : ∀ a ∈ as, P a) : P (Node.filterArguments as) :=
  (hP.concatenative.filterArguments (List.forall₂_same.2 fun a ha => ⟨rfl, h a ha⟩)).2

theorem coerced (n : Node) (h : P a) : P (n.coerced a) :=
  (hP.concatenative.coerced rfl ⟨rfl, h⟩).2

theorem beside (op : BinaryOp) (n : Node) (h : P a) : P (n.beside op a) :=
  (hP.concatenative.beside op rfl ⟨rfl, h⟩).2

theorem negated (n : Node) (h : P a) : P (Node.truthTest true (n.bracketed a)) :=
  (hP.concatenative.truthTest true (hP.concatenative.bracketed rfl ⟨rfl, h⟩)).2

end ExpressionText

/-- The texts of a node that stand in an expression by themselves, as they are written. -/
def Node.ownTexts (o : Options) : Node → List (List Char)
  | .symbol name => [name.toList]
  | .literal value => [(Fragment.ofScalar value).chars]
  | .comparand _ op => [(comparisonOp op).toList]
  | .filter name _ => name.filterName?.toList.map fun s => (o.filterName s).toList
  | .pair key _ => key.keyText?.toList.map fun s => (Fragment.quoted s).chars
  | _ => []

/-- All texts of a node and of those below it have the property. -/
def Node.HasTexts (o : Options) (P : List Char → Prop) (n : Node) : Prop :=
  ∀ m ∈ n.nodes, ∀ t ∈ m.ownTexts o, P t

section Expressions

variable {o : Options} {P : List Char → Prop}

theorem Node.HasTexts.child {n c : Node} (h : n.HasTexts o P) (hc : c ∈ n.children) :
    c.HasTexts o P :=
  fun m hm => h m (Node.mem_nodes_of_child hc hm)

theorem Node.HasTexts.own {n : Node} (h : n.HasTexts o P) {t : List Char}
    (ht : t ∈ n.ownTexts o) : P t :=
  h n (Node.self_mem_nodes n) t ht

theorem Writes.prints {n : Node} {a : List Char} (h : Writes o n a) (ha : P a) : Prints o P n := by
  obtain ⟨f, hf, rfl⟩ := h
  exact ⟨f, hf, ha⟩

theorem written_of_prints {ns : List Node} (h : ∀ n ∈ ns, Prints o P n) :
    List.Forall₂ (Writes o) ns (ns.map (Node.written o)) ∧ ∀ a ∈ ns.map (Node.written o), P a := by
  refine ⟨forall₂_writes fun n hn => (h n hn).writes, fun a ha => ?_⟩
  obtain ⟨n, hn, rfl⟩ := List.mem_map.1 ha
  exact (h n hn).written

variable (hP : ExpressionText P)
include hP

theorem prints_lookup {target key : Node} (htarget : Prints o P target) (hkey : Prints o P key) :
    Prints o P (.lookup target key) :=
  (writes_lookup htarget.writes hkey.writes).prints
    (hP.append htarget.written (hP.square hkey.written))

theorem prints_binary (op : BinaryOp) {left right : Node} (hleft : Prints o P left)
    (hright : Prints o P right) : Prints o P (.binary op left right) := by
  have htoken := hP.fixed op.token (token_mem_fixedTexts op)
  refine (writes_binary op hleft.writes hright.writes).prints ?_
  exact hP.append (hP.append (hP.beside op left hleft.written) htoken)
    (hP.beside op right hright.written)

theorem prints_negation {target : Node} (h : Prints o P target) : Prints o P (.negation target) :=
  (writes_negation h.writes).prints (hP.negated target h.written)

theorem prints_comparand {operand : Node} {op : String} (hop : P (comparisonOp op).toList)
    (h : Prints o P operand) : Prints o P (.comparand operand op) := by
  have hblank := hP.fixed " " (by decide)
  refine (writes_comparand op h.writes).prints ?_
  exact hP.append (hP.append hblank hop) (hP.append hblank h.written)

theorem prints_comparison {first : Node} {rest : List Node} (hfirst : Prints o P first)
    (hrest : ∀ n ∈ rest, Prints o P n) : Prints o P (.comparison first rest) := by
  obtain ⟨hwrites, hall⟩ := written_of_prints hrest
  exact (writes_comparison hfirst.writes hwrites).prints (hP.append hfirst.written (hP.flatten hall))

theorem prints_inlineIf {test body : Node} {alternative : Option Node}
    (hsymbol : ∀ x, test = .symbol x → P x.toList) (htest : Prints o P test)
    (hbody : Prints o P body) (halternative : ∀ n ∈ alternative, Prints o P n) :
    Prints o P (.inlineIf test body alternative) := by
  cases hcollapsed : o.collapsed? test body alternative with
  | some x =>
    exact (writes_collapsed hcollapsed).prints (hsymbol x (Node.collapsed?_eq_some hcollapsed).1)
  | none =>
    have halternatives : ∀ n ∈ alternative.toList, Prints o P n :=
      fun n hn => halternative n (Option.mem_toList.1 hn)
    obtain ⟨hwrites, hall⟩ := written_of_prints halternatives
    have hlast : P ((alternative.toList.map (Node.written o)).headD "\"\"".toList) := by
      cases alternative with
      | none => exact hP.fixed "\"\"" (by decide)
      | some n => exact hall _ List.mem_cons_self
    refine (writes_inlineIf hcollapsed htest.writes hbody.writes hwrites).prints ?_
    have hhead := hP.append (hP.coerced test htest.written) (hP.fixed " ? " (by decide))
    exact hP.append (hP.append (hP.append hhead hbody.written) (hP.fixed " : " (by decide))) hlast

theorem prints_filter {name : Node} {s : String} (hs : name.filterName? = some s)
    (hname : P (o.filterName s).toList) {args : List Node} (hargs : ∀ n ∈ args, Prints o P n) :
    Prints o P (.filter name (.list args)) := by
  obtain ⟨hwrites, hall⟩ := written_of_prints hargs
  refine (writes_filter hs hwrites).prints ?_
  have hpipe := hP.append (hP.fixed " | " (by decide)) hname
  cases args with
  | nil => exact hP.append (hP.fixed "" (by decide)) (hP.append hpipe (hP.filterArguments (by simp)))
  | cons value rest =>
    obtain ⟨hvalue, hrest⟩ := List.forall_mem_cons.1 hall
    exact hP.append hvalue (hP.append hpipe (hP.filterArguments hrest))

theorem prints_call {name : Node} {args : List Node} (hname : Prints o P name)
    (hargs : ∀ n ∈ args, Prints o P n) : Prints o P (.call name (.list args)) := by
  obtain ⟨hwrites, hall⟩ := written_of_prints hargs
  refine (writes_call hname.writes hwrites).prints ?_
  exact hP.append hname.written (hP.round (hP.intercalate (show ", " ∈ fixedTexts by decide) hall))

theorem prints_group {children : List Node} (h : ∀ n ∈ children, Prints o P n) :
    Prints o P (.seq .group children) := by
  obtain ⟨hwrites, hall⟩ := written_of_prints h
  exact (writes_group hwrites).prints (hP.round (hP.flatten hall))

/-- A pair starts with the quote of its key. -/
theorem prints_pair {key value : Node} {s : String} (hs : key.keyText? = some s)
    (hkey : P (Fragment.quoted s).chars) (hvalue : Prints o P value) :
    Prints o (fun cs => P cs ∧ cs.head? = some '"') (.pair key value) := by
  refine (writes_pair hs hvalue.writes).prints ⟨?_, by simp⟩
  exact hP.append hkey (hP.append (hP.fixed ": " (by decide)) hvalue.written)

theorem prints_dict {children : List Node}
    (h : ∀ n ∈ children, Prints o (fun cs => P cs ∧ cs.head? = some '"') n) :
    Prints o P (.seq .dict children) := by
  obtain ⟨hwrites, hall⟩ := written_of_prints h
  have hinside := hP.intercalate (show ", " ∈ fixedTexts by decide) fun a ha => (hall a ha).1
  refine (writes_dict hwrites).prints (hP.braces hinside ?_)
  cases children with
  | nil => simp
  | cons n rest =>
    obtain ⟨cs, hcs⟩ := List.head?_eq_some_iff.1 (hall (n.written o) List.mem_cons_self).2
    cases rest <;> simp [List.intercalate, hcs]

theorem IsExpression.prints {e : Node} (he : IsExpression e) (htexts : e.HasTexts o P) :
    Prints o P e := by
  induction he with
  | symbol name => exact (writes_symbol name).prints (htexts.own List.mem_cons_self)
  | literal value => exact (writes_literal value).prints (htexts.own List.mem_cons_self)
  | lookup _ _ htarget hkey =>
    exact prints_lookup hP (htarget (htexts.child (by simp [Node.children])))
      (hkey (htexts.child (by simp [Node.children])))
  | binary op _ _ hleft hright =>
    exact prints_binary hP op (hleft (htexts.child (by simp [Node.children])))
      (hright (htexts.child (by simp [Node.children])))
  | negation _ htarget =>
    exact prints_negation hP (htarget (htexts.child (by simp [Node.children])))
  | @comparison first rest _ _ hfirst hrest =>
    refine prints_comparison hP (hfirst (htexts.child List.mem_cons_self)) ?_
    intro n hn
    have hn' : n.HasTexts o P := htexts.child (List.mem_cons_of_mem first hn)
    obtain ⟨p, hp, rfl⟩ := List.mem_map.1 hn
    exact prints_comparand hP (hn'.own (by simp [Node.ownTexts]))
      (hrest p hp (hn'.child (by simp [Node.children])))
  | @inlineIf test body alternative _ _ _ htest hbody halternative =>
    have htests : test.HasTexts o P := htexts.child (by simp [Node.children])
    refine prints_inlineIf hP ?_ (htest htests) (hbody (htexts.child (by simp [Node.children]))) ?_
    · rintro x rfl
      exact htests.own (by simp [Node.ownTexts])
    · intro n hn
      exact halternative n hn (htexts.child (by simp [Node.children, Option.mem_def.1 hn]))
  | @filter name args hname _ hargs =>
    obtain ⟨s, hs⟩ := Option.isSome_iff_exists.1 hname
    have hlist : (Node.list args).HasTexts o P := htexts.child (by simp [Node.children])
    exact prints_filter hP hs (htexts.own (by simp [Node.ownTexts, hs]))
      fun n hn => hargs n hn (hlist.child hn)
  | @call name args _ _ hname hargs =>
    have hlist : (Node.list args).HasTexts o P := htexts.child (by simp [Node.children])
    exact prints_call hP (hname (htexts.child (by simp [Node.children])))
      fun n hn => hargs n hn (hlist.child hn)
  | group _ hchildren => exact prints_group hP fun n hn => hchildren n hn (htexts.child hn)
  | @dict entries hkeys _ hvalues =>
    refine prints_dict hP fun n hn => ?_
    have hn' : n.HasTexts o P := htexts.child hn
    obtain ⟨p, hp, rfl⟩ := List.mem_map.1 hn
    obtain ⟨s, hs⟩ := Option.isSome_iff_exists.1 (hkeys p hp)
    exact prints_pair hP hs (hn'.own (by simp [Node.ownTexts, hs]))
      (hvalues p hp (hn'.child (by simp [Node.children])))

end Expressions
end TwigPrinter
