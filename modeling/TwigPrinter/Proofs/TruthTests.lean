import TwigPrinter.Proofs.Constructs
import TwigPrinter.Proofs.Expressions
import TwigPrinter.Proofs.Nesting
/-!
Truth tests. A negation, and a variable where a truth value is wanted, is printed as a test of a
text that is repeated in it, so the text has to be read as one whole: `Atomic`. The brackets and
strings of an expression are closed in it whatever its strings hold, as long as its names are plain
ones.
-/
namespace TwigPrinter

/-- A text without blanks, quotes and brackets. -/
def IsSolid (cs : List Char) : Prop := ∀ c ∈ cs, isPlainChar c = true ∧ c ≠ ' '

instance (cs : List Char) : Decidable (IsSolid cs) := List.decidableBAll _ cs

theorem IsSolid.atomic {cs : List Char} (h : IsSolid cs) : Atomic cs :=
  .word (fun c hc => (h c hc).1) fun hblank => (h ' ' hblank).2 rfl

theorem IsBare.isSolid {cs : List Char} (h : IsBare cs) : IsSolid cs := by
  intro c hc
  have hne : ∀ d, isBareChar d = false → c ≠ d := by
    rintro d hd rfl
    exact absurd (h c hc) (by simp [hd])
  have hopening : closing? c = none := by
    by_contra hsome
    obtain ⟨d, hd⟩ := Option.ne_none_iff_exists'.1 hsome
    rcases closing?_cases hd with ⟨rfl, -⟩ | ⟨rfl, -⟩ | ⟨rfl, -⟩ <;> exact hne _ (by decide) rfl
  refine ⟨?_, hne ' ' (by decide)⟩
  simp [isPlainChar, isClosing, hopening, hne '"' (by decide), hne ')' (by decide),
    hne ']' (by decide), hne '\x7d' (by decide)]

namespace Node

/-- The names of a node: those of variables, operators and filters. -/
def nameTexts : Node → List String
  | .symbol name => [name]
  | .comparand _ op => [op]
  | .filter name _ => name.filterName?.toList
  | _ => []

def HasSolidNames (n : Node) : Prop := ∀ m ∈ n.nodes, ∀ s ∈ m.nameTexts, IsSolid s.toList

instance (n : Node) : Decidable n.HasSolidNames :=
  inferInstanceAs (Decidable (∀ m ∈ n.nodes, ∀ s ∈ m.nameTexts, IsSolid s.toList))

/-- What is read as a whole before an index or arguments. -/
def isHead : Node → Bool
  | .symbol _ | .literal _ | .lookup _ _ | .call _ _ | .seq .group _ | .seq .dict _ => true
  | _ => false

def isHeaded : Node → Bool
  | .lookup target _ => target.isHead
  | .call name _ => name.isHead
  | _ => true

/-- Each index and each argument list of the tree stands behind a head. -/
def HasHeads (n : Node) : Prop := ∀ m ∈ n.nodes, m.isHeaded = true

instance (n : Node) : Decidable n.HasHeads :=
  inferInstanceAs (Decidable (∀ m ∈ n.nodes, m.isHeaded = true))

theorem HasHeads.child {n c : Node} (h : n.HasHeads) (hc : c ∈ n.children) : c.HasHeads :=
  fun m hm => h m (mem_nodes_of_child hc hm)

theorem isHead_of_isBareVariable {n : Node} (h : n.isBareVariable = true) : n.isHead = true := by
  unfold isBareVariable at h
  split at h
  · rfl
  · rfl
  · cases h

theorem isHead_of_standsAlone {n : Node} (h : n.standsAlone = true) : n.isHead = true := by
  unfold standsAlone at h
  split at h
  · rfl
  · rcases Bool.or_eq_true_iff.1 h with h | h
    · exact isHead_of_isBareVariable h
    · unfold isLiteral at h
      split at h
      · rfl
      · cases h

end Node

/-- The renamed filters have solid names. -/
def Options.HasSolidNames (o : Options) : Prop := ∀ r ∈ o.filterRenames, IsSolid r.2.toList

instance (o : Options) : Decidable o.HasSolidNames :=
  inferInstanceAs (Decidable (∀ r ∈ o.filterRenames, IsSolid r.2.toList))

section Names

variable {o : Options}

theorem IsSolid.filterName (ho : o.HasSolidNames) {s : String} (hs : IsSolid s.toList) :
    IsSolid (o.filterName s).toList :=
  Options.filterName_of_forall (Q := fun t => IsSolid t.toList) hs ho

theorem IsSolid.comparisonOp {op : String} (h : IsSolid op.toList) :
    IsSolid (comparisonOp op).toList :=
  comparisonOp_of_forall (Q := fun t => IsSolid t.toList) h (by decide)

theorem atomic_ofScalar (value : Scalar) : Atomic (Fragment.ofScalar value).chars := by
  cases value with
  | string s => exact .quoted s
  | _ => simpa [Fragment.ofScalar] using (Scalar.isBare_text (by simp)).isSolid.atomic

theorem Node.HasSolidNames.hasTexts {n : Node} (h : n.HasSolidNames) (ho : o.HasSolidNames) :
    n.HasTexts o Atomic := by
  intro m hm t ht
  have hnames := h m hm
  cases m with
  | symbol name =>
    obtain rfl := List.mem_singleton.1 ht
    exact (hnames name List.mem_cons_self).atomic
  | literal value =>
    obtain rfl := List.mem_singleton.1 ht
    exact atomic_ofScalar value
  | comparand operand op =>
    obtain rfl := List.mem_singleton.1 ht
    exact (hnames op List.mem_cons_self).comparisonOp.atomic
  | filter name args =>
    obtain ⟨s, hs, rfl⟩ := List.mem_map.1 ht
    exact ((hnames s hs).filterName ho).atomic
  | pair key value =>
    obtain ⟨s, -, rfl⟩ := List.mem_map.1 ht
    exact .quoted s
  | _ => cases ht

theorem Node.HasTexts.balanced {n : Node} (h : n.HasTexts o Atomic) : n.HasTexts o Balanced :=
  fun m hm t ht => (h m hm t ht).balanced

end Names

theorem expressionText_balanced : ExpressionText Balanced where
  fixed := by decide
  append := Balanced.append
  round := fun h => h.enclosed rfl
  square := fun h => h.enclosed rfl
  braces := fun h _ => h.enclosed rfl

/-- A test: what is tested, and whether for truth or for falsehood. -/
structure TruthTest where
  negated : Bool
  tested : List Char
  deriving DecidableEq, Repr

def TruthTest.text (t : TruthTest) : List Char := Node.truthTest t.negated t.tested

/-- The tests that a node prints for itself: one for the target of a negation, and one for each
variable beside `and` and `or` or before a choice. -/
def Node.truthTests (o : Options) : Node → List TruthTest
  | .negation target => [⟨true, target.bracketed (target.written o)⟩]
  | .binary op left right =>
    if op.isLogical then ([left, right].filter isBareVariable).map fun n => ⟨false, n.written o⟩
    else []
  | .inlineIf test body alternative =>
    if (o.collapsed? test body alternative).isNone && test.isBareVariable then
      [⟨false, test.written o⟩]
    else []
  | _ => []

section Written

variable {o : Options} {e : Node}

theorem IsExpression.writes (he : IsExpression e) : Writes o e (e.written o) := by
  have hany : ExpressionText fun _ => True := by
    constructor <;> simp
  have hprints : Prints o (fun _ => True) e := he.prints hany fun _ _ _ _ => trivial
  exact hprints.writes

theorem written_compareWith {first : Node} {rest : List (String × Node)}
    (hfirst : IsExpression first) (hrest : ∀ p ∈ rest, IsExpression p.2) :
    (Node.compareWith first rest).written o = first.written o ++
      (rest.map fun p => (Node.comparand p.2 p.1).written o).flatten := by
  have hcompared : List.Forall₂ (Writes o) (rest.map fun p => .comparand p.2 p.1)
      (rest.map fun p => (Node.comparand p.2 p.1).written o) := by
    rw [List.forall₂_map_left_iff, List.forall₂_map_right_iff, List.forall₂_same]
    intro p hp
    exact (writes_comparand p.1 (hrest p hp).writes).writes
  exact (writes_comparison hfirst.writes hcompared).written_eq

theorem written_inlineIf {test body : Node} {alternative : Option Node}
    (h : o.collapsed? test body alternative = none) (htest : IsExpression test)
    (hbody : IsExpression body) (halternative : ∀ n ∈ alternative, IsExpression n) :
    (Node.inlineIf test body alternative).written o =
      test.coerced (test.written o) ++ " ? ".toList ++ body.written o ++ " : ".toList ++
        (alternative.toList.map (Node.written o)).headD "\"\"".toList := by
  have halternatives : ∀ n ∈ alternative.toList, Writes o n (n.written o) :=
    fun n hn => (halternative n (Option.mem_toList.1 hn)).writes
  exact (writes_inlineIf h htest.writes hbody.writes (forall₂_writes halternatives)).written_eq

theorem written_pair {key : Node} {s : String} (hs : key.keyText? = some s) (he : IsExpression e) :
    (Node.pair key e).written o = (Fragment.quoted s).chars ++ (": ".toList ++ e.written o) :=
  (writes_pair hs he.writes).written_eq

theorem written_dict {entries : List (Node × Node)}
    (hkeys : ∀ p ∈ entries, p.1.keyText?.isSome = true)
    (hvalues : ∀ p ∈ entries, IsExpression p.2) :
    (Node.dict entries).written o =
      '\x7b' :: [',', ' '].intercalate (entries.map fun p => (Node.pair p.1 p.2).written o) ++
        ['\x7d'] := by
  have hpairs : List.Forall₂ (Writes o) (entries.map fun p => .pair p.1 p.2)
      (entries.map fun p => (Node.pair p.1 p.2).written o) := by
    rw [List.forall₂_map_left_iff, List.forall₂_map_right_iff, List.forall₂_same]
    intro p hp
    obtain ⟨s, hs⟩ := Option.isSome_iff_exists.1 (hkeys p hp)
    exact (writes_pair hs (hvalues p hp).writes).writes
  exact (writes_dict hpairs).written_eq

end Written

/-- Each node of the tree that prints a test is an expression, and its text stands in the text. -/
def TestsIn (o : Options) (cs : List Char) (n : Node) : Prop :=
  ∀ m ∈ n.nodes, m.truthTests o = [] ∨ IsExpression m ∧ m.written o <:+: cs

section Tests

variable {o : Options} {cs ds : List Char} {n e : Node}

theorem testsIn_of_children (hself : n.truthTests o = [] ∨ IsExpression n ∧ n.written o <:+: cs)
    (h : ∀ c ∈ n.children, TestsIn o cs c) : TestsIn o cs n := by
  intro m hm
  rcases Node.mem_nodes_iff.1 hm with rfl | ⟨c, hc, hmc⟩
  · exact hself
  · exact h c hc m hmc

theorem TestsIn.mono (h : TestsIn o cs n) (hsub : cs <:+: ds) : TestsIn o ds n :=
  fun m hm => (h m hm).imp_right fun ⟨he, hin⟩ => ⟨he, hin.trans hsub⟩

theorem testsIn_of_keyText? (h : n.keyText?.isSome = true) : TestsIn o cs n := by
  unfold Node.keyText? at h
  split at h
  · exact testsIn_of_children (.inl rfl) (by simp [Node.children])
  · exact testsIn_of_children (.inl rfl) (by simp [Node.children])
  · cases h

theorem infix_truthTest (negated : Bool) (a : List Char) : a <:+: Node.truthTest negated a := by
  cases negated <;> simp only [Node.truthTest, reduceIte, Bool.false_eq_true, List.append_assoc] <;>
    exact List.infix_append' _ _ _

theorem infix_coerced (n : Node) (a : List Char) : a <:+: n.coerced a := by
  unfold Node.coerced
  split
  · exact infix_truthTest false a
  · exact List.infix_rfl

theorem infix_beside (op : BinaryOp) (n : Node) (a : List Char) : a <:+: n.beside op a := by
  rw [Node.beside]
  split
  · exact infix_coerced n a
  · exact List.infix_rfl

theorem infix_binary (op : BinaryOp) {left right : Node} (hleft : IsExpression left)
    (hright : IsExpression right) {n : Node} (hn : n ∈ [left, right]) :
    n.beside op (n.written o) <:+: (Node.binary op left right).written o := by
  rw [(writes_binary op hleft.writes hright.writes).written_eq]
  rcases List.mem_pair.1 hn with rfl | rfl
  · rw [List.append_assoc]
    exact (List.prefix_append _ _).isInfix
  · exact (List.suffix_append _ _).isInfix

theorem infix_bracketed (n : Node) (a : List Char) : a <:+: n.bracketed a := by
  unfold Node.bracketed
  split
  · exact List.infix_rfl
  · exact ⟨['('], [')'], rfl⟩

theorem infix_intercalate_of_mem (sep : List Char) {a : List Char} {as : List (List Char)}
    (h : a ∈ as) : a <:+: sep.intercalate as := by
  induction as with
  | nil => cases h
  | cons b rest ih =>
    rcases List.mem_cons.1 h with rfl | hrest
    · cases rest <;> simp [List.intercalate, List.prefix_append, List.IsPrefix.isInfix]
    · cases rest with
      | nil => cases hrest
      | cons c rest =>
        have hsuffix : sep.intercalate (c :: rest) <:+ sep.intercalate (b :: c :: rest) :=
          ⟨b ++ sep, by simp [List.intercalate]⟩
        exact (ih hrest).trans hsuffix.isInfix

theorem infix_filterArguments {a : List Char} {as : List (List Char)} (h : a ∈ as) :
    a <:+: Node.filterArguments as := by
  cases as with
  | nil => cases h
  | cons b rest => exact (infix_intercalate_of_mem [','] h).trans ⟨['('], [')'], rfl⟩

theorem infix_filtered {a name : List Char} {as : List (List Char)} (h : a ∈ as) :
    a <:+: as.headD [] ++ (name ++ Node.filterArguments as.tail) := by
  cases as with
  | nil => cases h
  | cons b rest =>
    rcases List.mem_cons.1 h with rfl | hrest
    · exact ⟨[], _, rfl⟩
    · refine (infix_filterArguments hrest).trans ?_
      exact ((List.suffix_append _ _).trans (List.suffix_append _ _)).isInfix

theorem testsIn_list {args : List Node} (h : ∀ n ∈ args, TestsIn o (n.written o) n)
    (hin : ∀ n ∈ args, n.written o <:+: cs) : TestsIn o cs (.list args) :=
  testsIn_of_children (.inl rfl) fun n hn => (h n hn).mono (hin n hn)

theorem testsIn_comparand (op : String) (he : IsExpression e) (h : TestsIn o (e.written o) e) :
    TestsIn o ((Node.comparand e op).written o) (.comparand e op) := by
  rw [(writes_comparand op he.writes).written_eq]
  refine testsIn_of_children (.inl rfl) (List.forall_mem_singleton.2 (h.mono ?_))
  exact ⟨' ' :: (comparisonOp op).toList ++ [' '], [], by simp⟩

theorem testsIn_pair {key : Node} (hkey : key.keyText?.isSome = true) (he : IsExpression e)
    (h : TestsIn o (e.written o) e) : TestsIn o ((Node.pair key e).written o) (.pair key e) := by
  obtain ⟨s, hs⟩ := Option.isSome_iff_exists.1 hkey
  rw [written_pair hs he]
  refine testsIn_of_children (.inl rfl) (List.forall_mem_cons.2 ⟨testsIn_of_keyText? hkey, ?_⟩)
  refine List.forall_mem_singleton.2 (h.mono ?_)
  exact ((List.suffix_append _ _).trans (List.suffix_append _ _)).isInfix

theorem testsIn_inlineIf {test body : Node} {alternative : Option Node} (htest : IsExpression test)
    (hbody : IsExpression body) (halternative : ∀ n ∈ alternative, IsExpression n)
    (htests : TestsIn o (test.written o) test) (hbodies : TestsIn o (body.written o) body)
    (halternatives : ∀ n ∈ alternative, TestsIn o (n.written o) n) :
    TestsIn o ((Node.inlineIf test body alternative).written o)
      (.inlineIf test body alternative) := by
  cases hcollapsed : o.collapsed? test body alternative with
  | some x =>
    -- What is left out of the text is a name, which is not tested.
    obtain ⟨rfl, rfl, rfl⟩ := Node.collapsed?_eq_some hcollapsed
    refine testsIn_of_children (.inl (by simp [Node.truthTests, hcollapsed])) ?_
    simpa [Node.children] using testsIn_of_keyText? rfl
  | none =>
    refine testsIn_of_children (.inr ⟨.inlineIf htest hbody halternative, List.infix_rfl⟩) ?_
    rw [written_inlineIf hcollapsed htest hbody halternative]
    intro c hc
    simp only [Node.children, List.mem_append, List.mem_cons, List.not_mem_nil, or_false,
      Option.mem_toList] at hc
    rcases hc with (rfl | rfl) | rfl
    · refine htests.mono ((infix_coerced c (c.written o)).trans ?_)
      simp only [List.append_assoc]
      exact (List.prefix_append _ _).isInfix
    · refine hbodies.mono ?_
      rw [List.append_assoc _ " : ".toList, List.append_assoc _ (c.written o)]
      exact List.infix_append' _ _ _
    · exact (halternatives c rfl).mono (List.suffix_append _ _).isInfix

/-- A test stands in the text of the expression that it belongs to. -/
theorem IsExpression.testsIn (he : IsExpression e) : TestsIn o (e.written o) e := by
  -- Names, comparands, pairs and argument lists are passed on the way down; none prints a test.
  induction he with
  | symbol name => exact testsIn_of_keyText? rfl
  | literal value => exact testsIn_of_keyText? rfl
  | @lookup target key htarget hkey iht ihk =>
    refine testsIn_of_children (.inl rfl) ?_
    rw [(writes_lookup htarget.writes hkey.writes).written_eq]
    refine List.forall_mem_cons.2 ⟨iht.mono (List.prefix_append _ _).isInfix, ?_⟩
    refine List.forall_mem_singleton.2 (ihk.mono ?_)
    exact ⟨target.written o ++ ['['], [']'], by simp⟩
  | @binary op left right hleft hright ihl ihr =>
    refine testsIn_of_children (.inr ⟨.binary op hleft hright, List.infix_rfl⟩) fun n hn => ?_
    have hin := (infix_beside op n (n.written o)).trans (infix_binary op hleft hright hn)
    rcases List.mem_pair.1 hn with rfl | rfl
    · exact ihl.mono hin
    · exact ihr.mono hin
  | @negation target htarget ih =>
    refine testsIn_of_children (.inr ⟨.negation htarget, List.infix_rfl⟩) ?_
    rw [(writes_negation htarget.writes).written_eq]
    have hin := (infix_bracketed target (target.written o)).trans (infix_truthTest true _)
    exact List.forall_mem_singleton.2 (ih.mono hin)
  | @comparison first rest hfirst hrest ihf ihr =>
    refine testsIn_of_children (.inl rfl) ?_
    rw [written_compareWith hfirst hrest]
    refine List.forall_mem_cons.2 ⟨ihf.mono (List.prefix_append _ _).isInfix, fun n hn => ?_⟩
    obtain ⟨p, hp, rfl⟩ := List.mem_map.1 hn
    have hin := List.infix_of_mem_flatten
      (List.mem_map_of_mem (f := fun p => (Node.comparand p.2 p.1).written o) hp)
    refine (testsIn_comparand p.1 (hrest p hp) (ihr p hp)).mono ?_
    exact hin.trans (List.suffix_append _ _).isInfix
  | inlineIf htest hbody halternative iht ihb iha =>
    exact testsIn_inlineIf htest hbody halternative iht ihb iha
  | @filter name args hname hargs ih =>
    obtain ⟨s, hs⟩ := Option.isSome_iff_exists.1 hname
    refine testsIn_of_children (.inl rfl) ?_
    rw [(writes_filter hs (forall₂_writes fun n hn => (hargs n hn).writes)).written_eq]
    have hkey := Node.keyText?_of_filterName? hname
    refine List.forall_mem_cons.2 ⟨testsIn_of_keyText? hkey, List.forall_mem_singleton.2 ?_⟩
    exact testsIn_list ih fun n hn => infix_filtered (List.mem_map_of_mem hn)
  | @call name args hname hargs ihn iha =>
    refine testsIn_of_children (.inl rfl) ?_
    rw [(writes_call hname.writes (forall₂_writes fun n hn => (hargs n hn).writes)).written_eq]
    refine List.forall_mem_cons.2 ⟨ihn.mono (List.prefix_append _ _).isInfix, ?_⟩
    refine List.forall_mem_singleton.2 (testsIn_list iha fun n hn => ?_)
    have hin := infix_intercalate_of_mem [',', ' '] (List.mem_map_of_mem (f := Node.written o) hn)
    exact (hin.trans ⟨['('], [')'], rfl⟩).trans (List.suffix_append _ _).isInfix
  | group hchildren ih =>
    refine testsIn_of_children (.inl rfl) fun n hn => (ih n hn).mono ?_
    rw [(writes_group (forall₂_writes fun n hn => (hchildren n hn).writes)).written_eq]
    have hin := List.infix_of_mem_flatten (List.mem_map_of_mem (f := Node.written o) hn)
    exact hin.trans ⟨['('], [')'], rfl⟩
  | @dict entries hkeys hvalues ih =>
    refine testsIn_of_children (.inl rfl) fun n hn => ?_
    rw [written_dict hkeys hvalues]
    obtain ⟨p, hp, rfl⟩ := List.mem_map.1 hn
    have hin := infix_intercalate_of_mem [',', ' ']
      (List.mem_map_of_mem (f := fun p => (Node.pair p.1 p.2).written o) hp)
    refine (testsIn_pair (hkeys p hp) (hvalues p hp) (ih p hp)).mono ?_
    exact hin.trans ⟨['\x7b'], ['\x7d'], rfl⟩

theorem mem_truthTests_binary {op : BinaryOp} {left right : Node} {t : TruthTest}
    (h : t ∈ (Node.binary op left right).truthTests o) :
    ∃ n ∈ [left, right], n.isBareVariable = true ∧ t.tested = n.written o ∧
      t.text = n.beside op (n.written o) := by
  rw [Node.truthTests] at h
  by_cases hop : op.isLogical = true
  · rw [if_pos hop] at h
    obtain ⟨n, hn, rfl⟩ := List.mem_map.1 h
    obtain ⟨hmem, hbare⟩ := List.mem_filter.1 hn
    refine ⟨n, hmem, hbare, rfl, ?_⟩
    simp [TruthTest.text, Node.beside, Node.coerced, hop, hbare]
  · rw [if_neg hop] at h
    cases h

theorem mem_truthTests_inlineIf {test body : Node} {alternative : Option Node} {t : TruthTest}
    (h : t ∈ (Node.inlineIf test body alternative).truthTests o) :
    o.collapsed? test body alternative = none ∧ test.isBareVariable = true ∧
      t.tested = test.written o ∧ t.text = test.coerced (test.written o) := by
  rw [Node.truthTests] at h
  by_cases hcondition : ((o.collapsed? test body alternative).isNone && test.isBareVariable) = true
  · rw [if_pos hcondition] at h
    obtain ⟨hnone, hbare⟩ := Bool.and_eq_true_iff.1 hcondition
    obtain rfl := List.mem_singleton.1 h
    refine ⟨Option.isNone_iff_eq_none.1 hnone, hbare, rfl, ?_⟩
    simp [TruthTest.text, Node.coerced, hbare]
  · rw [if_neg hcondition] at h
    cases h

/-- A head is read as a whole. -/
theorem IsExpression.atomic (he : IsExpression e) (htexts : e.HasTexts o Atomic)
    (hheads : e.HasHeads) (hhead : e.isHead = true) : Atomic (e.written o) := by
  have hbalanced : ∀ {k : Node}, IsExpression k → k.HasTexts o Atomic → Balanced (k.written o) :=
    fun hk ht => (hk.prints expressionText_balanced ht.balanced).written
  have hlist : ∀ {ks : List Node}, (∀ k ∈ ks, IsExpression k) → (∀ k ∈ ks, k.HasTexts o Atomic) →
      ∀ a ∈ ks.map (Node.written o), Balanced a := by
    intro ks hks hts a ha
    obtain ⟨k, hk, rfl⟩ := List.mem_map.1 ha
    exact hbalanced (hks k hk) (hts k hk)
  induction he with
  | symbol name =>
    rw [(writes_symbol name).written_eq]
    exact htexts.own (by simp [Node.ownTexts])
  | literal value =>
    rw [(writes_literal value).written_eq]
    exact atomic_ofScalar value
  | @lookup target key htarget hkey ih _ =>
    have hchild : target ∈ (Node.lookup target key).children := List.mem_cons_self
    have hhead := ih (htexts.child hchild) (hheads.child hchild) (hheads _ (Node.self_mem_nodes _))
    have hindex := hbalanced hkey (htexts.child (by simp [Node.children]))
    rw [(writes_lookup htarget.writes hkey.writes).written_eq]
    exact hhead.append (.enclosed hindex rfl)
  | @call name args hname hargs ih _ =>
    have hchild : name ∈ (Node.call name (.list args)).children := List.mem_cons_self
    have hhead := ih (htexts.child hchild) (hheads.child hchild) (hheads _ (Node.self_mem_nodes _))
    have hlistTexts : (Node.list args).HasTexts o Atomic := htexts.child (by simp [Node.children])
    have hinside := expressionText_balanced.intercalate (show ", " ∈ fixedTexts by decide)
      (hlist hargs fun n hn => hlistTexts.child hn)
    rw [(writes_call hname.writes (forall₂_writes fun n hn => (hargs n hn).writes)).written_eq]
    exact hhead.append (.enclosed hinside rfl)
  | group hchildren _ =>
    rw [(writes_group (forall₂_writes fun n hn => (hchildren n hn).writes)).written_eq]
    have hinside := expressionText_balanced.flatten (hlist hchildren fun n hn => htexts.child hn)
    exact .enclosed hinside rfl
  | @dict entries hkeys hvalues _ =>
    rw [written_dict hkeys hvalues]
    refine .enclosed (expressionText_balanced.intercalate (show ", " ∈ fixedTexts by decide) ?_) rfl
    intro a ha
    obtain ⟨p, hp, rfl⟩ := List.mem_map.1 ha
    obtain ⟨s, hs⟩ := Option.isSome_iff_exists.1 (hkeys p hp)
    have hpair : (Node.pair p.1 p.2).HasTexts o Atomic := htexts.child (List.mem_map_of_mem hp)
    have hvalue := hbalanced (hvalues p hp) (hpair.child (by simp [Node.children]))
    rw [written_pair hs (hvalues p hp)]
    exact (Balanced.quoted s).append ((Balanced.plain (by decide)).append hvalue)
  | _ => cases hhead

/-- The tests of an expression stand in its text, and what they test is read as a whole. -/
theorem IsExpression.ownTests (he : IsExpression e) (htexts : e.HasTexts o Atomic)
    (hheads : e.HasHeads) {t : TruthTest} (ht : t ∈ e.truthTests o) :
    t.text <:+: e.written o ∧ Atomic t.tested := by
  cases he with
  | @binary op left right hleft hright =>
    obtain ⟨n, hn, hbare, htested, htext⟩ := mem_truthTests_binary ht
    have hexpression : ∀ n ∈ [left, right], IsExpression n := by simpa using ⟨hleft, hright⟩
    rw [htext, htested]
    exact ⟨infix_binary op hleft hright hn, (hexpression n hn).atomic (htexts.child hn)
      (hheads.child hn) (Node.isHead_of_isBareVariable hbare)⟩
  | @negation target htarget =>
    obtain rfl := List.mem_singleton.1 ht
    have hchild : target ∈ (Node.negation target).children := List.mem_singleton_self target
    rw [(writes_negation htarget.writes).written_eq]
    refine ⟨List.infix_rfl, ?_⟩
    by_cases halone : target.standsAlone = true
    · have hhead := Node.isHead_of_standsAlone halone
      simpa [Node.bracketed, halone] using
        htarget.atomic (htexts.child hchild) (hheads.child hchild) hhead
    · have hbalanced := htarget.prints expressionText_balanced (htexts.child hchild).balanced
      have henclosed := Atomic.enclosed hbalanced.written (show closing? '(' = some ')' from rfl)
      simpa [Node.bracketed, halone] using henclosed
  | @inlineIf test body alternative htest hbody halternative =>
    obtain ⟨hnone, hbare, htested, htext⟩ := mem_truthTests_inlineIf ht
    have hchild : test ∈ (Node.inlineIf test body alternative).children := by simp [Node.children]
    rw [htext, htested, written_inlineIf hnone htest hbody halternative]
    refine ⟨?_, htest.atomic (htexts.child hchild) (hheads.child hchild)
      (Node.isHead_of_isBareVariable hbare)⟩
    simp only [List.append_assoc]
    exact (List.prefix_append _ _).isInfix
  | _ => cases ht

end Tests

/-- The brackets and strings of a printed expression are closed in it, and where its indices and
arguments stand behind heads, each of its truth tests stands in the text and tests a whole. -/
theorem truth_tests_are_atomic {o : Options} {e : Node} (he : IsExpression e)
    (hnames : e.HasSolidNames) (ho : o.HasSolidNames) :
    ∃ f, (e.print o false).result = .ok f ∧ Balanced f.chars ∧
      (e.HasHeads → ∀ m ∈ e.nodes, ∀ t ∈ m.truthTests o, t.text <:+: f.chars ∧ Atomic t.tested) := by
  have htexts := hnames.hasTexts ho
  obtain ⟨f, hf, hbalanced⟩ := he.prints expressionText_balanced htexts.balanced
  have hwritten : e.written o = f.chars := Writes.written_eq ⟨f, hf, rfl⟩
  refine ⟨f, hf, hbalanced, fun hheads m hm t ht => ?_⟩
  rcases he.testsIn m hm with hnone | ⟨hexpression, hin⟩
  · rw [hnone] at ht
    cases ht
  · have hbelow := Node.nodes_subset hm
    obtain ⟨htext, hatomic⟩ := hexpression.ownTests (fun k hk => htexts k (hbelow hk))
      (fun k hk => hheads k (hbelow hk)) ht
    exact ⟨hwritten ▸ htext.trans hin, hatomic⟩

/-- A property of what is called with a text of brackets and quotes. -/
def calledProperty : Node :=
  .lookup (.call (.symbol "f") (.list [.string ") \" ("])) (.string "a b")

theorem isExpression_calledProperty : IsExpression calledProperty := by
  have hcall : IsExpression (.call (.symbol "f") (.list [.string ") \" ("])) :=
    .call (.symbol "f") (by simpa using .literal (.string ") \" ("))
  exact .lookup hcall (.literal (.string "a b"))

/-- The blank of the key and the bracket of the argument stand in strings, so that the test of the
property, in the negation of a choice, is one of a whole. -/
theorem truth_test_of_calledProperty :
    ∃ f, ((Node.negation (.binary .or calledProperty (.symbol "x"))).print {} false).result = .ok f ∧
      Balanced f.chars ∧
      ("( f(\") \\\" (\")[\"a b\"] == true or " ++
        "f(\") \\\" (\")[\"a b\"] is not empty )").toList <:+: f.chars ∧
      Atomic "f(\") \\\" (\")[\"a b\"]".toList := by
  have hexpression := isExpression_calledProperty.binary .or (.symbol "x")
  obtain ⟨f, hf, hbalanced, htests⟩ := truth_tests_are_atomic (o := {}) hexpression.negation
    (by decide) (by decide)
  have hmem := Node.mem_nodes_of_child (n := .negation (.binary .or calledProperty (.symbol "x")))
    List.mem_cons_self (Node.self_mem_nodes _)
  have htest := htests (by decide) _ hmem ⟨false, "f(\") \\\" (\")[\"a b\"]".toList⟩ (by decide)
  exact ⟨f, hf, hbalanced, htest⟩

end TwigPrinter
