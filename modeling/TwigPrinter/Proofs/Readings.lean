import TwigPrinter.Proofs.Spelling
import TwigPrinter.Proofs.Splitting
/-!
Expressions can be read back from what is printed for them.

A primary is a head with indices and arguments behind it, an operand is a primary with filters
behind it. So a text is taken apart from left to right: first the head, then one suffix after the
other, and each of them ends at a character that cannot belong to it. What stands in brackets is an
expression again, which is where the induction comes in: `ExpressionOver Q` has `Q` for these.
-/
namespace TwigPrinter

namespace Text

theorem scanString_escapeChars_append (s r : List Char) :
    scanString (escapeChars s ++ '"' :: r) = some (s, r) := by
  induction s with
  | nil => simp [escapeChars, scanString]
  | cons c s ih =>
    by_cases hc : c = '"' ∨ c = '\\'
    · simp [escapeChars, hc, scanString, ih]
    · obtain ⟨hquote, hslash⟩ := not_or.1 hc
      simp [escapeChars, scanString, hquote, hslash, ih]

theorem escapeChars_append_inj {s t u v : List Char}
    (h : escapeChars s ++ '"' :: u = escapeChars t ++ '"' :: v) : s = t ∧ u = v := by
  have hscan := congrArg scanString h
  simpa [scanString_escapeChars_append] using hscan

end Text

/-- The text ends here or goes on with one of the characters. -/
def StartsIn (cs r : List Char) : Prop := ∀ c ∈ r.head?, c ∈ cs

@[simp] theorem startsIn_nil (cs : List Char) : StartsIn cs [] := by simp [StartsIn]

@[simp] theorem startsIn_cons {cs r : List Char} {c : Char} : StartsIn cs (c :: r) ↔ c ∈ cs := by
  simp [StartsIn]

theorem StartsIn.mono {cs ds r : List Char} (h : StartsIn cs r) (hsub : cs ⊆ ds) : StartsIn ds r :=
  fun c hc => hsub (h c hc)

/-- The characters behind an expression in brackets. -/
def closers : List Char := [',', ')', ']']

def BehindExpression : List Char → Prop := StartsIn closers

/-- Behind an operand there can be an operator or the rest of a truth test, but no filter. -/
def BehindOperand (r : List Char) : Prop :=
  StartsIn (' ' :: closers) r ∧ ¬ " | ".toList <+: r

def BehindPrimary : List Char → Prop := StartsIn (' ' :: closers)

/-- Behind a head, or behind the name of a filter, there can be brackets as well. -/
def BehindHead : List Char → Prop := StartsIn ('(' :: '[' :: ' ' :: closers)

theorem BehindExpression.behindOperand {r : List Char} (h : BehindExpression r) :
    BehindOperand r := by
  refine ⟨h.mono (by decide), ?_⟩
  rintro ⟨t, rfl⟩
  simp [BehindExpression, closers] at h

theorem BehindPrimary.behindHead {r : List Char} (h : BehindPrimary r) : BehindHead r :=
  h.mono (by decide)

theorem BehindHead.breaksOff {r : List Char} (h : BehindHead r) : BreaksOff isWordChar r := by
  intro c hc
  have hmem : c ∈ breaks := (show '(' :: '[' :: ' ' :: closers ⊆ breaks by decide) (h c hc)
  simpa [isWordChar] using hmem

theorem behindOperand_token_append (op : BinaryOp) (r : List Char) :
    BehindOperand (op.token.toList ++ r) := by
  cases op <;> simp [BehindOperand, BinaryOp.token]

theorem token_append_inj {op op' : BinaryOp} {r s : List Char}
    (h : op.token.toList ++ r = op'.token.toList ++ s) : op = op' ∧ r = s := by
  cases op <;> cases op' <;> simp_all [BinaryOp.token]

/-- What can be put behind a primary. -/
inductive Suffix where
  | index (key : Node)
  | arguments (args : List Node)

namespace Suffix

def attach (n : Node) : Suffix → Node
  | .index key => .lookup n key
  | .arguments args => .call n (.seq .list args)

def inner : Suffix → List Node
  | .index key => [key]
  | .arguments args => args

def spelling : Suffix → List Char
  | .index key => '[' :: key.spelling ++ [']']
  | .arguments args => '(' :: [',', ' '].intercalate (args.map Node.spelling) ++ [')']

theorem spelling_attach (n : Node) (s : Suffix) :
    (attach n s).spelling = n.spelling ++ s.spelling := by
  cases s <;> simp [attach, spelling, Node.spelling]

end Suffix

@[ext] structure FilterUse where
  name : String
  args : List Node

namespace FilterUse

def attach (n : Node) (u : FilterUse) : Node :=
  .filter (.symbol u.name) (.seq .list (n :: u.args))

def spelling (u : FilterUse) : List Char :=
  " | ".toList ++ u.name.toList ++ Node.filterArguments (u.args.map Node.spelling)

theorem spelling_attach (n : Node) (u : FilterUse) :
    (attach n u).spelling = n.spelling ++ u.spelling := by
  simp [attach, spelling, Node.spelling]

end FilterUse

theorem spelling_foldl {α : Type} (attach : Node → α → Node) (text : α → List Char)
    (h : ∀ n a, (attach n a).spelling = n.spelling ++ text a) (n : Node) (as : List α) :
    (as.foldl attach n).spelling = n.spelling ++ as.flatMap text := by
  induction as generalizing n with
  | nil => simp
  | cons a as ih => simp [ih, h]

section Layers

variable (Q : Node → Prop)

inductive HeadOver : Node → Prop where
  | symbol {name : String} : IsWord name → HeadOver (.symbol name)
  | string (s : String) : HeadOver (.literal (.string s))
  | group {inner : Node} : Q inner → HeadOver (.seq .group [inner])

def PrimaryOver (n : Node) : Prop :=
  ∃ (head : Node) (ss : List Suffix), HeadOver Q head ∧ (∀ s ∈ ss, ∀ k ∈ s.inner, Q k) ∧
    n = ss.foldl Suffix.attach head

def OperandOver (n : Node) : Prop :=
  ∃ (value : Node) (us : List FilterUse), PrimaryOver Q value ∧
    (∀ u ∈ us, IsWord u.name ∧ ∀ a ∈ u.args, Q a) ∧ n = us.foldl FilterUse.attach value

/-- An expression of which only the outermost layer is known: the expressions in brackets are only
known to have `Q`. -/
inductive ExpressionOver : Node → Prop where
  | operand {n : Node} : OperandOver Q n → ExpressionOver n
  | binary (op : BinaryOp) {left right : Node} : OperandOver Q left → OperandOver Q right →
      ExpressionOver (.binary op left right)

def LayerOver : Rank → Node → Prop
  | .primary => PrimaryOver Q
  | .operand => OperandOver Q
  | .expression => ExpressionOver Q

variable {Q}

theorem HeadOver.primaryOver {n : Node} (h : HeadOver Q n) : PrimaryOver Q n :=
  ⟨n, [], h, by simp, rfl⟩

theorem PrimaryOver.attach {n : Node} {s : Suffix} (h : PrimaryOver Q n) (hs : ∀ k ∈ s.inner, Q k) :
    PrimaryOver Q (s.attach n) := by
  obtain ⟨head, ss, hhead, hss, rfl⟩ := h
  refine ⟨head, ss ++ [s], hhead, ?_, by simp⟩
  simpa [or_imp, forall_and] using ⟨hss, hs⟩

theorem OperandOver.attach {n : Node} {u : FilterUse} (h : OperandOver Q n)
    (hu : IsWord u.name ∧ ∀ a ∈ u.args, Q a) : OperandOver Q (u.attach n) := by
  obtain ⟨value, us, hvalue, hus, rfl⟩ := h
  refine ⟨value, us ++ [u], hvalue, ?_, by simp⟩
  intro w hw
  rcases List.mem_append.1 hw with hw | hw
  · exact hus w hw
  · rwa [List.mem_singleton.1 hw]

/-- Expressions can be taken layer by layer. -/
theorem HasRank.layerOver (hQ : ∀ n, HasRank .expression n → ExpressionOver Q n → Q n) {c : Rank}
    {n : Node} (h : HasRank c n) : LayerOver Q c n := by
  -- What stands in brackets gets `Q` from its own layer; the node to the left keeps its layer, to
  -- which one more suffix or filter is added.
  induction h with
  | symbol hname => exact (HeadOver.symbol hname).primaryOver
  | string s => exact (HeadOver.string s).primaryOver
  | @lookup target key _ hkey ihtarget ihkey =>
    have hinner : ∀ k ∈ (Suffix.index key).inner, Q k := by
      simpa [Suffix.inner] using hQ key hkey ihkey
    exact ihtarget.attach hinner
  | @call name args _ hargs ihname ihargs =>
    have hinner : ∀ a ∈ (Suffix.arguments args).inner, Q a := fun a ha =>
      hQ a (hargs a ha) (ihargs a ha)
    exact ihname.attach hinner
  | group hinner ih => exact (HeadOver.group (hQ _ hinner ih)).primaryOver
  | @ofPrimary n _ ih => exact ⟨n, [], ih, by simp, rfl⟩
  | @filter name value args hname _ hargs ihvalue ihargs =>
    exact OperandOver.attach (u := ⟨name, args⟩) ihvalue
      ⟨hname, fun a ha => hQ a (hargs a ha) (ihargs a ha)⟩
  | ofOperand _ ih => exact .operand ih
  | binary op _ _ ihleft ihright => exact .binary op ihleft ihright

theorem HasRank.expressionOver {n : Node} (h : HasRank .expression n) :
    ExpressionOver (HasRank .expression) n :=
  h.layerOver (Q := HasRank .expression) fun _ hn _ => hn

/-- Induction on expressions, with `Q` for the expressions in brackets. -/
theorem HasRank.layer_induction (hQ : ∀ n, HasRank .expression n → ExpressionOver Q n → Q n)
    {n : Node} (h : HasRank .expression n) : Q n :=
  hQ n h (h.layerOver hQ)

end Layers

section Openings

theorem IsWord.append_ne_cons {name : String} (h : IsWord name) {c : Char} (hc : c ∈ breaks)
    (r t : List Char) : name.toList ++ r ≠ c :: t := by
  intro heq
  obtain ⟨hne, hall⟩ := h
  cases hchars : name.toList with
  | nil => exact hne hchars
  | cons d ds =>
    rw [hchars] at heq hall
    obtain ⟨rfl, _⟩ := List.cons.inj heq
    simp [isWordChar, hc] at hall

namespace Node

variable {op : BinaryOp} {n : Node} {text : List Char}

theorem beside_tested (h : (op.isLogical && n.isBareVariable) = true) :
    n.beside op text =
      '(' :: ' ' :: (text ++ (" == true or ".toList ++ text ++ " is not empty )".toList)) := by
  obtain ⟨hop, hbare⟩ := Bool.and_eq_true_iff.1 h
  simp [beside, coerced, truthTest, hop, hbare]

theorem beside_plain (h : ¬ (op.isLogical && n.isBareVariable) = true) :
    n.beside op text = text := by
  unfold beside coerced
  cases hop : op.isLogical with
  | false => rfl
  | true =>
    have hbare : n.isBareVariable = false := by simpa [hop] using h
    simp [hbare]

end Node

/-- The text starts, and not with a character that comes behind an expression or a primary. -/
def Opens (u : List Char) : Prop := ∃ d t, u = d :: t ∧ d ∉ ' ' :: '[' :: closers

theorem opens_cons {d : Char} {t : List Char} : Opens (d :: t) ↔ d ∉ ' ' :: '[' :: closers := by
  simp [Opens]

theorem Opens.append {u : List Char} (h : Opens u) (r : List Char) : Opens (u ++ r) := by
  obtain ⟨d, t, rfl, hd⟩ := h
  exact opens_cons.2 hd

theorem IsWord.opens {name : String} (h : IsWord name) : Opens name.toList := by
  cases hchars : name.toList with
  | nil => exact absurd hchars h.1
  | cons d t =>
    refine opens_cons.2 fun hd => ?_
    have hbreak : d ∈ breaks := (show ' ' :: '[' :: closers ⊆ breaks by decide) hd
    exact h.append_ne_cons hbreak [] t (by simp [hchars])

theorem Opens.beside {n : Node} {u : List Char} (h : Opens u) (op : BinaryOp) :
    Opens (n.beside op u) := by
  by_cases htest : (op.isLogical && n.isBareVariable) = true
  · rw [Node.beside_tested htest]
    exact opens_cons.2 (by decide)
  · rwa [Node.beside_plain htest]

theorem HasRank.opens {c : Rank} {n : Node} (h : HasRank c n) : Opens n.spelling := by
  induction h with
  | symbol hname => exact hname.opens
  | string s => exact opens_cons.2 (by decide)
  | lookup _ _ ih _ => exact ih.append _
  | call _ _ ih _ => exact ih.append _
  | group _ _ => exact opens_cons.2 (by decide)
  | ofPrimary _ ih => exact ih
  | filter _ _ _ ih _ => exact ih.append _
  | ofOperand _ ih => exact ih
  | binary op _ _ ih _ => exact ((ih.beside op).append _).append _

variable {Q : Node → Prop}

theorem HeadOver.append_ne_test {n : Node} (h : HeadOver Q n)
    (hQ : ∀ k, Q k → HasRank .expression k) (r t : List Char) :
    n.spelling ++ r ≠ '(' :: ' ' :: t := by
  cases h with
  | symbol hname => exact hname.append_ne_cons (by decide) r (' ' :: t)
  | string s => simp [Node.spelling]
  | group hinner =>
    obtain ⟨d, u, hd, hopen⟩ := (hQ _ hinner).opens
    intro heq
    obtain ⟨rfl, _⟩ : d = ' ' ∧ _ := by simpa [Node.spelling, hd] using heq
    exact hopen List.mem_cons_self

/-- No operand starts as a truth test does. -/
theorem OperandOver.append_ne_test {n : Node} (h : OperandOver Q n)
    (hQ : ∀ k, Q k → HasRank .expression k) (r t : List Char) :
    n.spelling ++ r ≠ '(' :: ' ' :: t := by
  obtain ⟨_, us, ⟨head, ss, hhead, _, rfl⟩, _, rfl⟩ := h
  rw [spelling_foldl _ _ FilterUse.spelling_attach, spelling_foldl _ _ Suffix.spelling_attach,
    List.append_assoc, List.append_assoc]
  exact hhead.append_ne_test hQ _ t

end Openings

/-- An expression that can be read back from its text, whatever comes behind it. -/
def Readable (n : Node) : Prop :=
  HasRank .expression n ∧ ∀ m r s, HasRank .expression m → BehindExpression r → BehindExpression s →
    n.spelling ++ r = m.spelling ++ s → n = m ∧ r = s

section Heads

variable {m n : Node} {r s : List Char}

theorem Readable.append_cons_inj (hn : Readable n) (hm : HasRank .expression m) {c : Char}
    (hc : c ∈ closers) (h : n.spelling ++ c :: r = m.spelling ++ c :: s) : n = m ∧ r = s := by
  obtain ⟨rfl, hrest⟩ := hn.2 m (c :: r) (c :: s) hm (startsIn_cons.2 hc) (startsIn_cons.2 hc) h
  exact ⟨rfl, (List.cons.inj hrest).2⟩

theorem HeadOver.append_inj (hn : HeadOver Readable n) (hm : HeadOver (HasRank .expression) m)
    (hr : BehindHead r) (hs : BehindHead s) (h : n.spelling ++ r = m.spelling ++ s) :
    n = m ∧ r = s := by
  cases hn with
  | symbol hname =>
    cases hm with
    | symbol hname' =>
      obtain ⟨hnames, hrest⟩ := append_inj_of_breaksOff (List.all_eq_true.1 hname.2)
        (List.all_eq_true.1 hname'.2) hr.breaksOff hs.breaksOff h
      exact ⟨by rw [String.toList_inj.1 hnames], hrest⟩
    | string t => exact absurd h (hname.append_ne_cons (by decide) _ _)
    | group _ => exact absurd h (hname.append_ne_cons (by decide) _ _)
  | string t =>
    cases hm with
    | symbol hname' => exact absurd h.symm (hname'.append_ne_cons (by decide) _ _)
    | string t' =>
      obtain ⟨hcontent, hrest⟩ : t.toList = t'.toList ∧ r = s :=
        Text.escapeChars_append_inj (by simpa [Node.spelling] using h)
      exact ⟨by rw [String.toList_inj.1 hcontent], hrest⟩
    | group _ => simp [Node.spelling] at h
  | @group inner hinner =>
    cases hm with
    | symbol hname' => exact absurd h.symm (hname'.append_ne_cons (by decide) _ _)
    | string t' => simp [Node.spelling] at h
    | @group inner' hinner' =>
      have hround : ')' ∈ closers := by decide
      obtain ⟨rfl, hrest⟩ := hinner.append_cons_inj hinner' hround
        (by simpa [Node.spelling] using h)
      exact ⟨rfl, hrest⟩

end Heads

section Arguments

variable (blanks : List Char) {as bs : List Node} {r s : List Char}

/-- An argument that is not the first one. -/
def nextArgument (n : Node) : List Char := ',' :: blanks ++ n.spelling

theorem intercalate_spellings (a : Node) (as : List Node) :
    (',' :: blanks).intercalate ((a :: as).map Node.spelling) =
      a.spelling ++ as.flatMap (nextArgument blanks) := by
  induction as generalizing a with
  | nil => simp
  | cons b as ih =>
    simp only [List.map_cons] at ih ⊢
    simp [List.intercalate_cons_cons, ih, nextArgument]

/-- What comes behind the last argument. -/
def Closes (u : List Char) : Prop := ∃ t, u = ')' :: t

theorem Closes.behindExpression {u : List Char} (h : Closes u) : BehindExpression u := by
  obtain ⟨t, rfl⟩ := h
  simp [BehindExpression, closers]

theorem isPiece_nextArgument (n : Node) :
    IsPiece BehindExpression Closes (nextArgument blanks n) := by
  simp [IsPiece, nextArgument, Closes, BehindExpression, closers]

theorem Readable.nextArgument_inj {a b : Node} (ha : Readable a) (hb : HasRank .expression b)
    (hr : BehindExpression r) (hs : BehindExpression s)
    (h : nextArgument blanks a ++ r = nextArgument blanks b ++ s) : a = b ∧ r = s :=
  ha.2 b r s hb hr hs (by simpa [nextArgument] using h)

theorem HasRank.append_not_closes {c : Rank} {n : Node} (h : HasRank c n) (r : List Char) :
    ¬ Closes (n.spelling ++ r) := by
  have hopens := h.opens.append r
  rintro ⟨t, heq⟩
  rw [heq] at hopens
  exact opens_cons.1 hopens (by decide)

/-- Arguments are told apart by the commas between them, with or without blanks behind these. -/
theorem arguments_append_inj (has : ∀ a ∈ as, Readable a) (hbs : ∀ b ∈ bs, HasRank .expression b)
    (h : (',' :: blanks).intercalate (as.map Node.spelling) ++ ')' :: r =
      (',' :: blanks).intercalate (bs.map Node.spelling) ++ ')' :: s) : as = bs ∧ r = s := by
  cases as with
  | nil =>
    cases bs with
    | nil => simpa using h
    | cons b bs =>
      rw [intercalate_spellings, List.append_assoc] at h
      exact absurd ⟨r, h.symm⟩ ((hbs b List.mem_cons_self).append_not_closes _)
  | cons a as =>
    cases bs with
    | nil =>
      rw [intercalate_spellings, List.append_assoc] at h
      exact absurd ⟨s, h⟩ ((has a List.mem_cons_self).1.append_not_closes _)
    | cons b bs =>
      rw [intercalate_spellings, intercalate_spellings] at h
      rw [List.forall_mem_cons] at has hbs
      obtain ⟨rfl, rfl, hend⟩ := append_flatMap_append_inj (nextArgument blanks) BehindExpression
        Closes (fun _ => Closes.behindExpression) (fun c _ => isPiece_nextArgument blanks c)
        (fun u v => has.1.2 b u v hbs.1) (fun c _ => isPiece_nextArgument blanks c)
        (fun c hc d hd u v => (has.2 c hc).nextArgument_inj blanks (hbs.2 d hd)) ⟨r, rfl⟩ ⟨s, rfl⟩ h
      exact ⟨rfl, (List.cons.inj hend).2⟩

end Arguments

section Rows

variable {m n : Node} {r s : List Char}

theorem Suffix.isPiece (x : Suffix) : IsPiece BehindHead BehindPrimary x.spelling := by
  cases x <;> simp [IsPiece, spelling, BehindHead, BehindPrimary, closers]

theorem Suffix.append_inj {x y : Suffix} (hx : ∀ k ∈ x.inner, Readable k)
    (hy : ∀ k ∈ y.inner, HasRank .expression k) (h : x.spelling ++ r = y.spelling ++ s) :
    x = y ∧ r = s := by
  cases x with
  | index key =>
    cases y with
    | index key' =>
      have hsquare : ']' ∈ closers := by decide
      have hkey := hx key List.mem_cons_self
      obtain ⟨rfl, hrest⟩ := hkey.append_cons_inj (hy key' List.mem_cons_self) hsquare
        (by simpa [spelling] using h)
      exact ⟨rfl, hrest⟩
    | arguments args' => simp [spelling] at h
  | arguments args =>
    cases y with
    | index key' => simp [spelling] at h
    | arguments args' =>
      obtain ⟨rfl, hrest⟩ := arguments_append_inj [' '] hx hy (by simpa [spelling, inner] using h)
      exact ⟨rfl, hrest⟩

theorem PrimaryOver.append_inj (hn : PrimaryOver Readable n)
    (hm : PrimaryOver (HasRank .expression) m) (hr : BehindPrimary r) (hs : BehindPrimary s)
    (h : n.spelling ++ r = m.spelling ++ s) : n = m ∧ r = s := by
  obtain ⟨head, xs, hhead, hxs, rfl⟩ := hn
  obtain ⟨head', ys, hhead', hys, rfl⟩ := hm
  rw [spelling_foldl _ _ Suffix.spelling_attach, spelling_foldl _ _ Suffix.spelling_attach] at h
  obtain ⟨rfl, rfl, hend⟩ := append_flatMap_append_inj Suffix.spelling BehindHead BehindPrimary
    (fun _ => BehindPrimary.behindHead) (fun x _ => x.isPiece) (fun _ _ => hhead.append_inj hhead')
    (fun y _ => y.isPiece) (fun x hx y hy _ _ _ _ => Suffix.append_inj (hxs x hx) (hys y hy))
    hr hs h
  exact ⟨rfl, hend⟩

theorem FilterUse.isPiece (x : FilterUse) : IsPiece BehindPrimary BehindOperand x.spelling := by
  intro u
  refine ⟨by simp [spelling, BehindPrimary], fun h => h.2 ?_⟩
  rw [spelling, List.append_assoc, List.append_assoc]
  exact List.prefix_append _ _

theorem filterArguments_behindHead (args : List Node) (hr : BehindPrimary r) :
    BehindHead (Node.filterArguments (args.map Node.spelling) ++ r) := by
  cases args with
  | nil => exact hr.behindHead
  | cons a args => simp [Node.filterArguments, BehindHead]

theorem filterArguments_append_inj {as bs : List Node} (has : ∀ a ∈ as, Readable a)
    (hbs : ∀ b ∈ bs, HasRank .expression b) (hr : BehindPrimary r) (hs : BehindPrimary s)
    (h : Node.filterArguments (as.map Node.spelling) ++ r =
      Node.filterArguments (bs.map Node.spelling) ++ s) : as = bs ∧ r = s := by
  cases as with
  | nil =>
    cases bs with
    | nil => exact ⟨rfl, h⟩
    | cons b bs =>
      obtain rfl : r = _ := h
      simp [Node.filterArguments, BehindPrimary, closers] at hr
  | cons a as =>
    cases bs with
    | nil =>
      obtain rfl : s = _ := h.symm
      simp [Node.filterArguments, BehindPrimary, closers] at hs
    | cons b bs => exact arguments_append_inj [] has hbs (by simpa [Node.filterArguments] using h)

theorem FilterUse.append_inj {x y : FilterUse} (hx : IsWord x.name ∧ ∀ a ∈ x.args, Readable a)
    (hy : IsWord y.name ∧ ∀ a ∈ y.args, HasRank .expression a) (hr : BehindPrimary r)
    (hs : BehindPrimary s) (h : x.spelling ++ r = y.spelling ++ s) : x = y ∧ r = s := by
  simp only [spelling, List.append_assoc, List.append_cancel_left_eq] at h
  obtain ⟨hnames, hargs⟩ := append_inj_of_breaksOff (List.all_eq_true.1 hx.1.2)
    (List.all_eq_true.1 hy.1.2) (filterArguments_behindHead x.args hr).breaksOff
    (filterArguments_behindHead y.args hs).breaksOff h
  obtain ⟨hsame, hrest⟩ := filterArguments_append_inj hx.2 hy.2 hr hs hargs
  exact ⟨FilterUse.ext (String.toList_inj.1 hnames) hsame, hrest⟩

theorem OperandOver.append_inj (hn : OperandOver Readable n)
    (hm : OperandOver (HasRank .expression) m) (hr : BehindOperand r) (hs : BehindOperand s)
    (h : n.spelling ++ r = m.spelling ++ s) : n = m ∧ r = s := by
  obtain ⟨value, xs, hvalue, hxs, rfl⟩ := hn
  obtain ⟨value', ys, hvalue', hys, rfl⟩ := hm
  rw [spelling_foldl _ _ FilterUse.spelling_attach,
    spelling_foldl _ _ FilterUse.spelling_attach] at h
  obtain ⟨rfl, rfl, hend⟩ := append_flatMap_append_inj FilterUse.spelling BehindPrimary
    BehindOperand (fun _ => And.left) (fun x _ => x.isPiece) (fun _ _ => hvalue.append_inj hvalue')
    (fun y _ => y.isPiece) (fun x hx y hy _ _ => FilterUse.append_inj (hxs x hx) (hys y hy)) hr hs h
  exact ⟨rfl, hend⟩

/-- An operand is told apart from another one also where one or both of them are tested. -/
theorem beside_append_inj {op op' : BinaryOp} (hn : OperandOver Readable n)
    (hm : OperandOver (HasRank .expression) m) (hr : BehindOperand r) (hs : BehindOperand s)
    (h : n.beside op n.spelling ++ r = m.beside op' m.spelling ++ s) : n = m ∧ r = s := by
  by_cases hn' : (op.isLogical && n.isBareVariable) = true
  · by_cases hm' : (op'.isLogical && m.isBareVariable) = true
    · -- The first copies of the operands are read; then the second copies are the same text.
      rw [Node.beside_tested hn', Node.beside_tested hm'] at h
      simp only [List.cons_append, List.append_assoc, List.cons.injEq, true_and] at h
      obtain ⟨rfl, hrest⟩ := hn.append_inj hm (by simp [BehindOperand]) (by simp [BehindOperand]) h
      exact ⟨rfl, by simpa using hrest⟩
    · rw [Node.beside_tested hn', Node.beside_plain hm'] at h
      exact absurd h.symm (hm.append_ne_test (fun _ hk => hk) _ _)
  · by_cases hm' : (op'.isLogical && m.isBareVariable) = true
    · rw [Node.beside_plain hn', Node.beside_tested hm'] at h
      exact absurd h (hn.append_ne_test (fun _ hk => hk.1) _ _)
    · rw [Node.beside_plain hn', Node.beside_plain hm'] at h
      exact hn.append_inj hm hr hs h

end Rows

section Expressions

variable {m n : Node} {r s : List Char}

theorem BehindExpression.ne_token_append (h : BehindExpression r) (op : BinaryOp) (t : List Char) :
    r ≠ op.token.toList ++ t := by
  rintro rfl
  cases op <;> simp [BehindExpression, closers, BinaryOp.token] at h

/-- An operand that stands alone is printed as one beside `+`. -/
theorem beside_add (n : Node) : n.beside .add n.spelling = n.spelling := rfl

theorem ExpressionOver.append_inj (hn : ExpressionOver Readable n)
    (hm : ExpressionOver (HasRank .expression) m) (hr : BehindExpression r)
    (hs : BehindExpression s) (h : n.spelling ++ r = m.spelling ++ s) : n = m ∧ r = s := by
  cases hn with
  | operand hn =>
    cases hm with
    | operand hm => exact hn.append_inj hm hr.behindOperand hs.behindOperand h
    | binary op' hl' hr' =>
      -- The operand would be the left one of the other expression, with a token behind it.
      rw [Node.spelling, List.append_assoc, List.append_assoc, ← beside_add n] at h
      obtain ⟨_, hrest⟩ := beside_append_inj hn hl' hr.behindOperand
        (behindOperand_token_append op' _) h
      exact absurd hrest (hr.ne_token_append op' _)
  | binary op hl hr₂ =>
    cases hm with
    | operand hm =>
      rw [Node.spelling, List.append_assoc, List.append_assoc, ← beside_add m] at h
      obtain ⟨_, hrest⟩ := beside_append_inj hl hm (behindOperand_token_append op _)
        hs.behindOperand h
      exact absurd hrest.symm (hs.ne_token_append op _)
    | binary op' hl' hr' =>
      simp only [Node.spelling, List.append_assoc] at h
      obtain ⟨rfl, hrest⟩ := beside_append_inj hl hl' (behindOperand_token_append op _)
        (behindOperand_token_append op' _) h
      obtain ⟨rfl, hright⟩ := token_append_inj hrest
      obtain ⟨rfl, hend⟩ := beside_append_inj hr₂ hr' hr.behindOperand hs.behindOperand hright
      exact ⟨rfl, hend⟩

theorem HasRank.readable (h : HasRank .expression n) : Readable n :=
  h.layer_induction (Q := Readable) fun _ hn hlayer =>
    ⟨hn, fun _ _ _ hm hr hs => hlayer.append_inj hm.expressionOver hr hs⟩

theorem HasRank.spelling_inj (hm : HasRank .expression m) (hn : HasRank .expression n)
    (h : m.spelling = n.spelling) : m = n := by
  have hboth : m.spelling ++ [] = n.spelling ++ [] := by rw [h]
  exact (hm.readable.2 n [] [] hn (by simp [BehindExpression]) (by simp [BehindExpression]) hboth).1

end Expressions

section Printed

variable {o : Options} {m n : Node}

/-- Two expressions are both printed, and as the same text only if they are the same. -/
theorem printed_alike_iff_eq (ho : o.filterRenames = []) (hm : HasRank .expression m)
    (hn : HasRank .expression n) :
    ∃ f g, (m.print o false).result = .ok f ∧ (n.print o false).result = .ok g ∧
      (f.render = g.render ↔ m = n) := by
  obtain ⟨f, hf, hfchars⟩ := hm.isSpelled ho
  obtain ⟨g, hg, hgchars⟩ := hn.isSpelled ho
  refine ⟨f, g, hf, hg, fun h => hm.spelling_inj hn ?_, ?_⟩
  · rw [← hfchars, ← hgchars, Fragment.chars, Fragment.chars, h]
  · rintro rfl
    obtain rfl : f = g := by simpa [hf] using hg
    rfl

/-- `y or (x|join(...))` with strings for the arguments. -/
def joined (args : List String) : Node :=
  .binary .or (.symbol "y")
    (.filter (.symbol "join") (.seq .list (.symbol "x" :: args.map fun s => .literal (.string s))))

theorem hasRank_joined (args : List String) : HasRank .expression (joined args) := by
  have hstrings : ∀ a ∈ args.map fun s => Node.literal (.string s), HasRank .expression a := by
    rintro _ ha
    obtain ⟨s, _, rfl⟩ := List.mem_map.1 ha
    exact .ofOperand (.ofPrimary (.string s))
  exact .binary .or (.ofPrimary (.symbol (by decide)))
    (.filter (by decide) (.ofPrimary (.symbol (by decide))) hstrings)

/-- Two arguments, and one that has the text between them in it. -/
theorem printed_apart_by_escapes :
    ∃ f g, ((joined ["a", "b"]).print { filterRenames := [] } false).result = .ok f ∧
      ((joined ["a\",\"b"]).print { filterRenames := [] } false).result = .ok g ∧
      f.render ≠ g.render := by
  obtain ⟨f, g, hf, hg, hiff⟩ := printed_alike_iff_eq (o := { filterRenames := [] }) rfl
    (hasRank_joined ["a", "b"]) (hasRank_joined ["a\",\"b"])
  exact ⟨f, g, hf, hg, fun h => by simpa [joined] using hiff.1 h⟩

-- A renamed filter is printed as the one that has its name.
example : ((Node.filter (.symbol "safe") (.seq .list [.symbol "x"])).print {} false).result =
    ((Node.filter (.symbol "raw") (.seq .list [.symbol "x"])).print {} false).result := by
  rfl

end Printed
end TwigPrinter
