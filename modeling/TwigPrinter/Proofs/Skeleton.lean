import TwigPrinter.Proofs.Concatenation
import TwigPrinter.Proofs.ScalarText
import TwigPrinter.Template.Build
/-!
Strings of a template cannot change what stands around them in the Twig source. The skeleton of a
text is the text without what stands in its strings, which are found from left to right with a
backslash protecting the character after it. Whatever a template has in its strings, its source has
the same skeleton.

The proof compares a template with the one that has all its strings emptied (`Node.blank`). Every
printed part leaves the scan outside of all strings, so that skeletons of parts can be put together.
-/
namespace TwigPrinter

/-- The skeleton of a text, from outside of a string or from inside of one. -/
def skeletonFrom : Bool → List Char → List Char
  | _, [] => []
  | false, c :: rest => c :: skeletonFrom (c == '"') rest
  | true, '"' :: rest => '"' :: skeletonFrom false rest
  | true, '\\' :: _ :: rest => skeletonFrom true rest
  | true, _ :: rest => skeletonFrom true rest

/-- A text without what stands in its strings. -/
def skeleton (s : String) : List Char := skeletonFrom false s.toList

/-- A text after which the scan is outside of all strings. -/
def EndsOutside (cs : List Char) : Prop :=
  ∀ rest, skeletonFrom false (cs ++ rest) = skeletonFrom false cs ++ skeletonFrom false rest

/-- Nothing of an escaped content is left, and the quote behind it ends the string. -/
theorem skeletonFrom_escapeChars (cs rest : List Char) :
    skeletonFrom true (Text.escapeChars cs ++ '"' :: rest) = '"' :: skeletonFrom false rest := by
  induction cs with
  | nil => simp [Text.escapeChars, skeletonFrom]
  | cons c cs ih =>
    rw [Text.escapeChars]
    split
    · simpa [skeletonFrom] using ih
    · rename_i h
      rw [not_or] at h
      rw [List.cons_append, skeletonFrom]
      · exact ih
      · exact h.1
      · simp [h.2]

theorem skeletonFrom_quoted (s : String) (rest : List Char) :
    skeletonFrom false ((Fragment.quoted s).chars ++ rest) =
      '"' :: '"' :: skeletonFrom false rest := by
  simp [skeletonFrom, skeletonFrom_escapeChars]

theorem skeletonFrom_append_of_not_mem {cs : List Char} (h : '"' ∉ cs) (rest : List Char) :
    skeletonFrom false (cs ++ rest) = cs ++ skeletonFrom false rest := by
  induction cs with
  | nil => rfl
  | cons c cs ih =>
    simp only [List.mem_cons, not_or] at h
    have hc : (c == '"') = false := by simpa using Ne.symm h.1
    rw [List.cons_append, skeletonFrom, hc, ih h.2, List.cons_append]

/-- Two texts with the same skeleton, after which the scan is outside of all strings. -/
structure Alike (cs ds : List Char) : Prop where
  left : EndsOutside cs
  right : EndsOutside ds
  skeleton : skeletonFrom false cs = skeletonFrom false ds

theorem EndsOutside.append {cs ds : List Char} (hc : EndsOutside cs) (hd : EndsOutside ds) :
    EndsOutside (cs ++ ds) := by
  intro rest
  rw [List.append_assoc, hc, hd, hc, List.append_assoc]

theorem Alike.append {cs ds cs' ds' : List Char} (h : Alike cs ds) (h' : Alike cs' ds') :
    Alike (cs ++ cs') (ds ++ ds') where
  left := h.left.append h'.left
  right := h.right.append h'.right
  skeleton := by rw [h.left, h.right, h.skeleton, h'.skeleton]

theorem endsOutside_of_not_mem {cs : List Char} (h : '"' ∉ cs) : EndsOutside cs := by
  intro rest
  have hself := skeletonFrom_append_of_not_mem h []
  rw [List.append_nil] at hself
  rw [skeletonFrom_append_of_not_mem h, hself, skeletonFrom, List.append_nil]

theorem alike_of_not_mem {cs : List Char} (h : '"' ∉ cs) : Alike cs cs :=
  ⟨endsOutside_of_not_mem h, endsOutside_of_not_mem h, rfl⟩

theorem endsOutside_quoted (s : String) : EndsOutside (Fragment.quoted s).chars := by
  intro rest
  have hself := skeletonFrom_quoted s []
  rw [List.append_nil] at hself
  rw [skeletonFrom_quoted, hself]
  rfl

/-- All strings have the same skeleton. -/
theorem alike_quoted (s t : String) : Alike (Fragment.quoted s).chars (Fragment.quoted t).chars where
  left := endsOutside_quoted s
  right := endsOutside_quoted t
  skeleton := by
    have hs := skeletonFrom_quoted s []
    have ht := skeletonFrom_quoted t []
    rw [List.append_nil] at hs ht
    rw [hs, ht]

theorem concatenative_alike : Concatenative Alike where
  fixed := by
    intro s hs
    have htext : s = "\"\"" ∨ '"' ∉ s.toList := by
      revert s
      decide
    rcases htext with rfl | h
    · simpa [Text.escapeChars] using alike_quoted "" ""
    · exact alike_of_not_mem h
  append := Alike.append
  round := by
    intro cs ds h
    have hopen : Alike ['('] ['('] := alike_of_not_mem (by decide)
    have hclose : Alike [')'] [')'] := alike_of_not_mem (by decide)
    exact (hopen.append h).append hclose
  square := by
    intro cs ds h
    have hopen : Alike ['['] ['['] := alike_of_not_mem (by decide)
    have hclose : Alike [']'] [']'] := alike_of_not_mem (by decide)
    exact (hopen.append h).append hclose

/-- The same scalar up to the content of a string. -/
def Scalar.blank : Scalar → Scalar
  | .string _ => .string ""
  | value => value

namespace Node

mutual

/-- The template with all its strings emptied, except for names of filters. -/
def blank : Node → Node
  | .seq form children => .seq form (blankAll children)
  | .data text => .data text
  | .symbol name => .symbol name
  | .literal value => .literal value.blank
  | .lookup target key => .lookup target.blank key.blank
  | .binary op left right => .binary op left.blank right.blank
  | .negation target => .negation target.blank
  | .comparison first rest => .comparison first.blank (blankAll rest)
  | .comparand operand op => .comparand operand.blank op
  | .ifBlock test body alternative => .ifBlock test.blank body.blank (blankOption alternative)
  | .inlineIf test body alternative => .inlineIf test.blank body.blank (blankOption alternative)
  | .forLoop target items body alternative =>
    .forLoop target.blank items.blank body.blank (blankOption alternative)
  | .filter name args => .filter (if name.filterName?.isSome then name else name.blank) args.blank
  | .call name args => .call name.blank args.blank
  | .inclusion template ignoreMissing => .inclusion template.blank ignoreMissing
  | .assignment targets value body =>
    .assignment (blankAll targets) (blankOption value) (blankOption body)
  | .capture body => .capture body.blank
  | .pair key value => .pair key.blank value.blank
  | .other name => .other name

def blankAll : List Node → List Node
  | [] => []
  | n :: rest => n.blank :: blankAll rest

def blankOption : Option Node → Option Node
  | none => none
  | some n => some n.blank

end

theorem blankAll_eq_map (ns : List Node) : blankAll ns = ns.map blank := by
  induction ns with
  | nil => rfl
  | cons n rest ih => simp [blankAll, ih]

theorem blankOption_eq_map (n : Option Node) : blankOption n = n.map blank := by cases n <;> rfl

theorem kind_blank (n : Node) : n.blank.kind = n.kind := by cases n <;> rfl

theorem isBareVariable_blank (n : Node) : n.blank.isBareVariable = n.isBareVariable := by
  cases n <;> rfl

theorem standsAlone_blank (n : Node) : n.blank.standsAlone = n.standsAlone := by
  cases n with
  | seq form children => cases form <;> rfl
  | _ => rfl

theorem needsOutputTag_blank (n : Node) : n.blank.needsOutputTag = n.needsOutputTag := by
  cases n with
  | seq form children => cases form <;> rfl
  | _ => rfl

theorem hasOwnTag_blank (n : Node) : n.blank.hasOwnTag = n.hasOwnTag := by
  cases n with
  | seq form children => cases form <;> rfl
  | _ => rfl

theorem operands_blank (n : Node) : n.blank.operands = n.operands.map blank := by
  cases n with
  | seq form children => cases form <;> simp [blank, operands, blankAll_eq_map]
  | _ => simp [blank, operands]

theorem isSome_keyText?_blank (n : Node) : n.blank.keyText?.isSome = n.keyText?.isSome := by
  cases n <;> rfl

theorem collapsed?_blank (o : Options) (test body : Node) (alternative : Option Node) :
    o.collapsed? test.blank body.blank (alternative.map blank) =
      o.collapsed? test body alternative := by
  cases test with
  | symbol x =>
    cases body with
    | symbol y => cases alternative <;> rfl
    | _ => rfl
  | _ => rfl

/-- A filter keeps its name, also when that is given as a string. -/
theorem filterName?_blank (name : Node) :
    (if name.filterName?.isSome then name else name.blank).filterName? = name.filterName? := by
  cases name with
  | literal value => cases value <;> rfl
  | _ => rfl

theorem parts_blank (o : Options) (n : Node) :
    n.blank.parts o = (n.parts o).map fun p => (p.1.blank, p.2) := by
  cases n with
  | seq form children => cases form <;> simp [blank, parts, blankAll_eq_map]
  | inlineIf test body alternative =>
    simp only [blank, parts, blankOption_eq_map, collapsed?_blank]
    split <;> cases alternative <;> simp
  | ifBlock test body alternative => cases alternative <;> simp [blank, parts, blankOption]
  | comparison first rest => simp [blank, parts, blankAll_eq_map]
  | filter name args => simp [blank, parts, operands_blank]
  | call name args => simp [blank, parts, operands_blank]
  | inclusion template ignoreMissing =>
    cases template with
    | literal value => cases value <;> simp [blank, parts, Scalar.blank]
    | _ => simp [blank, parts]
  | assignment targets value body =>
    cases value <;> cases body <;> simp [blank, parts, blankAll_eq_map, blankOption]
  | _ => simp [blank, parts]

theorem refusal?_blank (n : Node) : n.blank.refusal? = n.refusal? := by
  cases n with
  | forLoop target items body alternative => cases alternative <;> rfl
  | filter name args =>
    have hkind : (if name.filterName?.isSome then name else name.blank).kind = name.kind := by
      split
      · rfl
      · exact kind_blank name
    simp [blank, refusal?, filterName?_blank, hkind]
  | pair key value =>
    have hkey := isSome_keyText?_blank key
    simp only [blank, refusal?, kind_blank, ← Option.not_isSome, hkey]
  | _ => rfl

theorem shortage?_blank (n : Node) : n.blank.shortage? = n.shortage? := by
  cases n with
  | assignment targets value body => cases value <;> cases body <;> rfl
  | _ => rfl

/-- The texts of a node that are printed as they are. -/
def outsideTexts : Node → List String
  | .data text => [text]
  | .symbol name => [name]
  | .comparand _ op => [op]
  | .filter name _ => name.filterName?.toList
  | _ => []

/-- No text that is printed as it is has a quote in it. -/
def HasNoQuotes (n : Node) : Prop := ∀ m ∈ n.nodes, ∀ s ∈ m.outsideTexts, '"' ∉ s.toList

instance (n : Node) : Decidable n.HasNoQuotes :=
  inferInstanceAs (Decidable (∀ m ∈ n.nodes, ∀ s ∈ m.outsideTexts, '"' ∉ s.toList))

theorem HasNoQuotes.self {n : Node} (h : n.HasNoQuotes) : ∀ s ∈ n.outsideTexts, '"' ∉ s.toList :=
  h n (self_mem_nodes n)

theorem HasNoQuotes.of_mem_visited {m n : Node} (h : n.HasNoQuotes) (hm : m ∈ n.visited) :
    m.HasNoQuotes := fun k hk => h k (nodes_subset (mem_nodes_of_mem_visited hm) hk)

end Node

/-- No new name of a filter has a quote in it. -/
def Options.HasNoQuotes (o : Options) : Prop := ∀ r ∈ o.filterRenames, '"' ∉ r.2.toList

instance (o : Options) : Decidable o.HasNoQuotes :=
  inferInstanceAs (Decidable (∀ r ∈ o.filterRenames, '"' ∉ r.2.toList))

theorem Options.HasNoQuotes.filterName {o : Options} (ho : o.HasNoQuotes) {name : String}
    (h : '"' ∉ name.toList) : '"' ∉ (o.filterName name).toList :=
  Options.filterName_of_forall (Q := fun s => '"' ∉ s.toList) h ho

theorem not_mem_comparisonOp {op : String} (h : '"' ∉ op.toList) :
    '"' ∉ (comparisonOp op).toList :=
  comparisonOp_of_forall (Q := fun s => '"' ∉ s.toList) h (by decide)

theorem not_mem_collapsed? {o : Options} {test body : Node} {alternative : Option Node}
    (h : (Node.inlineIf test body alternative).HasNoQuotes) :
    '"' ∉ ((o.collapsed? test body alternative).getD "").toList := by
  cases hname : o.collapsed? test body alternative with
  | none => decide
  | some x =>
    obtain ⟨rfl, -, -⟩ := Node.collapsed?_eq_some hname
    have htest := h.of_mem_visited (m := .symbol x) (by simp [Node.visited])
    exact htest.self x (by simp [Node.outsideTexts])

section Content

variable {f g f₁ f₂ f₃ g₁ g₂ g₃ : Fragment} {fs gs : List Fragment}

theorem alike_text {s : String} (h : '"' ∉ s.toList) :
    Alike (Fragment.text s).chars (Fragment.text s).chars := by
  simpa using alike_of_not_mem h

theorem alike_wrap {marks : Delimiters} (hmarks : marks ≠ .quote) (emit : Bool)
    (h : Alike f.chars g.chars) :
    Alike (Fragment.wrap f marks emit).chars (Fragment.wrap g marks emit).chars := by
  have hsides : '"' ∉ marks.left.toList ∧ '"' ∉ marks.right.toList := by
    cases marks with
    | quote => exact (hmarks rfl).elim
    | _ => decide
  cases emit with
  | false => simpa using h
  | true =>
    have hopen := (alike_of_not_mem hsides.1).append h
    simpa using hopen.append (alike_of_not_mem hsides.2)

theorem alike_statement (h : Alike f.chars g.chars) :
    Alike (Fragment.statement f).chars (Fragment.statement g).chars :=
  alike_wrap (by decide) true h

theorem alike_ofScalar (value : Scalar) :
    Alike (Fragment.ofScalar value).chars (Fragment.ofScalar value.blank).chars := by
  cases value with
  | string s => exact alike_quoted s ""
  | _ => exact alike_text ((Scalar.isBare_text (by simp)).quote_not_mem)

theorem alike_ifBlock (h₁ : Alike f₁.chars g₁.chars) (h₂ : Alike f₂.chars g₂.chars)
    (h : List.Forall₂ (fun f g => Alike f.chars g.chars) fs gs) :
    Alike (Fragment.ifBlock f₁ f₂ fs.head?).chars (Fragment.ifBlock g₁ g₂ gs.head?).chars := by
  have hopen := concatenative_alike.seq (.cons (alike_text (s := "if ") (by decide)) (.cons h₁ .nil))
  have hclose := alike_statement (alike_text (s := "endif") (by decide))
  cases h with
  | nil =>
    exact concatenative_alike.seq (.cons (alike_statement hopen) (.cons h₂ (.cons hclose .nil)))
  | cons h₃ _ =>
    have helse := alike_statement (alike_text (s := "else") (by decide))
    exact concatenative_alike.seq
      (.cons (alike_statement hopen) (.cons h₂ (.cons helse (.cons h₃ (.cons hclose .nil)))))

theorem alike_forBlock (h₁ : Alike f₁.chars g₁.chars) (h₂ : Alike f₂.chars g₂.chars)
    (h₃ : Alike f₃.chars g₃.chars) :
    Alike (Fragment.forBlock f₁ f₂ f₃).chars (Fragment.forBlock g₁ g₂ g₃).chars := by
  have hfor := alike_text (s := "for ") (by decide)
  have hin := alike_text (s := " in ") (by decide)
  have hopen := concatenative_alike.seq (.cons hfor (.cons h₁ (.cons hin (.cons h₂ .nil))))
  have hclose := alike_statement (alike_text (s := "endfor") (by decide))
  exact concatenative_alike.seq (.cons (alike_statement hopen) (.cons h₃ (.cons hclose .nil)))

theorem alike_inclusion (ignoreMissing : Bool) (h : Alike f.chars g.chars) :
    Alike (Fragment.inclusion f ignoreMissing).chars (Fragment.inclusion g ignoreMissing).chars := by
  have hinclude := alike_text (s := "include ") (by decide)
  have hignore := alike_text (s := " ignore missing") (by decide)
  cases ignoreMissing with
  | false => exact alike_statement (concatenative_alike.seq (.cons hinclude (.cons h .nil)))
  | true =>
    exact alike_statement (concatenative_alike.seq (.cons hinclude (.cons h (.cons hignore .nil))))

theorem alike_assignment (h₁ : Alike f₁.chars g₁.chars) (h₂ : Alike f₂.chars g₂.chars) :
    Alike (Fragment.assignment f₁ f₂).chars (Fragment.assignment g₁ g₂).chars := by
  have hset := alike_text (s := "set ") (by decide)
  have hequals := alike_text (s := " = ") (by decide)
  exact alike_statement
    (concatenative_alike.seq (.cons hset (.cons h₁ (.cons hequals (.cons h₂ .nil)))))

theorem alike_assignmentBlock (h₁ : Alike f₁.chars g₁.chars) (h₂ : Alike f₂.chars g₂.chars) :
    Alike (Fragment.assignmentBlock f₁ f₂).chars (Fragment.assignmentBlock g₁ g₂).chars := by
  have hset := alike_text (s := "set ") (by decide)
  have hopen := alike_statement (concatenative_alike.seq (.cons hset (.cons h₁ .nil)))
  have hclose := alike_statement (alike_text (s := "endset") (by decide))
  exact concatenative_alike.seq (.cons hopen (.cons h₂ (.cons hclose .nil)))

theorem alike_outputItem (n : Node) (h : Alike f.chars g.chars) :
    Alike (n.outputItem f).chars (n.blank.outputItem g).chars := by
  unfold Node.outputItem
  rw [Node.needsOutputTag_blank]
  split
  · exact alike_wrap (by decide) true h
  · exact h

theorem forall₂_outputItem (ns : List Node)
    (h : List.Forall₂ (fun f g => Alike f.chars g.chars) fs gs) :
    List.Forall₂ (fun f g => Alike f.chars g.chars) (List.zipWith Node.outputItem ns fs)
      (List.zipWith Node.outputItem (ns.map Node.blank) gs) := by
  induction h generalizing ns with
  | nil => simp
  | cons hfg _ ih =>
    cases ns with
    | nil => simp
    | cons n ns => exact .cons (alike_outputItem n hfg) (ih ns)

theorem forall₂_dropLast (h : List.Forall₂ (fun f g => Alike f.chars g.chars) fs gs) :
    List.Forall₂ (fun f g => Alike f.chars g.chars) fs.dropLast gs.dropLast := by
  rw [List.dropLast_eq_take, List.dropLast_eq_take, h.length_eq]
  exact List.forall₂_take _ h

theorem alike_getLastD (h : List.Forall₂ (fun f g => Alike f.chars g.chars) fs gs)
    (hfg : Alike f.chars g.chars) : Alike (fs.getLastD f).chars (gs.getLastD g).chars := by
  induction h generalizing f g with
  | nil => exact hfg
  | cons hhead _ ih => simpa only [List.getLastD_cons] using ih hhead

/-- The printed forms of a node and of the one with empty strings, from those of their parts. -/
theorem alike_content {o : Options} (ho : o.HasNoQuotes) {n : Node} (hn : n.HasNoQuotes)
    (h : List.Forall₂ (fun f g => Alike f.chars g.chars) fs gs) :
    Alike (n.content o fs).chars (n.blank.content o gs).chars := by
  -- a node with a fixed number of parts is printed as nothing from any other number of them
  have hempty : Alike (Fragment.seq []).chars (Fragment.seq []).chars := concatenative_alike.seq .nil
  cases n with
  | seq form children =>
    cases form with
    | output =>
      rw [Node.blank, Node.blankAll_eq_map]
      exact concatenative_alike.seq (forall₂_outputItem children h)
    | group => exact concatenative_alike.brackets (concatenative_alike.seq h)
    | dict =>
      have hjoined := concatenative_alike.joined (show ", " ∈ fixedTexts by decide) h
      exact alike_wrap (by decide) true hjoined
    | root => exact concatenative_alike.seq h
    | list => exact concatenative_alike.seq h
  | data text => exact alike_text (hn.self text (by simp [Node.outsideTexts]))
  | symbol name => exact alike_text (hn.self name (by simp [Node.outsideTexts]))
  | literal value => exact alike_ofScalar value
  | lookup target key =>
    rcases h with _ | ⟨hbase, _ | ⟨hindex, _ | _⟩⟩
    · exact hempty
    · exact hempty
    · exact concatenative_alike.lookup hbase hindex
    · exact hempty
  | binary op left right =>
    rcases h with _ | ⟨hl, _ | ⟨hr, _ | _⟩⟩
    · exact hempty
    · exact hempty
    · exact concatenative_alike.binary op (Node.isBareVariable_blank left).symm
        (Node.isBareVariable_blank right).symm hl hr
    · exact hempty
  | negation target =>
    rcases h with _ | ⟨hinner, _ | _⟩
    · exact hempty
    · exact concatenative_alike.negation (Node.standsAlone_blank target).symm hinner
    · exact hempty
  | comparison first rest => exact concatenative_alike.seq h
  | comparand operand op =>
    have hop := not_mem_comparisonOp (hn.self op (by simp [Node.outsideTexts]))
    rcases h with _ | ⟨hright, _ | _⟩
    · exact hempty
    · exact concatenative_alike.comparand (alike_of_not_mem hop) hright
    · exact hempty
  | ifBlock test body alternative =>
    rcases h with _ | ⟨htest, _ | ⟨hbody, hrest⟩⟩
    · exact hempty
    · exact hempty
    · exact alike_ifBlock htest hbody hrest
  | inlineIf test body alternative =>
    rcases h with _ | ⟨htest, _ | ⟨hbody, hrest⟩⟩
    · rw [Node.blank, Node.blankOption_eq_map, Node.content, Node.content, Node.collapsed?_blank]
      exact alike_text (not_mem_collapsed? hn)
    · exact hempty
    · have hcoerced := concatenative_alike.coerce (Node.isBareVariable_blank test).symm htest
      exact concatenative_alike.choice hcoerced hbody hrest
  | forLoop target items body alternative =>
    rcases h with _ | ⟨htarget, _ | ⟨hitems, _ | ⟨hbody, _ | _⟩⟩⟩
    · exact hempty
    · exact hempty
    · exact hempty
    · exact alike_forBlock htarget hitems hbody
    · exact hempty
  | filter name args =>
    rw [Node.blank, Node.content, Node.content, Node.filterName?_blank]
    have hname : '"' ∉ (name.filterName?.getD "").toList := by
      cases hfound : name.filterName? with
      | none => decide
      | some s => exact hn.self s (by simp [Node.outsideTexts, hfound])
    exact concatenative_alike.filterCall (alike_of_not_mem (ho.filterName hname)) h
  | call name args =>
    rcases h with _ | ⟨hname, hargs⟩
    · exact hempty
    · exact concatenative_alike.call hname hargs
  | inclusion template ignoreMissing =>
    cases template with
    | literal value =>
      cases value with
      | string path => exact alike_inclusion ignoreMissing (alike_quoted _ _)
      | _ =>
        rcases h with _ | ⟨htarget, _ | _⟩
        · exact hempty
        · exact alike_inclusion ignoreMissing htarget
        · exact hempty
    | _ =>
      rcases h with _ | ⟨htarget, _ | _⟩
      · exact hempty
      · exact alike_inclusion ignoreMissing htarget
      · exact hempty
  | assignment targets value body =>
    have hnames := concatenative_alike.joined (show ", " ∈ fixedTexts by decide) (forall₂_dropLast h)
    have hlast := alike_getLastD h hempty
    cases value with
    | some value => exact alike_assignment hnames hlast
    | none =>
      cases body with
      | some body => exact alike_assignmentBlock hnames hlast
      | none => exact hempty
  | capture body =>
    rcases h with _ | ⟨hbody, _ | _⟩
    · exact hempty
    · exact hbody
    · exact hempty
  | pair key value =>
    rcases h with _ | ⟨hvalue, _ | _⟩
    · exact hempty
    · exact concatenative_alike.between (show ": " ∈ fixedTexts by decide) (alike_quoted _ _) hvalue
    · exact hempty
  | other name => exact hempty

end Content

/-- The same error, or answers in the relation. -/
def Agree {α β : Type} (R : α → β → Prop) : Except PrintError α → Except PrintError β → Prop
  | .ok a, .ok b => R a b
  | .error e, .error e' => e = e'
  | _, _ => False

section Agree

variable {α β γ δ : Type} {R : α → β → Prop} {S : γ → δ → Prop}

theorem Agree.bind {x : Except PrintError α} {y : Except PrintError β} {f : α → Except PrintError γ}
    {g : β → Except PrintError δ} (h : Agree R x y) (hfg : ∀ a b, R a b → Agree S (f a) (g b)) :
    Agree S (x >>= f) (y >>= g) := by
  match x, y, h with
  | .ok a, .ok b, h => exact hfg a b h
  | .error _, .error _, h => exact h

theorem agree_refuse (e : Option PrintError) : Agree (fun _ _ => True) (refuse e) (refuse e) := by
  cases e with
  | none => trivial
  | some e => rfl

theorem agree_printParts {o : Options} {r : Node → Node} {R : Fragment → Fragment → Prop}
    {ps : List (Node × Bool)}
    (h : ∀ p ∈ ps, Agree R (p.1.print o p.2).result ((r p.1).print o p.2).result) :
    Agree (List.Forall₂ R) (printParts o ps) (printParts o (ps.map fun p => (r p.1, p.2))) := by
  induction ps with
  | nil => exact .nil
  | cons p ps ih =>
    simp only [List.map_cons, printParts_cons]
    refine (h p List.mem_cons_self).bind fun f g hfg => ?_
    refine (ih fun q hq => h q (List.mem_cons_of_mem p hq)).bind fun fs gs hrest => ?_
    exact .cons hfg hrest

end Agree

/-- A node and the one with empty strings have the same answer up to the strings in it. -/
theorem agree_print_blank {o : Options} (ho : o.HasNoQuotes) {n : Node} (hn : n.HasNoQuotes)
    (wrap : Bool) :
    Agree (fun f g => Alike f.chars g.chars) (n.print o wrap).result
      (n.blank.print o wrap).result := by
  induction n using Node.visited_induction generalizing wrap with
  | step n ih =>
    rw [Node.result_print, Node.result_print, Node.refusal?_blank, Node.shortage?_blank,
      Node.parts_blank]
    have hparts : Agree (List.Forall₂ fun f g => Alike f.chars g.chars) (printParts o (n.parts o))
        (printParts o ((n.parts o).map fun p => (p.1.blank, p.2))) := by
      refine agree_printParts fun p hp => ?_
      have hvisited := Node.fst_mem_visited hp
      exact ih p.1 hvisited (hn.of_mem_visited hvisited) p.2
    refine (agree_refuse n.refusal?).bind fun _ _ _ => ?_
    refine hparts.bind fun fs gs hfs => ?_
    refine (agree_refuse n.shortage?).bind fun _ _ _ => ?_
    have hcontent := alike_content ho hn hfs
    unfold Node.assemble
    rw [Node.hasOwnTag_blank]
    split
    · exact alike_wrap (by decide) wrap hcontent
    · exact hcontent

theorem skeleton_toTwig_blank {o : Options} (ho : o.HasNoQuotes) {n : Node} (hn : n.HasNoQuotes) :
    skeleton <$> (n.toTwig o).result = skeleton <$> (n.blank.toTwig o).result := by
  have h := agree_print_blank ho hn false
  rw [Node.result_toTwig, Node.result_toTwig]
  match hx : (n.print o false).result, hy : (n.blank.print o false).result, h with
  | .ok f, .ok g, h => exact congrArg Except.ok h.skeleton
  | .error e, .error e', h => exact congrArg Except.error h

/-- Templates that differ in strings only: the same error for both, or sources with the same
skeleton. -/
theorem skeleton_toTwig_eq_of_blank_eq {o : Options} {a b : Node} (hab : a.blank = b.blank)
    (ha : a.HasNoQuotes) (hb : b.HasNoQuotes) (ho : o.HasNoQuotes) :
    skeleton <$> (a.toTwig o).result = skeleton <$> (b.toTwig o).result := by
  rw [skeleton_toTwig_blank ho ha, hab, skeleton_toTwig_blank ho hb]

/-- Strings of quotes and backslashes, as the path of an inclusion and as a key and a value of a
dictionary, against plain ones. -/
theorem skeleton_toTwig_of_quotes_and_backslashes :
    skeleton <$> ((Node.list [.includeOf (.string "./\" %\x7d"),
        .seq .output [.dict [(.string "k\\", .attr (.symbol "x") "\\\"")]]]).toTwig {}).result =
      skeleton <$> ((Node.list [.includeOf (.string "page"),
        .seq .output [.dict [(.string "", .attr (.symbol "x") "name")]]]).toTwig {}).result :=
  skeleton_toTwig_eq_of_blank_eq rfl (by decide) (by decide) (by decide)

end TwigPrinter
