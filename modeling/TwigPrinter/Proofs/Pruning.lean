import TwigPrinter.Proofs.Defects
/-!
What reading a document passes over. `Value.prune` takes out of a document, at every depth, the members
that are null and those that the kind of their object has no field for; the items of an array all stay.
Nothing of that is looked at: a document and what is left of it are read as the same template, or
refused for the same reason. What stays is what can matter, since no field of a kind is passed over.
-/
namespace TwigPrinter
namespace Value

def isNull : Value → Bool
  | .null => true
  | _ => false

/-- An object of a named kind has the name of the kind and its fields; nothing is known about the
members of any other object. -/
def lists (members : List (String × Value)) (name : String) : Bool :=
  (Node.typename? members).all fun kind =>
    name == "typename" || (Kind.ofName kind).fields.any (·.name == name)

def keeps (members : List (String × Value)) (name : String) : Bool :=
  (members.lookup name).all (!·.isNull) && lists members name

mutual

/-- The document without the members that are null or that their object is not known to have. -/
def prune : Value → Value
  | .array items => .array (pruneItems items)
  | .object members => .object (pruneMembers (keeps members) members)
  | v => v

def pruneItems : List Value → List Value
  | [] => []
  | v :: rest => v.prune :: pruneItems rest

def pruneMembers (keep : String → Bool) : List (String × Value) → List (String × Value)
  | [] => []
  | (name, v) :: rest =>
    if keep name then (name, v.prune) :: pruneMembers keep rest else pruneMembers keep rest

end

theorem pruneItems_eq_map (items : List Value) : pruneItems items = items.map prune := by
  induction items with
  | nil => rfl
  | cons v rest ih => simp [pruneItems, ih]

theorem lookup_pruneMembers (keep : String → Bool) (members : List (String × Value))
    (name : String) :
    (pruneMembers keep members).lookup name =
      if keep name then (members.lookup name).map prune else none := by
  induction members with
  | nil => simp [pruneMembers]
  | cons m rest ih =>
    obtain ⟨key, v⟩ := m
    rw [pruneMembers, List.lookup_cons]
    by_cases hname : name = key
    · subst hname
      cases hkeep : keep name <;> simp [hkeep, ih]
    · have hne : (name == key) = false := by simpa using hname
      cases keep key <;> simp [ih, hne, List.lookup_cons]

theorem prune_eq_null_iff {v : Value} : v.prune = .null ↔ v = .null := by
  cases v <;> simp [prune]

theorem prune_eq_string_iff {v : Value} {s : String} : v.prune = .string s ↔ v = .string s := by
  cases v <;> simp [prune]

theorem typename?_pruneMembers (members : List (String × Value)) :
    Node.typename? (pruneMembers (keeps members) members) = Node.typename? members := by
  have hstring : ∀ kind, Node.typename? (pruneMembers (keeps members) members) = some kind ↔
      Node.typename? members = some kind := by
    intro kind
    rw [typename?_eq_some_iff, lookup_pruneMembers]
    constructor
    · intro h
      split at h
      · obtain ⟨v, hv, hstring⟩ := Option.map_eq_some_iff.1 h
        rw [typename?_eq_some_iff, hv, prune_eq_string_iff.1 hstring]
      · cases h
    · intro h
      have hlookup := typename?_eq_some_iff.1 h
      have hkeeps : keeps members "typename" = true := by simp [keeps, lists, hlookup, h, isNull]
      simp [hkeeps, hlookup, prune]
  exact Option.ext hstring

section Induction

def parts : Value → List Value
  | .array items => items
  | .object members => members.map Prod.snd
  | _ => []

theorem sizeOf_lt_of_mem_parts {v w : Value} (h : w ∈ v.parts) : sizeOf w < sizeOf v := by
  cases v with
  | array items =>
    have hlt : sizeOf w < sizeOf items := List.sizeOf_lt_of_mem h
    simp only [array.sizeOf_spec]
    omega
  | object members =>
    obtain ⟨⟨name, w⟩, hm, rfl⟩ := List.mem_map.1 h
    have hlt := List.sizeOf_lt_of_mem hm
    simp only [object.sizeOf_spec, Prod.mk.sizeOf_spec] at hlt ⊢
    omega
  | _ => cases h

/-- Induction along the items of arrays and the members of objects. -/
theorem parts_induction {P : Value → Prop} (step : ∀ v, (∀ w ∈ v.parts, P w) → P v) (v : Value) :
    P v :=
  step v fun w _ => parts_induction step w
termination_by sizeOf v
decreasing_by exact sizeOf_lt_of_mem_parts ‹_›

theorem mem_parts_of_lookup {members : List (String × Value)} {name : String} {v : Value}
    (h : members.lookup name = some v) : v ∈ (object members).parts := by
  obtain ⟨before, after, rfl, -⟩ := List.lookup_eq_some_iff.1 h
  simp [parts]

end Induction
end Value

/-- A reading of a member whose value is pruned, and is read as the same nodes as before. -/
def Reading.prune (r : Reading) : Reading := { r with value := r.value.prune }

namespace Fields

/-- The field of that name was pruned. -/
structure Pruned (fs fs' : Fields) (name : String) : Prop where
  kind : fs'.kind = fs.kind
  get? : fs'.get? name = (fs.get? name).map Reading.prune

namespace Pruned

variable {fs fs' : Fields} {name : String}

theorem fail {α : Type} (h : Pruned fs fs' name) (defect : Defect) :
    (fs'.fail defect : Except Malformed α) = fs.fail defect := by
  rw [Fields.fail, Fields.fail, h.kind]

-- every way to read a field tells values apart only by what pruning leaves as it is
theorem node (h : Pruned fs fs' name) : fs'.node name = fs.node name := by
  rw [Fields.node, Fields.node, h.get?, h.fail]
  cases fs.get? name <;> rfl

theorem optional (h : Pruned fs fs' name) : fs'.optional name = fs.optional name := by
  rw [Fields.optional, Fields.optional, h.get?]
  cases fs.get? name <;> rfl

theorem list (h : Pruned fs fs' name) : fs'.list name = fs.list name := by
  rw [Fields.list, Fields.list, h.get?, h.fail]
  cases fs.get? name <;> rfl

theorem text (h : Pruned fs fs' name) : fs'.text name = fs.text name := by
  rw [Fields.text, Fields.text, h.get?, h.fail]
  cases fs.get? name with
  | none => rfl
  | some r =>
    obtain ⟨v, node, list?⟩ := r
    cases v <;> simp [Reading.prune, Value.prune, h.fail]

theorem flag (h : Pruned fs fs' name) : fs'.flag name = fs.flag name := by
  rw [Fields.flag, Fields.flag, h.get?]
  cases fs.get? name with
  | none => rfl
  | some r =>
    obtain ⟨v, node, list?⟩ := r
    cases v <;> simp [Reading.prune, Value.prune, h.fail]

theorem scalar (h : Pruned fs fs' name) : fs'.scalar name = fs.scalar name := by
  rw [Fields.scalar, Fields.scalar, h.get?]
  cases fs.get? name with
  | none => rfl
  | some r =>
    obtain ⟨v, node, list?⟩ := r
    cases v <;> simp [Reading.prune, Value.prune, h.fail]

end Pruned

/-- A node is read from its fields and from nothing else. -/
theorem assemble_eq_of_pruned {fs fs' : Fields} {k : Kind}
    (h : ∀ f ∈ k.fields, Pruned fs fs' f.name) : fs'.assemble k = fs.assemble k := by
  cases k <;> simp only [Kind.fields, List.forall_mem_cons] at h
  case seq => rw [assemble, assemble, h.1.list]
  case data | symbol => rw [assemble, assemble, h.1.text]
  case literal => rw [assemble, assemble, h.1.scalar]
  case lookup | binary | filter | call | pair =>
    rw [assemble, assemble, h.1.node, h.2.1.node]
  case negation | capture => rw [assemble, assemble, h.1.node]
  case comparison => rw [assemble, assemble, h.1.node, h.2.1.list]
  case comparand => rw [assemble, assemble, h.1.node, h.2.1.text]
  case ifBlock | inlineIf =>
    rw [assemble, assemble, h.1.node, h.2.1.node, h.2.2.1.optional]
  case forLoop =>
    rw [assemble, assemble, h.1.node, h.2.1.node, h.2.2.1.node, h.2.2.2.1.optional]
  case inclusion => rw [assemble, assemble, h.1.node, h.2.1.flag]
  case assignment =>
    rw [assemble, assemble, h.1.list, h.2.1.optional, h.2.2.1.optional]
  case other => rfl

end Fields

namespace Value

open Node (reading readings)

theorem get?_pruneMembers {kind : String} {members : List (String × Value)} {name : String}
    (hlists : lists members name = true)
    (hread : ∀ v, members.lookup name = some v → reading v.prune = (reading v).prune) :
    (Fields.mk kind (readings (pruneMembers (keeps members) members))).get? name =
      ((Fields.mk kind (readings members)).get? name).map Reading.prune := by
  cases hmember : members.lookup name with
  | none =>
    rw [Fields.get?_of_absent kind (.inl hmember), Fields.get?_of_absent kind]
    · rfl
    · simp [lookup_pruneMembers, hmember]
  | some v =>
    by_cases hnull : v = .null
    · subst hnull
      rw [Fields.get?_of_absent kind (.inr hmember), Fields.get?_of_absent kind]
      · rfl
      · simp [lookup_pruneMembers, keeps, hmember, isNull]
    · have hkeeps : keeps members name = true := by
        cases v <;> simp_all [keeps, isNull]
      have hpruned : (pruneMembers (keeps members) members).lookup name = some v.prune := by
        simp [lookup_pruneMembers, hkeeps, hmember]
      rw [Fields.get?_of_lookup kind hmember hnull,
        Fields.get?_of_lookup kind hpruned (fun h => hnull (prune_eq_null_iff.1 h)), hread v hmember]
      rfl

theorem decodeAll_pruneItems {items : List Value}
    (h : ∀ v ∈ items, Node.decode v.prune = Node.decode v) :
    Node.decodeAll (pruneItems items) = Node.decodeAll items := by
  induction items with
  | nil => rfl
  | cons v rest ih =>
    have hv := h v List.mem_cons_self
    have hrest := ih fun w hw => h w (List.mem_cons_of_mem v hw)
    rw [pruneItems, Node.decodeAll, Node.decodeAll, hv, hrest]

theorem decode_prune_object {members : List (String × Value)}
    (hread : ∀ w ∈ (object members).parts, reading w.prune = (reading w).prune) :
    Node.decode (object members).prune = Node.decode (object members) := by
  rw [prune, Node.decode, Node.decode, typename?_pruneMembers]
  cases htypename : Node.typename? members with
  | none => rfl
  | some kind =>
    refine Fields.assemble_eq_of_pruned fun f hf => ⟨rfl, get?_pruneMembers ?_ ?_⟩
    · simp only [lists, htypename, Option.all_some, Bool.or_eq_true, List.any_eq_true]
      exact .inr ⟨f, hf, by simp⟩
    · exact fun v hv => hread v (mem_parts_of_lookup hv)

/-- A pruned value is read in every way as before. -/
theorem reading_prune (v : Value) : reading v.prune = (reading v).prune := by
  induction v using parts_induction with
  | step v ih =>
    cases v with
    | array items =>
      have hitems : Node.decodeAll (pruneItems items) = Node.decodeAll items :=
        decodeAll_pruneItems fun w hw => congrArg Reading.node (ih w hw)
      simp [reading, Reading.prune, prune, Node.decode, Node.decodeItems?, hitems]
    | object members =>
      have hdecode := decode_prune_object ih
      simp only [prune] at hdecode
      simp [reading, Reading.prune, prune, hdecode, Node.decodeItems?]
    | _ => rfl

theorem decode_prune (v : Value) : Node.decode v.prune = Node.decode v :=
  congrArg Reading.node (reading_prune v)

theorem lists_iff {members : List (String × Value)} {name : String} :
    lists members name = true ↔
      ∀ kind, members.lookup "typename" = some (.string kind) →
        name = "typename" ∨ ∃ f ∈ (Kind.ofName kind).fields, f.name = name := by
  simp only [← typename?_eq_some_iff, lists]
  cases Node.typename? members <;> simp

theorem isNull_eq_false_iff {v : Value} : v.isNull = false ↔ v ≠ .null := by
  cases v <;> simp [isNull]

theorem member?_prune (members : List (String × Value)) (name : String) (w : Value) :
    (object members).prune.member? name = some w ↔
      ∃ v, members.lookup name = some v ∧ v ≠ .null ∧ lists members name = true ∧ w = v.prune := by
  rw [prune, member?, lookup_pruneMembers]
  cases hmember : members.lookup name with
  | none => simp
  | some v =>
    have hkeeps : keeps members name = true ↔ v ≠ .null ∧ lists members name = true := by
      simp [keeps, hmember, isNull_eq_false_iff]
    by_cases hkept : keeps members name = true
    · obtain ⟨hnull, hlists⟩ := hkeeps.1 hkept
      simp [hkept, hnull, hlists, eq_comm]
    · have hgone : ¬ (v ≠ .null ∧ lists members name = true) := fun h => hkept (hkeeps.2 h)
      simpa [hkept] using fun hnull hlists => absurd ⟨hnull, hlists⟩ hgone

end Value

/-- A value that a field of the form can have. -/
def FieldForm.sample : FieldForm → Value
  | .node | .optional => .object [("typename", .string "Symbol"), ("value", .string "x")]
  | .list => .array []
  | .flag => .bool true
  | .text | .scalar => .string "x"

def Kind.sample (k : Kind) : List (String × Value) :=
  ("typename", .string k.name) :: k.fields.map fun f => (f.name, f.form.sample)

-- an array of something that is no node is refused by fields of every form
theorem Kind.errorOf?_decode_sample : ∀ k ∈ known, ∀ f ∈ k.fields,
    errorOf? (Node.decode (.object k.sample)) = none ∧
      (errorOf? (Node.decode
        (.object (Value.putMember f.name (.array [.null]) k.sample)))).isSome = true := by
  decide

namespace Value

/-- A document and what pruning leaves of it are read alike, whether they are templates or not. What
is taken out of an object are members that are null and members that its kind has no field for, and
nothing is taken out of an array. No field of a kind could be taken out as well: there is an object
of this kind for which reading depends on it. -/
theorem decode_ignores_what_prune_drops :
    (∀ v, Node.decode v.prune = Node.decode v) ∧
      (∀ members name w, (object members).prune.member? name = some w ↔
        ∃ v, members.lookup name = some v ∧ v ≠ .null ∧
          (∀ kind, members.lookup "typename" = some (.string kind) →
            name = "typename" ∨ ∃ f ∈ (Kind.ofName kind).fields, f.name = name) ∧
          w = v.prune) ∧
      (∀ items, (array items).prune = .array (items.map prune)) ∧
      ∀ k ∈ Kind.known, ∀ f ∈ k.fields, ∃ members v,
        members.lookup "typename" = some (.string k.name) ∧
          (∃ n, Node.decode (.object members) = .ok n) ∧
          ∃ m, Node.decode (.object (putMember f.name v members)) = .error m := by
  refine ⟨decode_prune, fun members name w => ?_, fun items => ?_, fun k hk f hf => ?_⟩
  · rw [member?_prune, lists_iff]
  · rw [prune, pruneItems_eq_map]
  · obtain ⟨hread, hrefused⟩ := Kind.errorOf?_decode_sample k hk f hf
    obtain ⟨m, hm⟩ := Option.isSome_iff_exists.1 hrefused
    exact ⟨k.sample, .array [.null], by simp [Kind.sample], errorOf?_eq_none_iff.1 hread, m,
      errorOf?_eq_some_iff.1 hm⟩

/-- The alternative of a loop, without which a loop is complete, is looked at. -/
theorem decode_depends_on_loop_alternative :
    ∃ members v, members.lookup "typename" = some (.string "For") ∧
      (∃ n, Node.decode (.object members) = .ok n) ∧
      ∃ m, Node.decode (.object (putMember "else_" v members)) = .error m :=
  decode_ignores_what_prune_drops.2.2.2 .forLoop (by decide) ⟨.optional, "else_"⟩ (by decide)

-- an item that is null stays, and so does a member of an object of no kind
example : prune (.object [("typename", .string "Group"), ("line", .bool true),
    ("children", .array [.null, .object [("line", .bool true), ("value", .null)]])]) =
      .object [("typename", .string "Group"),
        ("children", .array [.null, .object [("line", .bool true)]])] := rfl

end Value
end TwigPrinter
