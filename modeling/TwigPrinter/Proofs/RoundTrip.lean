import TwigPrinter.Proofs.Fields
import TwigPrinter.Proofs.Nodes
import TwigPrinter.Template.Encode
/-!
Templates as documents and back. A document written for a template is read as that template, unless a
node of a kind without meaning has a name that does have one (`Node.HasForeignNames`). Such templates
are never read from a document, so that reading, writing and reading again is reading once.
-/
namespace TwigPrinter

/-- The names that have a meaning: of 21 kinds of nodes and of 8 operators. -/
def typenames : List String :=
  ["Root", "Output", "NodeList", "Group", "Dict", "TemplateData", "Symbol", "Literal", "LookupVal",
    "Not", "Compare", "CompareOperand", "If", "InlineIf", "For", "Filter", "FunCall", "Include", "Set",
    "Capture", "Pair", "Add", "Sub", "Mul", "Div", "Mod", "In", "Or", "And"]

namespace Kind

theorem name_known : known.map name = typenames := rfl

theorem mem_known_or_eq_other (k : Kind) : k ∈ known ∨ ∃ name, k = .other name := by
  cases k with
  | seq form => cases form <;> exact .inl (by decide)
  | binary op => cases op <;> exact .inl (by decide)
  | other name => exact .inr ⟨name, rfl⟩
  | _ => exact .inl (by decide)

theorem ofName_eq_other_iff {s name : String} :
    ofName s = .other name ↔ s = name ∧ s ∉ typenames := by
  unfold ofName
  rw [← name_known]
  cases hfound : known.find? (·.name = s) with
  | none =>
    have hnone : ∀ k ∈ known, k.name ≠ s := by simpa using List.find?_eq_none.1 hfound
    simpa using fun _ => hnone
  | some k =>
    have hmem := List.mem_of_find?_eq_some hfound
    have hname : k.name = s := by simpa using List.find?_some hfound
    have hother : k ≠ .other name := by
      rintro rfl
      simp [known, BinaryOp.all] at hmem
    simpa [hother, ← hname] using fun _ => ⟨k, hmem, rfl⟩

/-- A kind is found by its name, unless it is one without meaning under a name that has one. -/
theorem ofName_name_iff (k : Kind) :
    ofName k.name = k ↔ ∀ name, k = .other name → name ∉ typenames := by
  rcases mem_known_or_eq_other k with hk | ⟨name, rfl⟩
  · have hother : ∀ name, k ≠ .other name := by
      rintro name rfl
      simp [known, BinaryOp.all] at hk
    simp [ofName_name_of_known k hk, hother]
  · simp [Kind.name, ofName_eq_other_iff]

end Kind

namespace Node

theorem encode_ne_null (n : Node) : n.encode ≠ .null := by
  unfold encode record
  simp

theorem decode_record {k : Kind} (h : Kind.ofName k.name = k) (fields : List (String × Value)) :
    decode (record k fields) =
      Fields.assemble ⟨k.name, readings (("typename", .string k.name) :: fields)⟩ k := by
  simp [record, decode, typename?, h]

theorem decodeAll_encodeAll {ns : List Node} (h : ∀ n ∈ ns, decode n.encode = .ok n) :
    decodeAll (encodeAll ns) = .ok ns := by
  induction ns with
  | nil => rfl
  | cons n rest ih =>
    have hn := h n List.mem_cons_self
    have hrest := ih fun m hm => h m (List.mem_cons_of_mem n hm)
    simp [encodeAll, decodeAll, hn, hrest]

section Fields

-- the fields that are written are read as they stand; an object is never taken for a missing part
attribute [local simp] Fields.assemble Fields.node Fields.optional Fields.list Fields.text
  Fields.flag Fields.scalar Fields.get? lookup_readings List.lookup_cons List.lookup_nil reading
  decodeItems? encode_ne_null

theorem decode_encode_of_children {n : Node} (hkind : Kind.ofName n.kind.name = n.kind)
    (h : ∀ c ∈ n.children, decode c.encode = .ok c) : decode n.encode = .ok n := by
  unfold encode
  rw [decode_record hkind]
  cases n with
  | seq form children =>
    have hchildren : decodeAll (encodeAll children) = .ok children := decodeAll_encodeAll h
    simp [kind, hchildren]
  | literal value => cases value <;> simp [kind, Scalar.encode]
  | data | symbol | other => simp [kind]
  | comparison first rest =>
    have hrest := decodeAll_encodeAll fun n (hn : n ∈ rest) => h n (by simp [children, hn])
    simp_all [kind, children]
  | ifBlock test body alternative | inlineIf test body alternative =>
    cases alternative <;> simp_all [kind, children, encodeOption, Except.map]
  | forLoop target items body alternative =>
    cases alternative <;> simp_all [kind, children, encodeOption, Except.map]
  | assignment targets value body =>
    have htargets := decodeAll_encodeAll fun n (hn : n ∈ targets) => h n (by simp [children, hn])
    cases value <;> cases body <;> simp_all [kind, children, encodeOption, Except.map]
  | _ => simp_all [kind, children]

end Fields

/-- The name of a node of a kind without meaning. -/
def otherName? : Node → Option String
  | .other name => some name
  | _ => none

/-- No node of a kind without meaning goes under a name that has one. -/
def HasForeignNames (n : Node) : Prop := ∀ m ∈ n.nodes, ∀ name ∈ m.otherName?, name ∉ typenames

instance (n : Node) : Decidable n.HasForeignNames :=
  inferInstanceAs (Decidable (∀ m ∈ n.nodes, ∀ name ∈ m.otherName?, name ∉ typenames))

theorem ofName_kind_iff (n : Node) :
    Kind.ofName n.kind.name = n.kind ↔ ∀ name ∈ n.otherName?, name ∉ typenames := by
  rw [Kind.ofName_name_iff]
  cases n with
  | other name => simp [kind, otherName?]
  | _ => simp [kind, otherName?]

theorem hasForeignNames_iff (n : Node) :
    n.HasForeignNames ↔
      Kind.ofName n.kind.name = n.kind ∧ ∀ c ∈ n.children, c.HasForeignNames := by
  rw [ofName_kind_iff]
  constructor
  · intro h
    exact ⟨h n (self_mem_nodes n), fun c hc m hm => h m (mem_nodes_of_child hc hm)⟩
  · rintro ⟨hself, hchildren⟩ m hm
    rcases mem_nodes_iff.1 hm with rfl | ⟨c, hc, hmc⟩
    · exact hself
    · exact hchildren c hc m hmc

theorem HasForeignNames.decode_encode {n : Node} (h : n.HasForeignNames) :
    decode n.encode = .ok n := by
  induction n using children_induction with
  | step n ih =>
    obtain ⟨hself, hchildren⟩ := (hasForeignNames_iff n).1 h
    exact decode_encode_of_children hself fun c hc => ih c hc (hchildren c hc)

/-- The node is what some document stands for. -/
def IsDecoded (n : Node) : Prop := ∃ v, decode v = .ok n

section Decoded

variable {kind name : String} {members : List (String × Value)}

theorem exists_of_get? {r : Reading} (h : (Fields.mk kind (readings members)).get? name = some r) :
    ∃ v, r = reading v := by
  rw [Fields.get?, lookup_readings] at h
  cases hmember : members.lookup name with
  | none => simp [hmember] at h
  | some v =>
    refine ⟨v, ?_⟩
    rw [hmember] at h
    cases v <;> simp_all [reading]

theorem isDecoded_of_node {c : Node} (h : (Fields.mk kind (readings members)).node name = .ok c) :
    c.IsDecoded := by
  unfold Fields.node at h
  split at h
  · cases h
  · rename_i r hr
    obtain ⟨v, rfl⟩ := exists_of_get? hr
    exact ⟨v, h⟩

theorem isDecoded_of_optional {n : Option Node}
    (h : (Fields.mk kind (readings members)).optional name = .ok n) :
    ∀ c, n = some c → c.IsDecoded := by
  unfold Fields.optional at h
  split at h
  · cases h
    simp
  · rename_i r hr
    obtain ⟨v, rfl⟩ := exists_of_get? hr
    cases hv : decode v with
    | error e => simp [reading, hv, Except.map] at h
    | ok m =>
      obtain rfl : some m = n := by simpa [reading, hv, Except.map] using h
      simpa using ⟨v, hv⟩

theorem isDecoded_of_decodeAll {vs : List Value} {ns : List Node} (h : decodeAll vs = .ok ns) :
    ∀ c ∈ ns, c.IsDecoded := by
  induction vs generalizing ns with
  | nil =>
    cases h
    simp
  | cons v rest ih =>
    simp only [decodeAll, bind_eq_ok_iff, pure_eq_ok, Except.ok.injEq] at h
    obtain ⟨m, hm, ms, hms, rfl⟩ := h
    intro c hc
    rcases List.mem_cons.1 hc with rfl | hc
    · exact ⟨v, hm⟩
    · exact ih hms c hc

theorem isDecoded_of_list {ns : List Node}
    (h : (Fields.mk kind (readings members)).list name = .ok ns) : ∀ c ∈ ns, c.IsDecoded := by
  unfold Fields.list at h
  split at h
  · cases h
    simp
  · rename_i r hr
    obtain ⟨v, rfl⟩ := exists_of_get? hr
    cases v with
    | array items => exact isDecoded_of_decodeAll h
    | _ => cases h

/-- A node that is read has the kind asked for, and its children were read. -/
theorem assemble_readings {k : Kind} {n : Node}
    (h : (Fields.mk kind (readings members)).assemble k = .ok n) :
    n.kind = k ∧ ∀ c ∈ n.children, c.IsDecoded := by
  cases k <;> simp only [Fields.assemble, bind_eq_ok_iff, pure_eq_ok, Except.ok.injEq] at h
  case data | symbol | literal =>
    obtain ⟨_, -, rfl⟩ := h
    simp [Node.kind, children]
  case seq =>
    obtain ⟨ns, hns, rfl⟩ := h
    exact ⟨rfl, isDecoded_of_list hns⟩
  case negation | capture =>
    obtain ⟨a, ha, rfl⟩ := h
    simpa [Node.kind, children] using isDecoded_of_node ha
  case lookup | binary | filter | call | pair =>
    obtain ⟨a, ha, b, hb, rfl⟩ := h
    simpa [Node.kind, children] using ⟨isDecoded_of_node ha, isDecoded_of_node hb⟩
  case comparison =>
    obtain ⟨a, ha, ns, hns, rfl⟩ := h
    simpa [Node.kind, children] using ⟨isDecoded_of_node ha, isDecoded_of_list hns⟩
  case comparand | inclusion =>
    obtain ⟨a, ha, _, -, rfl⟩ := h
    simpa [Node.kind, children] using isDecoded_of_node ha
  case ifBlock | inlineIf =>
    obtain ⟨a, ha, b, hb, alternative, halternative, rfl⟩ := h
    simpa [Node.kind, children, or_imp, forall_and] using
      ⟨isDecoded_of_node ha, isDecoded_of_node hb, isDecoded_of_optional halternative⟩
  case forLoop =>
    obtain ⟨a, ha, b, hb, c, hc, alternative, halternative, rfl⟩ := h
    simpa [Node.kind, children, or_imp, forall_and] using
      ⟨isDecoded_of_node ha, isDecoded_of_node hb, isDecoded_of_node hc,
        isDecoded_of_optional halternative⟩
  case assignment =>
    obtain ⟨ns, hns, value, hvalue, body, hbody, rfl⟩ := h
    simpa [Node.kind, children, or_imp, forall_and] using
      ⟨isDecoded_of_list hns, isDecoded_of_optional hvalue, isDecoded_of_optional hbody⟩
  case other =>
    cases h
    simp [Node.kind, children]

end Decoded

theorem IsDecoded.ofName_kind {n : Node} (h : n.IsDecoded) :
    Kind.ofName n.kind.name = n.kind ∧ ∀ c ∈ n.children, c.IsDecoded := by
  obtain ⟨v, hv⟩ := h
  cases v with
  | object members =>
    rw [decode] at hv
    cases htypename : typename? members with
    | none => simp [htypename] at hv
    | some s =>
      rw [htypename] at hv
      obtain ⟨hkind, hchildren⟩ := assemble_readings hv
      refine ⟨?_, hchildren⟩
      -- the kind was found by a name, so it cannot be one without meaning under a name that has one
      rw [Kind.ofName_name_iff]
      intro name hname
      rw [hkind] at hname
      obtain ⟨rfl, hforeign⟩ := Kind.ofName_eq_other_iff.1 hname
      exact hforeign
  | _ => cases hv

theorem IsDecoded.hasForeignNames {n : Node} (h : n.IsDecoded) : n.HasForeignNames := by
  induction n using children_induction with
  | step n ih =>
    obtain ⟨hself, hchildren⟩ := h.ofName_kind
    exact (hasForeignNames_iff n).2 ⟨hself, fun c hc => ih c hc (hchildren c hc)⟩

/-- The document of a template is read as this template exactly when its names are foreign where they
have to be, and whatever is read from a document is a template of this sort. -/
theorem decode_encode_iff_hasForeignNames :
    (∀ n : Node, decode n.encode = .ok n ↔ n.HasForeignNames) ∧
      ∀ v n, decode v = .ok n → n.HasForeignNames ∧ decode n.encode = .ok n := by
  constructor
  · intro n
    exact ⟨fun h => IsDecoded.hasForeignNames ⟨n.encode, h⟩, HasForeignNames.decode_encode⟩
  · intro v n h
    have hforeign : n.HasForeignNames := IsDecoded.hasForeignNames ⟨v, h⟩
    exact ⟨hforeign, hforeign.decode_encode⟩

/-- Missing parts, a value that is null and a kind without meaning survive. -/
theorem decode_encode_macro_in_assignment :
    decode (Node.assignment [.symbol "x"] none (some (.capture (.seq .list
        [.other "Macro", .literal .null])))).encode =
      .ok (.assignment [.symbol "x"] none (some (.capture (.seq .list
        [.other "Macro", .literal .null])))) :=
  (decode_encode_iff_hasForeignNames.1 _).2 (by decide)

-- the node comes back as one of another kind, which lacks its name
example : decode (Node.other "Symbol").encode = .error ⟨"Symbol", .missing "value"⟩ := rfl

end Node
end TwigPrinter
