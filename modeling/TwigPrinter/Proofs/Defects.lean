import TwigPrinter.Proofs.Fields
/-!
Which documents are templates, and what is reported for the others. The positions of a document are
the values that have to be nodes (`Value.positions`); a document is a template when each of them, for
itself, is an object of the right form. `Value.defects` goes through a document as it is read and
lists everything that is wrong with it; the first entry is what is reported, in words that name what
is wrong at one of the positions (`Value.Shows`).
-/
namespace TwigPrinter

def Value.isScalar : Value → Bool
  | .array _ | .object _ => false
  | _ => true

def FieldForm.Accepts : FieldForm → Option Value → Prop
  | .node, member => ∃ v, member = some v ∧ v ≠ .null
  | .optional, _ => True
  | .list, member => member = none ∨ member = some .null ∨ ∃ items, member = some (.array items)
  | .text, member => ∃ s, member = some (.string s)
  | .flag, member => member = none ∨ member = some .null ∨ ∃ b, member = some (.bool b)
  | .scalar, member => member = none ∨ ∃ v, member = some v ∧ v.isScalar = true

/-- What a field is said to have to be when it holds something else. -/
def FieldForm.expected? : FieldForm → Option String
  | .node | .optional => none
  | .list => some "an array"
  | .text => some "a string"
  | .flag => some "a boolean"
  | .scalar => some "a scalar"

namespace FieldSpec

theorem defect?_eq_none_iff (f : FieldSpec) (members : List (String × Value)) :
    f.defect? members = none ↔ f.form.Accepts (members.lookup f.name) := by
  obtain ⟨form, name⟩ := f
  cases hmember : members.lookup name with
  | none => cases form <;> simp [defect?, FieldForm.Accepts, hmember]
  | some v =>
    cases form <;> cases v <;> simp [defect?, FieldForm.Accepts, Value.isScalar, hmember]

theorem sizeOf_lt_of_mem_nodes {f : FieldSpec} {members : List (String × Value)} {v : Value}
    (h : v ∈ f.nodes members) : sizeOf v < sizeOf (Value.object members) := by
  have hmember : ∀ w, members.lookup f.name = some w → sizeOf w < sizeOf members := by
    intro w hw
    obtain ⟨before, after, rfl, -⟩ := List.lookup_eq_some_iff.1 hw
    have hlt : sizeOf (f.name, w) < sizeOf (before ++ (f.name, w) :: after) :=
      List.sizeOf_lt_of_mem (by simp)
    simp only [Prod.mk.sizeOf_spec] at hlt
    omega
  have hsingle : ∀ w, members.lookup f.name = some w → v ∈ [w] → sizeOf v < sizeOf members := by
    intro w hw hv
    obtain rfl := List.mem_singleton.1 hv
    exact hmember v hw
  simp only [Value.object.sizeOf_spec]
  unfold nodes at h
  split at h
  · cases h
  · cases h
  · have hlt := hsingle _ ‹_› h
    omega
  · have hlt := hsingle _ ‹_› h
    omega
  · rename_i items _ hw
    have hlt := hmember _ hw
    have hitem := List.sizeOf_lt_of_mem h
    simp only [Value.array.sizeOf_spec] at hlt
    omega
  · cases h

end FieldSpec

namespace Value

theorem typename?_eq_some_iff {members : List (String × Value)} {kind : String} :
    Node.typename? members = some kind ↔ members.lookup "typename" = some (.string kind) := by
  unfold Node.typename?
  split
  · simp_all
  · simp_all

/-- The value is the object of a node, and its fields hold what they have to. -/
def LocallyValid (v : Value) : Prop :=
  ∃ members kind, v = .object members ∧ members.lookup "typename" = some (.string kind) ∧
    ∀ f ∈ (Kind.ofName kind).fields, f.form.Accepts (members.lookup f.name)

/-- What is wrong with a value that is to be a node, with the name of its kind and in words. -/
inductive Shows : Value → String → String → Prop
  | notObject {v : Value} (h : ∀ members, v ≠ .object members) :
    Shows v "<unknown>" "expected an object"
  | noTypename {members : List (String × Value)}
      (h : ∀ kind, members.lookup "typename" ≠ some (.string kind)) :
    Shows (.object members) "<unknown>" "missing `typename`"
  | missing {members : List (String × Value)} {kind : String} {f : FieldSpec}
      (hkind : members.lookup "typename" = some (.string kind)) (hf : f ∈ (Kind.ofName kind).fields)
      (hform : f.form = .node ∨ f.form = .text)
      (h : members.lookup f.name = none ∨ members.lookup f.name = some .null) :
    Shows (.object members) kind ("missing `" ++ f.name ++ "`")
  | wrong {members : List (String × Value)} {kind expected : String} {f : FieldSpec} {v : Value}
      (hkind : members.lookup "typename" = some (.string kind)) (hf : f ∈ (Kind.ofName kind).fields)
      (hexpected : f.form.expected? = some expected) (hv : members.lookup f.name = some v)
      (hnull : v ≠ .null) (h : ¬ f.form.Accepts (some v)) :
    Shows (.object members) kind ("`" ++ f.name ++ "` must be " ++ expected)

theorem shows_of_defect? {members : List (String × Value)} {kind : String} {f : FieldSpec}
    {d : Defect} (hkind : members.lookup "typename" = some (.string kind))
    (hf : f ∈ (Kind.ofName kind).fields) (h : f.defect? members = some d) :
    (object members).Shows kind d.reason := by
  by_cases habsent : members.lookup f.name = none ∨ members.lookup f.name = some .null
  · have hmissing : (f.form = .node ∨ f.form = .text) ∧ d = .missing f.name := by
      obtain ⟨form, name⟩ := f
      rcases habsent with habsent | habsent <;> simp only [FieldSpec.defect?, habsent] at h <;>
        cases form <;> cases h <;> simp
    obtain ⟨hform, rfl⟩ := hmissing
    exact .missing hkind hf hform habsent
  · obtain ⟨v, hv⟩ := Option.ne_none_iff_exists'.1 fun hnone => habsent (.inl hnone)
    have hnull : v ≠ .null := fun hv' => habsent (.inr (hv' ▸ hv))
    have hrefused : ¬ f.form.Accepts (some v) := by
      rw [← hv, ← FieldSpec.defect?_eq_none_iff, h]
      simp
    obtain ⟨expected, hexpected, hreason⟩ : ∃ expected, f.form.expected? = some expected ∧
        d.reason = "`" ++ f.name ++ "` must be " ++ expected := by
      obtain ⟨form, name⟩ := f
      cases form <;> cases v <;>
        simp_all [FieldSpec.defect?, FieldForm.expected?, String.append_assoc] <;>
        simp [← h, Defect.reason, String.append_assoc]
    rw [hreason]
    exact .wrong hkind hf hexpected hv hnull hrefused

/-- The nodes in the fields of an object, in the order in which they are read. -/
def inner : Value → List Value
  | .object members =>
    match Node.typename? members with
    | some kind => (Kind.ofName kind).fields.flatMap (·.nodes members)
    | none => []
  | _ => []

theorem inner_object {members : List (String × Value)} {kind : String}
    (h : Node.typename? members = some kind) :
    (object members).inner = (Kind.ofName kind).fields.flatMap (·.nodes members) := by
  rw [inner, h]

theorem sizeOf_lt_of_mem_inner {v w : Value} (h : w ∈ v.inner) : sizeOf w < sizeOf v := by
  unfold inner at h
  split at h
  · split at h
    · obtain ⟨f, -, hf⟩ := List.mem_flatMap.1 h
      exact FieldSpec.sizeOf_lt_of_mem_nodes hf
    · cases h
  · cases h

/-- The values of a document that are to be nodes. -/
def positions (v : Value) : List Value :=
  v :: v.inner.attach.flatMap fun w => positions w.val
termination_by sizeOf v
decreasing_by exact sizeOf_lt_of_mem_inner w.property

/-- All that is wrong with a document, in the order in which it is read: a field by itself, then the
nodes in it, then the next field. -/
def defects : Value → List Malformed
  | .object members =>
    match Node.typename? members with
    | some kind => (Kind.ofName kind).fields.flatMap fun f =>
        (f.defect? members).toList.map (Malformed.mk kind) ++
          (f.nodes members).attach.flatMap fun v => defects v.val
    | none => [⟨"<unknown>", .noTypename⟩]
  | _ => [⟨"<unknown>", .notObject⟩]
termination_by v => sizeOf v
decreasing_by exact FieldSpec.sizeOf_lt_of_mem_nodes v.property

theorem mem_positions_iff {v p : Value} :
    p ∈ v.positions ↔ p = v ∨ ∃ w ∈ v.inner, p ∈ w.positions := by
  rw [positions]
  simp only [List.flatMap_subtype, List.unattach_attach, List.mem_cons, List.mem_flatMap]

theorem defects_object {members : List (String × Value)} {kind : String}
    (h : Node.typename? members = some kind) :
    (object members).defects = (Kind.ofName kind).fields.flatMap fun f =>
      (f.defect? members).toList.map (Malformed.mk kind) ++ (f.nodes members).flatMap defects := by
  rw [defects, h]
  simp only [List.flatMap_subtype, List.unattach_attach]

/-- Induction along what is read as a node. -/
theorem inner_induction {P : Value → Prop} (step : ∀ v, (∀ w ∈ v.inner, P w) → P v) (v : Value) :
    P v :=
  step v fun w _ => inner_induction step w
termination_by sizeOf v
decreasing_by exact sizeOf_lt_of_mem_inner ‹_›

theorem locallyValid_object {members : List (String × Value)} {kind : String}
    (h : Node.typename? members = some kind) :
    (object members).LocallyValid ↔ ∀ f ∈ (Kind.ofName kind).fields, f.defect? members = none := by
  simp only [FieldSpec.defect?_eq_none_iff]
  rw [typename?_eq_some_iff] at h
  constructor
  · rintro ⟨members', kind', hobject, hkind, hfields⟩
    cases hobject
    rw [h] at hkind
    cases hkind
    exact hfields
  · intro hfields
    exact ⟨members, kind, rfl, h, hfields⟩

/-- Nothing is wrong with a document exactly when nothing is wrong at any of its positions. -/
theorem defects_eq_nil_iff (v : Value) : v.defects = [] ↔ ∀ p ∈ v.positions, p.LocallyValid := by
  induction v using inner_induction with
  | step v ih =>
    have hpositions : (∀ p ∈ v.positions, p.LocallyValid) ↔
        v.LocallyValid ∧ ∀ w ∈ v.inner, w.defects = [] := by
      constructor
      · intro h
        exact ⟨h v (mem_positions_iff.2 (.inl rfl)), fun w hw => (ih w hw).2 fun p hp =>
          h p (mem_positions_iff.2 (.inr ⟨w, hw, hp⟩))⟩
      · rintro ⟨hself, hinner⟩ p hp
        rcases mem_positions_iff.1 hp with rfl | ⟨w, hw, hpw⟩
        · exact hself
        · exact (ih w hw).1 (hinner w hw) p hpw
    rw [hpositions]
    cases v with
    | object members =>
      cases htypename : Node.typename? members with
      | none =>
        have hnot : ¬ (object members).LocallyValid := by
          rintro ⟨members', kind, hobject, hkind, -⟩
          cases hobject
          rw [typename?_eq_some_iff.2 hkind] at htypename
          cases htypename
        simp [defects, htypename, hnot]
      | some kind =>
        rw [defects_object htypename, inner_object htypename, locallyValid_object htypename]
        simp only [List.flatMap_eq_nil_iff, List.append_eq_nil_iff, List.map_eq_nil_iff,
          Option.toList_eq_nil_iff, List.mem_flatMap]
        constructor
        · intro h
          exact ⟨fun f hf => (h f hf).1, fun w ⟨f, hf, hw⟩ => (h f hf).2 w hw⟩
        · rintro ⟨hself, hinner⟩ f hf
          exact ⟨hself f hf, fun w hw => hinner w ⟨f, hf, hw⟩⟩
    | _ =>
      simp [defects, LocallyValid]

/-- What is reported for a document is the first of its defects. -/
theorem errorOf?_decode (v : Value) : errorOf? (Node.decode v) = v.defects.head? := by
  induction v using inner_induction with
  | step v ih =>
    cases v with
    | object members =>
      cases htypename : Node.typename? members with
      | none => simp [Node.decode, defects, htypename, Malformed.unknownKind]
      | some kind =>
        rw [Node.decode, htypename, defects_object htypename, List.head?_flatMap]
        refine (Fields.errorOf?_assemble _ _).trans (findSome?_congr fun f hf => ?_)
        rw [f.error?_readings, List.head?_append, List.head?_flatMap, List.head?_map,
          Option.head?_toList]
        congr 1
        refine findSome?_congr fun w hw => ih w ?_
        rw [inner_object htypename]
        exact List.mem_flatMap.2 ⟨f, hf, hw⟩
    | _ => simp [Node.decode, defects, Malformed.unknownKind]

/-- Each defect of a document is one at some position, in words that fit it. -/
theorem shows_of_mem_defects {v : Value} {m : Malformed} (h : m ∈ v.defects) :
    ∃ p ∈ v.positions, p.Shows m.kind m.defect.reason := by
  induction v using inner_induction with
  | step v ih =>
    have hself : v ∈ v.positions := mem_positions_iff.2 (.inl rfl)
    cases v with
    | object members =>
      cases htypename : Node.typename? members with
      | none =>
        obtain rfl : m = ⟨"<unknown>", .noTypename⟩ := by simpa [defects, htypename] using h
        refine ⟨_, hself, .noTypename fun kind hkind => ?_⟩
        rw [typename?_eq_some_iff.2 hkind] at htypename
        cases htypename
      | some kind =>
        rw [defects_object htypename] at h
        obtain ⟨f, hf, hm⟩ := List.mem_flatMap.1 h
        rcases List.mem_append.1 hm with hm | hm
        · obtain ⟨d, hd, rfl⟩ := List.mem_map.1 hm
          exact ⟨_, hself,
            shows_of_defect? (typename?_eq_some_iff.1 htypename) hf (Option.mem_toList.1 hd)⟩
        · obtain ⟨w, hw, hmw⟩ := List.mem_flatMap.1 hm
          have hinner : w ∈ (object members).inner := by
            rw [inner_object htypename]
            exact List.mem_flatMap.2 ⟨f, hf, hw⟩
          obtain ⟨p, hp, hshows⟩ := ih w hinner hmw
          exact ⟨p, mem_positions_iff.2 (.inr ⟨w, hinner, hp⟩), hshows⟩
    | _ =>
      obtain rfl : m = ⟨"<unknown>", .notObject⟩ := by simpa [defects] using h
      exact ⟨_, hself, .notObject (by simp)⟩

/-- A document is a template exactly when it is in order at every position; otherwise the first defect
on the way through it is reported, with the kind of the node that has it and what is wrong there. -/
theorem decode_fails_at_first_defect (v : Value) :
    ((∃ n, Node.decode v = .ok n) ↔ ∀ p ∈ v.positions, p.LocallyValid) ∧
      (∀ m, Node.decode v = .error m ↔ v.defects.head? = some m) ∧
      ∀ m, Node.decode v = .error m →
        m.message = "Malformed " ++ m.kind ++ " node: " ++ m.defect.reason ∧
          ∃ p ∈ v.positions, p.Shows m.kind m.defect.reason := by
  have hfirst : ∀ m, Node.decode v = .error m ↔ v.defects.head? = some m := by
    intro m
    rw [← errorOf?_eq_some_iff, errorOf?_decode]
  refine ⟨?_, hfirst, fun m hm => ⟨rfl, ?_⟩⟩
  · rw [← errorOf?_eq_none_iff, errorOf?_decode, List.head?_eq_none_iff, defects_eq_nil_iff]
  · exact shows_of_mem_defects (List.mem_of_head? ((hfirst m).1 hm))

-- what is wrong inside the first operand comes before the second one that is missing
example : Node.decode (.object [("typename", .string "Add"),
    ("left", .object [("typename", .string "Symbol"), ("value", .null)])]) =
      .error ⟨"Symbol", .missing "value"⟩ := rfl

end Value
end TwigPrinter
