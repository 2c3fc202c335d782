import TwigPrinter.Proofs.Answers
import TwigPrinter.Template.Decode
/-!
The fields of a node in a document. `Kind.fields` gives the fields of each kind in the order in which
they are read, and the form of each. What stands in a field is wrong by itself, or has nodes in it
that can be wrong (`FieldSpec.defect?`, `FieldSpec.nodes`); reading the node fails with the first of
these that is.
-/
namespace TwigPrinter

inductive FieldForm where
  /-- A node that must be there. -/
  | node
  /-- A node that may be missing. -/
  | optional
  | list
  | text
  | flag
  | scalar
  deriving DecidableEq, Repr

structure FieldSpec where
  form : FieldForm
  name : String
  deriving DecidableEq, Repr

/-- The fields of a node of the given kind, in the order in which they are read. -/
def Kind.fields : Kind → List FieldSpec
  | .seq _ => [⟨.list, "children"⟩]
  | .data | .symbol => [⟨.text, "value"⟩]
  | .literal => [⟨.scalar, "value"⟩]
  | .lookup => [⟨.node, "target"⟩, ⟨.node, "val"⟩]
  | .binary _ => [⟨.node, "left"⟩, ⟨.node, "right"⟩]
  | .negation => [⟨.node, "target"⟩]
  | .comparison => [⟨.node, "expr"⟩, ⟨.list, "ops"⟩]
  | .comparand => [⟨.node, "expr"⟩, ⟨.text, "type"⟩]
  | .ifBlock | .inlineIf => [⟨.node, "cond"⟩, ⟨.node, "body"⟩, ⟨.optional, "else_"⟩]
  | .forLoop => [⟨.node, "name"⟩, ⟨.node, "arr"⟩, ⟨.node, "body"⟩, ⟨.optional, "else_"⟩]
  | .filter | .call => [⟨.node, "name"⟩, ⟨.node, "args"⟩]
  | .inclusion => [⟨.node, "template"⟩, ⟨.flag, "ignoreMissing"⟩]
  | .assignment => [⟨.list, "targets"⟩, ⟨.optional, "value"⟩, ⟨.optional, "body"⟩]
  | .capture => [⟨.node, "body"⟩]
  | .pair => [⟨.node, "key"⟩, ⟨.node, "value"⟩]
  | .other _ => []

namespace FieldSpec

/-- The nodes that stand in a field, as far as it holds what its form asks for. -/
def nodes (f : FieldSpec) (members : List (String × Value)) : List Value :=
  match f.form, members.lookup f.name with
  | .node, some .null | .optional, some .null => []
  | .node, some v | .optional, some v => [v]
  | .list, some (.array items) => items
  | _, _ => []

/-- What is wrong with a field by itself. -/
def defect? (f : FieldSpec) (members : List (String × Value)) : Option Defect :=
  match f.form, members.lookup f.name with
  | .node, none | .node, some .null | .text, none | .text, some .null => some (.missing f.name)
  | .text, some (.string _) => none
  | .text, some _ => some (.notString f.name)
  | .list, none | .list, some .null | .list, some (.array _) => none
  | .list, some _ => some (.notArray f.name)
  | .flag, none | .flag, some .null | .flag, some (.bool _) => none
  | .flag, some _ => some (.notBool f.name)
  | .scalar, some (.array _) | .scalar, some (.object _) => some (.notScalar f.name)
  | _, _ => none

/-- The error of reading a field in the way its form asks for. -/
def error? (fs : Fields) (f : FieldSpec) : Option Malformed :=
  match f.form with
  | .node => errorOf? (fs.node f.name)
  | .optional => errorOf? (fs.optional f.name)
  | .list => errorOf? (fs.list f.name)
  | .text => errorOf? (fs.text f.name)
  | .flag => errorOf? (fs.flag f.name)
  | .scalar => errorOf? (fs.scalar f.name)

end FieldSpec

theorem findSome?_cons_or {α β : Type} (g : α → Option β) (a : α) (as : List α) :
    (a :: as).findSome? g = (g a).or (as.findSome? g) := by
  rw [List.findSome?_cons]
  cases g a <;> rfl

theorem findSome?_congr {α β : Type} {g h : α → Option β} {as : List α}
    (hgh : ∀ a ∈ as, g a = h a) : as.findSome? g = as.findSome? h := by
  induction as with
  | nil => rfl
  | cons a as ih =>
    have has := ih fun b hb => hgh b (List.mem_cons_of_mem a hb)
    rw [findSome?_cons_or, findSome?_cons_or, hgh a List.mem_cons_self, has]

/-- A node is read field by field up to the first error. -/
theorem Fields.errorOf?_assemble (fs : Fields) (k : Kind) :
    errorOf? (fs.assemble k) = k.fields.findSome? (FieldSpec.error? fs) := by
  cases k with
  | seq | data | symbol | literal | negation | capture =>
    simp only [Kind.fields, findSome?_cons_or, List.findSome?_nil, Option.or_none]
    exact errorOf?_bind_ok _ _
  | lookup | binary | comparison | comparand | filter | call | inclusion | pair =>
    simp only [Kind.fields, findSome?_cons_or, List.findSome?_nil, Option.or_none]
    exact errorOf?_bind fun _ => errorOf?_bind_ok _ _
  | ifBlock | inlineIf | assignment =>
    simp only [Kind.fields, findSome?_cons_or, List.findSome?_nil, Option.or_none]
    exact errorOf?_bind fun _ => errorOf?_bind fun _ => errorOf?_bind_ok _ _
  | forLoop =>
    simp only [Kind.fields, findSome?_cons_or, List.findSome?_nil, Option.or_none]
    exact errorOf?_bind fun _ => errorOf?_bind fun _ => errorOf?_bind fun _ => errorOf?_bind_ok _ _
  | other name => rfl

namespace Node

def reading (v : Value) : Reading := ⟨v, decode v, decodeItems? v⟩

theorem lookup_readings (members : List (String × Value)) (name : String) :
    (readings members).lookup name = (members.lookup name).map reading := by
  induction members with
  | nil => rfl
  | cons m rest ih =>
    obtain ⟨key, v⟩ := m
    simp only [readings, List.lookup_cons, ih]
    cases name == key <;> rfl

theorem errorOf?_decodeAll (vs : List Value) :
    errorOf? (decodeAll vs) = vs.findSome? fun v => errorOf? (decode v) := by
  induction vs with
  | nil => rfl
  | cons v rest ih =>
    rw [decodeAll, findSome?_cons_or, ← ih]
    exact errorOf?_bind fun _ => errorOf?_bind_ok _ _

end Node

section Readers

variable (kind : String) {name : String} {members : List (String × Value)} {v : Value}

theorem Fields.get?_of_lookup (h : members.lookup name = some v) (hv : v ≠ .null) :
    (Fields.mk kind (Node.readings members)).get? name = some (Node.reading v) := by
  rw [Fields.get?, Node.lookup_readings, h]
  cases v with
  | null => exact (hv rfl).elim
  | _ => rfl

theorem Fields.get?_of_absent (h : members.lookup name = none ∨ members.lookup name = some .null) :
    (Fields.mk kind (Node.readings members)).get? name = none := by
  rw [Fields.get?, Node.lookup_readings]
  rcases h with h | h <;> rw [h] <;> rfl

end Readers

/-- A field of an object fails for what is wrong with it by itself, else for the first of the nodes in
it that does. -/
theorem FieldSpec.error?_readings (f : FieldSpec) (kind : String) (members : List (String × Value)) :
    f.error? ⟨kind, Node.readings members⟩ =
      ((f.defect? members).map (Malformed.mk kind)).or
        ((f.nodes members).findSome? fun v => errorOf? (Node.decode v)) := by
  obtain ⟨form, name⟩ := f
  by_cases habsent : members.lookup name = none ∨ members.lookup name = some .null
  · have hget := Fields.get?_of_absent kind habsent
    rcases habsent with h | h <;> cases form <;>
      simp [error?, defect?, nodes, h, hget, Fields.node, Fields.optional, Fields.list, Fields.text,
        Fields.flag, Fields.scalar, Fields.fail]
  · obtain ⟨v, hv⟩ := Option.ne_none_iff_exists'.1 fun h => habsent (.inl h)
    have hnull : v ≠ .null := fun h => habsent (.inr (h ▸ hv))
    have hget := Fields.get?_of_lookup kind hv hnull
    cases form with
    | node => cases v <;> simp_all [error?, defect?, nodes, Fields.node, Node.reading]
    | optional =>
      have hmap := errorOf?_map (Node.decode v) some
      cases v <;> simp_all [error?, defect?, nodes, Fields.optional, Node.reading]
    | list =>
      cases v <;> simp_all [error?, defect?, nodes, Fields.list, Fields.fail, Node.reading,
        Node.decodeItems?, Node.errorOf?_decodeAll]
    | text => cases v <;> simp_all [error?, defect?, nodes, Fields.text, Fields.fail, Node.reading]
    | flag => cases v <;> simp_all [error?, defect?, nodes, Fields.flag, Fields.fail, Node.reading]
    | scalar =>
      cases v <;> simp_all [error?, defect?, nodes, Fields.scalar, Fields.fail, Node.reading]

end TwigPrinter
