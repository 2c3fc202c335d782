import Mathlib.Data.List.Sort
import TwigPrinter.Format.Registry
import TwigPrinter.Proofs.ByteOrder
/-!
What a registry answers after any formats were registered. Its list of formats is in the order of
names, each name once, and this is kept by every registration; the formatter under a name is the one
that was registered last under it. So the answers depend on nothing but the last formatter under
each name.
-/
namespace TwigPrinter.Registry

/-- The formats are in the order of their names, and no two have the same name. -/
def IsSorted (r : Registry) : Prop := r.formatters.Pairwise fun f g => f.name < g.name

section Insertion

variable {f g : Formatter} {fs : List Formatter}

theorem mem_insert (h : g ∈ insert f fs) : g = f ∨ g ∈ fs := by
  induction fs with
  | nil => exact .inl (List.mem_singleton.1 h)
  | cons k rest ih =>
    unfold insert at h
    split at h
    · exact List.mem_cons.1 h
    · split at h
      · exact (List.mem_cons.1 h).imp_right (List.mem_cons_of_mem k)
      · rcases List.mem_cons.1 h with rfl | hrest
        · exact .inr List.mem_cons_self
        · exact (ih hrest).imp_right (List.mem_cons_of_mem k)

theorem pairwise_insert (h : fs.Pairwise fun f g => f.name < g.name) :
    (insert f fs).Pairwise fun f g => f.name < g.name := by
  induction fs with
  | nil => exact List.pairwise_singleton _ f
  | cons k rest ih =>
    have hk := (List.pairwise_cons.1 h).1
    have hrest := (List.pairwise_cons.1 h).2
    unfold insert
    split
    · rename_i hlt
      refine List.pairwise_cons.2 ⟨fun m hm => ?_, h⟩
      rcases List.mem_cons.1 hm with rfl | hm
      · exact hlt
      · exact String.lt_trans hlt (hk m hm)
    · rename_i hnot
      split
      · rename_i heq
        exact List.pairwise_cons.2 ⟨fun m hm => heq ▸ hk m hm, hrest⟩
      · rename_i hne
        have hlt : k.name < f.name :=
          String.not_le.1 fun hle => hne (String.le_antisymm hle (String.not_lt.1 hnot))
        refine List.pairwise_cons.2 ⟨fun m hm => ?_, ih hrest⟩
        rcases mem_insert hm with rfl | hm
        · exact hlt
        · exact hk m hm

theorem find?_insert (n : String) :
    (insert f fs).find? (·.name = n) = if f.name = n then some f else fs.find? (·.name = n) := by
  induction fs with
  | nil => by_cases hf : f.name = n <;> simp [insert, hf]
  | cons k rest ih =>
    unfold insert
    split
    · by_cases hf : f.name = n <;> simp [List.find?_cons, hf]
    · split
      · rename_i heq
        by_cases hf : f.name = n <;> simp [hf, ← heq]
      · rename_i hne
        by_cases hk : k.name = n
        · have hf : f.name ≠ n := fun hf => hne (hf.trans hk.symm)
          simp [hk, hf]
        · simp [hk, ih]

end Insertion

section Registration

variable {r s : Registry} {f : Formatter} {n : String}

theorem IsSorted.register (h : r.IsSorted) (f : Formatter) : (r.register f).IsSorted :=
  pairwise_insert h

theorem get?_register (r : Registry) (f : Formatter) (n : String) :
    (r.register f).get? n = if f.name = n then some f else r.get? n :=
  find?_insert n

theorem mem_names_iff : n ∈ r.names ↔ (r.get? n).isSome = true := by
  simp [names, get?]

theorem has_iff : r.has n = true ↔ (r.get? n).isSome = true := by
  simp [has, get?]

theorem IsSorted.pairwise_names (h : r.IsSorted) : r.names.Pairwise (· < ·) :=
  List.pairwise_map.2 h

theorem IsSorted.mem_formatters_iff (h : r.IsSorted) :
    f ∈ r.formatters ↔ r.get? f.name = some f := by
  constructor
  · intro hf
    obtain ⟨g, hg⟩ := Option.isSome_iff_exists.1 (mem_names_iff.1 (List.mem_map_of_mem hf))
    have hname : g.name = f.name := by simpa using List.find?_some hg
    have hnodup : (r.formatters.map (·.name)).Nodup := h.pairwise_names.imp String.ne_of_lt
    rw [hg, List.inj_on_of_nodup_map hnodup (List.mem_of_find?_eq_some hg) hf hname]
  · exact List.mem_of_find?_eq_some

/-- A sorted registry is settled by what it has under each name. -/
theorem IsSorted.ext_get? (hr : r.IsSorted) (hs : s.IsSorted) (h : ∀ n, r.get? n = s.get? n) :
    r = s := by
  have : Std.Irrefl fun f g : Formatter => f.name < g.name := ⟨fun f => String.lt_irrefl f.name⟩
  have : Std.Antisymm fun f g : Formatter => f.name < g.name :=
    ⟨fun f g hfg hgf => (String.lt_irrefl _ (String.lt_trans hfg hgf)).elim⟩
  have hmem : ∀ f, f ∈ r.formatters ↔ f ∈ s.formatters := by
    intro f
    rw [hr.mem_formatters_iff, hs.mem_formatters_iff, h]
  have hlists : r.formatters = s.formatters := List.Pairwise.eq_of_mem_iff hr hs hmem
  cases r
  cases s
  exact congrArg Registry.mk hlists

end Registration

/-- Registers formats one after the other. -/
def registerAll (r : Registry) (fs : List Formatter) : Registry := fs.foldl register r

/-- The formatter was registered, and after it none under its name. -/
def RegisteredLast (history : List Formatter) (f : Formatter) : Prop :=
  ∃ before after, history = before ++ f :: after ∧ ∀ g ∈ after, g.name ≠ f.name

section History

variable {r : Registry} {f g : Formatter} {fs rest : List Formatter} {n : String}

@[simp] theorem not_registeredLast_nil : ¬ RegisteredLast [] f := by
  rintro ⟨before, after, h, -⟩
  simp at h

theorem registeredLast_cons :
    RegisteredLast (g :: rest) f ↔
      RegisteredLast rest f ∨ g = f ∧ ∀ k ∈ rest, k.name ≠ g.name := by
  constructor
  · rintro ⟨before, after, h, hafter⟩
    cases before with
    | nil =>
      obtain ⟨rfl, rfl⟩ := List.cons.inj h
      exact .inr ⟨rfl, hafter⟩
    | cons k before =>
      obtain ⟨-, rfl⟩ := List.cons.inj h
      exact .inl ⟨before, after, rfl, hafter⟩
  · rintro (⟨before, after, rfl, hafter⟩ | ⟨rfl, hrest⟩)
    · exact ⟨g :: before, after, rfl, hafter⟩
    · exact ⟨[], rest, rfl, hrest⟩

theorem IsSorted.registerAll (h : r.IsSorted) : (r.registerAll fs).IsSorted := by
  induction fs generalizing r with
  | nil => exact h
  | cons g rest ih => exact ih (h.register g)

theorem get?_registerAll :
    (r.registerAll fs).get? n = some f ↔
      RegisteredLast fs f ∧ f.name = n ∨ (∀ g ∈ fs, g.name ≠ n) ∧ r.get? n = some f := by
  induction fs generalizing r with
  | nil => simp [registerAll]
  | cons g rest ih =>
    have hstep : r.registerAll (g :: rest) = (r.register g).registerAll rest := rfl
    rw [hstep, ih, get?_register, registeredLast_cons]
    by_cases hg : g.name = n
    · -- what was there under the name of `g` is gone
      have hearlier : ¬ ∀ k ∈ g :: rest, k.name ≠ n := fun h => h g List.mem_cons_self hg
      rw [if_pos hg, Option.some_inj]
      constructor
      · rintro (⟨hlast, rfl⟩ | ⟨hrest, rfl⟩)
        · exact .inl ⟨.inl hlast, rfl⟩
        · exact .inl ⟨.inr ⟨rfl, hg ▸ hrest⟩, hg⟩
      · rintro (⟨hlast | ⟨rfl, hrest⟩, rfl⟩ | ⟨h, -⟩)
        · exact .inl ⟨hlast, rfl⟩
        · exact .inr ⟨hrest, rfl⟩
        · exact absurd h hearlier
    · have hall : (∀ k ∈ g :: rest, k.name ≠ n) ↔ ∀ k ∈ rest, k.name ≠ n := by simp [hg]
      rw [if_neg hg, hall]
      refine or_congr_left ⟨fun ⟨hlast, hname⟩ => ⟨.inl hlast, hname⟩, ?_⟩
      rintro ⟨hlast | ⟨rfl, -⟩, hname⟩
      · exact ⟨hlast, hname⟩
      · exact absurd hname hg

theorem isSome_get?_registerAll :
    ((r.registerAll fs).get? n).isSome = true ↔
      (∃ f ∈ fs, f.name = n) ∨ (r.get? n).isSome = true := by
  induction fs generalizing r with
  | nil => simp [registerAll]
  | cons g rest ih =>
    have hstep : r.registerAll (g :: rest) = (r.register g).registerAll rest := rfl
    rw [hstep, ih, get?_register]
    by_cases hg : g.name = n <;> simp [hg]

end History

/-- The registries that formats are added to. -/
inductive Origin where
  | empty
  | builtIn (o : Options)

namespace Origin

def registry : Origin → Registry
  | .empty => Registry.empty
  | .builtIn o => Registry.withOptions o

/-- All registrations up to now when `fs` were added. -/
def history : Origin → List Formatter → List Formatter
  | .empty, fs => fs
  | .builtIn o, fs => .twig o :: .treeviz :: fs

/-- The registry when `fs` were added. -/
def after (origin : Origin) (fs : List Formatter) : Registry := origin.registry.registerAll fs

theorem after_eq (origin : Origin) (fs : List Formatter) :
    origin.after fs = Registry.empty.registerAll (origin.history fs) := by
  cases origin <;> rfl

theorem isSorted_after (origin : Origin) (fs : List Formatter) : (origin.after fs).IsSorted := by
  rw [after_eq]
  exact IsSorted.registerAll List.Pairwise.nil

theorem get?_after {origin : Origin} {fs : List Formatter} {n : String} {f : Formatter} :
    (origin.after fs).get? n = some f ↔ RegisteredLast (origin.history fs) f ∧ f.name = n := by
  have hempty : Registry.empty.get? n = none := rfl
  rw [after_eq, get?_registerAll, hempty]
  simp

theorem isSome_get?_after {origin : Origin} {fs : List Formatter} {n : String} :
    ((origin.after fs).get? n).isSome = true ↔ ∃ f ∈ origin.history fs, f.name = n := by
  have hempty : Registry.empty.get? n = none := rfl
  rw [after_eq, isSome_get?_registerAll, hempty]
  simp

end Origin

/-- No question to a registry tells the two apart. -/
structure AnswersAlike (r s : Registry) : Prop where
  names : r.names = s.names
  has : ∀ n, r.has n = s.has n
  get? : ∀ n, r.get? n = s.get? n
  serialize : ∀ root n, r.serialize root n = s.serialize root n

/-- The answers of a registry after any registrations. -/
theorem answers_after_registrations (origin : Origin) (fs : List Formatter) :
    (origin.after fs).names.Pairwise (fun a b => Text.bytes a < Text.bytes b) ∧
      (∀ n, n ∈ (origin.after fs).names ↔ ∃ f ∈ origin.history fs, f.name = n) ∧
      (∀ n, ((origin.after fs).has n = true ↔ n ∈ (origin.after fs).names) ∧
        (n ∈ (origin.after fs).names ↔ ((origin.after fs).get? n).isSome = true)) ∧
      (∀ n f, (origin.after fs).get? n = some f ↔
        RegisteredLast (origin.history fs) f ∧ f.name = n) ∧
      (∀ f, RegisteredLast (origin.history fs) f →
        ∀ root, (origin.after fs).serialize root f.name = f.serialize root) ∧
      (∀ n, (∀ f ∈ origin.history fs, f.name ≠ n) →
        ∀ root, (origin.after fs).serialize root n = .fail (.notFound n)) ∧
      ∀ (origin' : Origin) (fs' : List Formatter),
        (∀ f, RegisteredLast (origin.history fs) f ↔ RegisteredLast (origin'.history fs') f) →
        AnswersAlike (origin.after fs) (origin'.after fs') := by
  have hsorted := origin.isSorted_after fs
  refine ⟨?_, ?_, ?_, ?_, ?_, ?_, ?_⟩
  · exact hsorted.pairwise_names.imp Text.bytes_lt_bytes_iff.2
  · intro n
    rw [mem_names_iff, Origin.isSome_get?_after]
  · intro n
    exact ⟨has_iff.trans mem_names_iff.symm, mem_names_iff⟩
  · intro n f
    exact Origin.get?_after
  · intro f hlast root
    have hget := Origin.get?_after.2 ⟨hlast, rfl⟩
    simp [serialize, hget]
  · intro n hnever root
    have hget : (origin.after fs).get? n = none := by
      rw [← Option.not_isSome_iff_eq_none, Origin.isSome_get?_after]
      simpa using hnever
    simp [serialize, hget]
  · intro origin' fs' hlast
    have hget : ∀ n, (origin.after fs).get? n = (origin'.after fs').get? n := by
      intro n
      apply Option.ext
      intro f
      rw [Origin.get?_after, Origin.get?_after, hlast]
    rw [hsorted.ext_get? (origin'.isSorted_after fs') hget]
    exact ⟨rfl, fun _ => rfl, fun _ => rfl, fun _ _ => rfl⟩

/-- A format that gives the same text for every template. -/
def constant (name text : String) : Formatter := { name, serialize := fun _ => .pure text }

/-- Registrations that replace a built-in format twice. -/
def replacingTwig : List Formatter :=
  [constant "twig" "old", constant "😀" "b", constant "\uffff" "c", constant "twig" "new"]

/-- The names are listed in the order of bytes, not in that of UTF-16. -/
theorem answers_after_replacing_twig :
    ((Origin.builtIn {}).after replacingTwig).names = ["treeviz", "twig", "\uffff", "😀"] ∧
      ((Origin.builtIn {}).after replacingTwig).serialize (.data "x") "twig" = .pure "new" ∧
      AnswersAlike ((Origin.builtIn {}).after replacingTwig)
        (Origin.empty.after
          [constant "twig" "new", constant "\uffff" "c", constant "😀" "b", .treeviz]) := by
  obtain ⟨-, -, -, -, hserialize, -, halike⟩ :=
    answers_after_registrations (.builtIn {}) replacingTwig
  refine ⟨rfl, hserialize (constant "twig" "new") ?_ (.data "x"), halike .empty _ fun f => ?_⟩
  · simp [Origin.history, replacingTwig, registeredLast_cons]
  · have hlast : RegisteredLast ((Origin.builtIn {}).history replacingTwig) f ↔
        .treeviz = f ∨ constant "😀" "b" = f ∨ constant "\uffff" "c" = f ∨
          constant "twig" "new" = f := by
      simp [Origin.history, replacingTwig, registeredLast_cons, constant, Formatter.twig,
        Formatter.treeviz, or_assoc, or_comm]
    rw [hlast]
    simp [Origin.history, registeredLast_cons, constant, Formatter.treeviz, or_assoc]

end TwigPrinter.Registry
