import TwigPrinter.Proofs.OwnTags
import TwigPrinter.Proofs.Readings
/-!
Chains of properties and of filters. The outermost node of a chain is its last link, and its text is
the text of the base with what each link adds behind it, from the first link to the last.
-/
namespace TwigPrinter

variable {o : Options} {n base : Node} {s : String}

theorem writes_iff_rendered : Writes o n s.toList ↔ n.rendered o false = .ok s := by
  unfold Writes Prints Node.rendered
  rw [bind_eq_ok_iff]
  simp only [Fragment.chars, String.toList_inj, Except.ok.injEq]

/-- A chain is printed link by link if each link only adds its text. -/
theorem rendered_foldl {α : Type} {attach : Node → α → Node} {text : α → String} {links : List α}
    (hlink : ∀ a ∈ links, ∀ n s, n.rendered o false = .ok s →
      (attach n a).rendered o false = .ok (s ++ text a))
    (hbase : base.rendered o false = .ok s) :
    (links.foldl attach base).rendered o false = .ok (s ++ String.join (links.map text)) := by
  -- the rest of the chain stands on the first link, so the base changes along the list
  induction links generalizing base s with
  | nil => simpa using hbase
  | cons a rest ih =>
    have hfirst := hlink a List.mem_cons_self base s hbase
    have hrest := ih (fun b hb => hlink b (List.mem_cons_of_mem a hb)) hfirst
    simpa [String.append_assoc] using hrest

theorem rendered_attr (h : n.rendered o false = .ok s) (key : String) :
    (n.attr key).rendered o false = .ok (s ++ ("[" ++ (Fragment.quoted key).render ++ "]")) := by
  rw [← writes_iff_rendered] at h ⊢
  have hkey : Writes o (.string key) (Fragment.quoted key).chars := writes_literal (.string key)
  have hwritten : Writes o (n.attr key) _ := writes_lookup h hkey
  simpa [Fragment.chars] using hwritten

namespace FilterUse

/-- What a filter adds to the text of its value, from the texts of its arguments. The name that stands
for its own in the table is not looked up again. -/
def suffix (o : Options) (text : Node → String) (u : FilterUse) : String :=
  " | " ++ (o.filterRenames.lookup u.name).getD u.name ++
    if u.args.isEmpty then "" else "(" ++ ",".intercalate (u.args.map text) ++ ")"

theorem toList_suffix (text : Node → String) (u : FilterUse) :
    (u.suffix o text).toList = " | ".toList ++ (o.filterName u.name).toList ++
      Node.filterArguments (u.args.map fun a => (text a).toList) := by
  obtain ⟨name, args⟩ := u
  cases args with
  | nil => simp [suffix, Node.filterArguments, Options.filterName]
  | cons a args =>
    simp [suffix, Node.filterArguments, Options.filterName, String.toList_intercalate,
      Function.comp_def]

theorem rendered_applyFilter {u : FilterUse} {text : Node → String}
    (h : n.rendered o false = .ok s) (hargs : ∀ a ∈ u.args, a.rendered o false = .ok (text a)) :
    (Node.applyFilter u.name n u.args).rendered o false = .ok (s ++ u.suffix o text) := by
  have hname : (Node.symbol u.name).filterName? = some u.name := rfl
  have hparts := List.Forall₂.cons (writes_iff_rendered.2 h)
    (forall₂_writes fun a ha => writes_iff_rendered.2 (hargs a ha))
  have hwritten := writes_filter hname hparts
  rw [← writes_iff_rendered, String.toList_append, toList_suffix]
  exact hwritten

end FilterUse

/-- A chain of properties is printed as its base with one index for each name behind it, and a chain of
filters as its base with the filters behind it. -/
theorem chains_print_left_to_right {o : Options} {base : Node} {s : String}
    (hbase : base.rendered o false = .ok s) :
    (∀ keys : List String, (keys.foldl Node.attr base).rendered o false =
      .ok (s ++ String.join (keys.map fun key => "[" ++ (Fragment.quoted key).render ++ "]"))) ∧
    ∀ (uses : List FilterUse) (text : Node → String),
      (∀ u ∈ uses, ∀ a ∈ u.args, a.rendered o false = .ok (text a)) →
      (uses.foldl (fun n u => .applyFilter u.name n u.args) base).rendered o false =
        .ok (s ++ String.join (uses.map (FilterUse.suffix o text))) := by
  constructor
  · intro keys
    exact rendered_foldl (fun key _ n s hn => rendered_attr hn key) hbase
  · intro uses text hargs
    exact rendered_foldl (fun u hu n s hn => FilterUse.rendered_applyFilter hn (hargs u hu)) hbase

/-- The name that a filter is renamed to is itself renamed in the table, and stays. -/
theorem rendered_chain_of_renamed_filters :
    (([⟨"safe", []⟩, ⟨"join", [.symbol "y", .symbol "y"]⟩].foldl
      (fun n (u : FilterUse) => .applyFilter u.name n u.args)
      (["a", "b\""].foldl Node.attr (.symbol "x"))).rendered
        { filterRenames := [("safe", "raw"), ("raw", "e")] } false) =
      .ok "x[\"a\"][\"b\\\"\"] | raw | join(y,y)" := by
  have hsymbol : ∀ (o : Options) (name : String), (Node.symbol name).rendered o false = .ok name :=
    fun _ _ => rfl
  obtain ⟨hkeys, -⟩ := chains_print_left_to_right
    (hsymbol { filterRenames := [("safe", "raw"), ("raw", "e")] } "x")
  obtain ⟨-, huses⟩ := chains_print_left_to_right (hkeys ["a", "b\""])
  rw [huses _ fun _ => "y"]
  · rfl
  · simp [hsymbol]

end TwigPrinter
