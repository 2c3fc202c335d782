/-!
Texts that can be taken apart again. What is written in a row can be read back from left to right
when each piece shows where it ends: because the next character cannot belong to it, or because it
ends by itself. Statements about that have the form `a ++ r = b ++ s → a = b ∧ r = s`, where `r` and
`s` are what comes behind.
-/
namespace TwigPrinter

section Splitting

variable {α β : Type}

/-- The list goes on with an element for which `p` does not hold, or ends. -/
def BreaksOff (p : α → Bool) (r : List α) : Prop := ∀ c ∈ r.head?, p c = false

@[simp] theorem breaksOff_nil (p : α → Bool) : BreaksOff p [] := by simp [BreaksOff]

@[simp] theorem breaksOff_cons {p : α → Bool} {c : α} {r : List α} :
    BreaksOff p (c :: r) ↔ p c = false := by
  simp [BreaksOff]

theorem takeWhile_append_of_breaksOff {p : α → Bool} {a r : List α} (ha : ∀ c ∈ a, p c = true)
    (hr : BreaksOff p r) : (a ++ r).takeWhile p = a := by
  have hrest : r.takeWhile p = [] := by
    cases r with
    | nil => rfl
    | cons c r => simp [breaksOff_cons.1 hr]
  rw [List.takeWhile_append_of_pos ha, hrest, List.append_nil]

theorem append_inj_of_breaksOff {p : α → Bool} {a b r s : List α} (ha : ∀ c ∈ a, p c = true)
    (hb : ∀ c ∈ b, p c = true) (hr : BreaksOff p r) (hs : BreaksOff p s) (h : a ++ r = b ++ s) :
    a = b ∧ r = s := by
  have hab : a = b := by
    rw [← takeWhile_append_of_breaksOff ha hr, h, takeWhile_append_of_breaksOff hb hs]
  subst hab
  exact ⟨rfl, List.append_cancel_left h⟩

/-- A text that can come behind a piece, and not behind the last one of a row: what can come there
are texts with `Follow` and with `Stop`. -/
def IsPiece (Follow Stop : List β → Prop) (piece : List β) : Prop :=
  ∀ u, Follow (piece ++ u) ∧ ¬ Stop (piece ++ u)

section Rows

variable (text : α → List β) (Follow Stop : List β → Prop) (hstop : ∀ u, Stop u → Follow u)
  {as bs : List α} (has : ∀ a ∈ as, IsPiece Follow Stop (text a))

include hstop has

theorem follow_flatMap_append {r : List β} (hr : Stop r) : Follow (as.flatMap text ++ r) := by
  cases as with
  | nil => exact hstop r hr
  | cons a as =>
    rw [List.flatMap_cons, List.append_assoc]
    exact (has a List.mem_cons_self _).1

/-- Two rows of pieces that are told apart one by one. -/
theorem flatMap_append_inj (hbs : ∀ b ∈ bs, IsPiece Follow Stop (text b))
    (hinj : ∀ a ∈ as, ∀ b ∈ bs, ∀ u v, Follow u → Follow v → text a ++ u = text b ++ v →
      a = b ∧ u = v)
    {r s : List β} (hr : Stop r) (hs : Stop s) (h : as.flatMap text ++ r = bs.flatMap text ++ s) :
    as = bs ∧ r = s := by
  induction as generalizing bs with
  | nil =>
    cases bs with
    | nil => exact ⟨rfl, h⟩
    | cons b bs =>
      rw [List.flatMap_nil, List.nil_append, List.flatMap_cons, List.append_assoc] at h
      exact absurd (h ▸ hr) (hbs b List.mem_cons_self _).2
  | cons a as ih =>
    have has' : ∀ c ∈ as, IsPiece Follow Stop (text c) := fun c hc =>
      has c (List.mem_cons_of_mem a hc)
    cases bs with
    | nil =>
      rw [List.flatMap_nil, List.nil_append, List.flatMap_cons, List.append_assoc] at h
      exact absurd (h ▸ hs) (has a List.mem_cons_self _).2
    | cons b bs =>
      have hbs' : ∀ c ∈ bs, IsPiece Follow Stop (text c) := fun c hc =>
        hbs c (List.mem_cons_of_mem b hc)
      simp only [List.flatMap_cons, List.append_assoc] at h
      obtain ⟨rfl, hrest⟩ := hinj a List.mem_cons_self b List.mem_cons_self _ _
        (follow_flatMap_append text Follow Stop hstop has' hr)
        (follow_flatMap_append text Follow Stop hstop hbs' hs) h
      obtain ⟨rfl, rfl⟩ := ih has' hbs'
        (fun c hc d hd => hinj c (List.mem_cons_of_mem a hc) d (List.mem_cons_of_mem a hd)) hrest
      exact ⟨rfl, rfl⟩

/-- The same with a first text before each row, which is told apart as soon as a piece follows. -/
theorem append_flatMap_append_inj {P : Prop} {first first' : List β}
    (hfirst : ∀ u v, Follow u → Follow v → first ++ u = first' ++ v → P ∧ u = v)
    (hbs : ∀ b ∈ bs, IsPiece Follow Stop (text b))
    (hinj : ∀ a ∈ as, ∀ b ∈ bs, ∀ u v, Follow u → Follow v → text a ++ u = text b ++ v →
      a = b ∧ u = v)
    {r s : List β} (hr : Stop r) (hs : Stop s)
    (h : first ++ as.flatMap text ++ r = first' ++ bs.flatMap text ++ s) :
    P ∧ as = bs ∧ r = s := by
  rw [List.append_assoc, List.append_assoc] at h
  obtain ⟨hP, hrest⟩ := hfirst _ _ (follow_flatMap_append text Follow Stop hstop has hr)
    (follow_flatMap_append text Follow Stop hstop hbs hs) h
  exact ⟨hP, flatMap_append_inj text Follow Stop hstop has hbs hinj hr hs hrest⟩

end Rows
end Splitting
end TwigPrinter
