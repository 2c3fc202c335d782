/-!
Answers of computations that can fail, whatever their errors are: an answer is taken apart at its
first step, and `errorOf?` forgets all of it but the error.
-/
namespace TwigPrinter

section Answers

variable {ε α β : Type}

@[simp] theorem ok_bind (a : α) (f : α → Except ε β) : (Except.ok a >>= f) = f a := rfl

@[simp] theorem error_bind (e : ε) (f : α → Except ε β) : (Except.error e >>= f) = .error e := rfl

@[simp] theorem pure_eq_ok (a : α) : (pure a : Except ε α) = .ok a := rfl

@[simp] theorem bind_ok (x : Except ε α) : (x >>= fun a => .ok a) = x := by
  cases x <;> rfl

theorem bind_eq_ok_iff {x : Except ε α} {f : α → Except ε β} {b : β} :
    (x >>= f) = .ok b ↔ ∃ a, x = .ok a ∧ f a = .ok b := by
  cases x <;> simp

/-- The error of an answer. -/
def errorOf? : Except ε α → Option ε
  | .error e => some e
  | .ok _ => none

@[simp] theorem errorOf?_ok (a : α) : errorOf? (.ok a : Except ε α) = none := rfl

@[simp] theorem errorOf?_error (e : ε) : errorOf? (.error e : Except ε α) = some e := rfl

theorem errorOf?_eq_some_iff {x : Except ε α} {e : ε} : errorOf? x = some e ↔ x = .error e := by
  cases x <;> simp

theorem errorOf?_eq_none_iff {x : Except ε α} : errorOf? x = none ↔ ∃ a, x = .ok a := by
  cases x <;> simp

theorem errorOf?_bind_ok (x : Except ε α) (f : α → β) :
    errorOf? (x >>= fun a => .ok (f a)) = errorOf? x := by
  cases x <;> rfl

theorem errorOf?_map (x : Except ε α) (f : α → β) : errorOf? (x.map f) = errorOf? x := by
  cases x <;> rfl

/-- Of two computations in a row, the second one counts only after the first one went well. -/
theorem errorOf?_bind {x : Except ε α} {f : α → Except ε β} {e : Option ε}
    (h : ∀ a, errorOf? (f a) = e) : errorOf? (x >>= f) = (errorOf? x).or e := by
  cases x with
  | error e => rfl
  | ok a => simpa using h a

end Answers
end TwigPrinter
