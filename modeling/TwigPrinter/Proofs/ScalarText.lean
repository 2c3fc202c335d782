import TwigPrinter.Template.Scalar
/-!
The characters of the values that are printed without quotes: numbers, truth values and null. None of
them has a meaning for Twig, so that such a value is never taken for anything else.
-/
namespace TwigPrinter

/-- The characters of an unquoted value. -/
def isBareChar (c : Char) : Bool := c.isAlphanum || c == '+' || c == '-' || c == '.'

theorem isBareChar_of_isDigit {c : Char} (h : c.isDigit = true) : isBareChar c = true := by
  simp [isBareChar, Char.isAlphanum, h]

theorem isBareChar_toDigits {n : Nat} {c : Char} (h : c ∈ Nat.toDigits 10 n) : isBareChar c = true :=
  isBareChar_of_isDigit (Nat.isDigit_of_mem_toDigits (by decide) (by decide) h)

/-- Only such characters stand in the text. -/
def IsBare (cs : List Char) : Prop := ∀ c ∈ cs, isBareChar c = true

instance (cs : List Char) : Decidable (IsBare cs) := List.decidableBAll _ cs

@[simp] theorem isBare_cons {c : Char} {cs : List Char} :
    IsBare (c :: cs) ↔ isBareChar c = true ∧ IsBare cs := by
  simp [IsBare]

@[simp] theorem isBare_append {cs ds : List Char} : IsBare (cs ++ ds) ↔ IsBare cs ∧ IsBare ds := by
  simp [IsBare, or_imp, forall_and]

theorem IsBare.of_subset {cs ds : List Char} (h : IsBare ds) (hsub : cs ⊆ ds) : IsBare cs :=
  fun c hc => h c (hsub hc)

theorem IsBare.quote_not_mem {cs : List Char} (h : IsBare cs) : '"' ∉ cs :=
  fun hmem => absurd (h _ hmem) (by decide)

namespace Decimal

theorem isBare_zeros (n : Nat) : IsBare (zeros n) := by
  intro c hc
  rw [List.eq_of_mem_replicate hc]
  decide

theorem isBare_positional {d : Decimal} (h : IsBare d.digits) : IsBare d.positional.toList := by
  have hdigit : isBareChar '0' = true := by decide
  have hpoint : isBareChar '.' = true := by decide
  unfold positional
  dsimp only
  split
  · simp [hdigit, hpoint, isBare_zeros, h]
  · split
    · simp [h, isBare_zeros]
    · simp [hpoint, h.of_subset (List.take_subset _ _), h.of_subset (List.drop_subset _ _)]

theorem isBare_scientific {d : Decimal} (h : IsBare d.digits) : IsBare d.scientific.toList := by
  have hexponent : ∀ n, IsBare (Nat.toDigits 10 n) := fun _ _ => isBareChar_toDigits
  have hpoint : isBareChar '.' = true := by decide
  have he : isBareChar 'e' = true := by decide
  have hsign : isBareChar (if d.point - 1 < 0 then '-' else '+') = true := by
    split <;> decide
  unfold scientific
  simp only [String.toList_ofList, isBare_append, isBare_cons]
  refine ⟨?_, he, hsign, hexponent _⟩
  split
  · simp [IsBare]
  · simp_all
  · simp_all

end Decimal

namespace Binary64

theorem isBare_shortest (tie : Tie) (x : Binary64) : IsBare (x.shortest tie).digits := by
  have hzero : IsBare ['0'] := by decide
  unfold shortest
  split
  · exact hzero
  · dsimp only
    split
    · intro c hc
      simp only [Decimal.trim, List.mem_reverse] at hc
      exact isBareChar_toDigits (List.mem_reverse.1 (List.dropWhile_subset _ hc))
    · exact hzero

end Binary64

namespace Number

theorem isBare_signed {negative : Bool} {text : String} (h : IsBare text.toList) :
    IsBare (signed negative text).toList := by
  have hsign : isBareChar '-' = true := by decide
  cases negative <;> simp [signed, h, hsign]

theorem isBare_repr (n : Nat) : IsBare (Nat.repr n).toList := by
  intro c hc
  exact isBareChar_toDigits (by simpa using hc)

theorem isBare_text (n : Number) : IsBare n.text.toList := by
  cases n with
  | integer n => exact isBare_signed (isBare_repr _)
  | real x =>
    have hdigits := x.isBare_shortest .toEven
    have hshort : ∀ b : Bool, IsBare (signed x.negative (if b then
        (x.shortest .toEven).positional else (x.shortest .toEven).scientific)).toList := by
      intro b
      apply isBare_signed
      cases b
      · exact Decimal.isBare_scientific hdigits
      · exact Decimal.isBare_positional hdigits
    unfold text
    dsimp only
    split
    · split
      · exact isBare_signed (isBare_repr _)
      · exact hshort _
    · exact hshort _

end Number

theorem Scalar.isBare_text {v : Scalar} (h : ∀ s, v ≠ .string s) : IsBare v.text.toList := by
  cases v with
  | string s => exact absurd rfl (h s)
  | number n => exact n.isBare_text
  | bool b => cases b <;> decide
  | null => decide

end TwigPrinter
