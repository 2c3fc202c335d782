import Mathlib.Data.List.Chain
import TwigPrinter.Proofs.Concatenation
import TwigPrinter.Proofs.ScalarText
/-!
Texts that can stand in a tag. No mark that opens a tag or ends a statement occurs in them, and
every brace they open they close again. The mark that ends an expression does occur when one
dictionary ends right after another, but its braces are then closed ones: the first brace that is
closed without having been opened in the tag is the tag's own.
-/
namespace TwigPrinter

/-- How many braces are open after a text when `depth` are open before it. -/
def braceDepth (depth : Nat) : List Char → Option Nat
  | [] => some depth
  | '\x7b' :: rest => braceDepth (depth + 1) rest
  | '\x7d' :: rest => if depth = 0 then none else braceDepth (depth - 1) rest
  | _ :: rest => braceDepth depth rest

/-- What is required of a text in a tag. -/
structure FitsInTag (cs : List Char) : Prop where
  noExpression : ¬ ['\x7b', '\x7b'] <:+: cs
  noStatement : ¬ ['\x7b', '%'] <:+: cs
  noStatementEnd : ¬ ['%', '\x7d'] <:+: cs
  balanced : braceDepth 0 cs = some 0

theorem braceDepth_cons_of_ne {d : Nat} {c : Char} {cs : List Char} (hopen : c ≠ '\x7b')
    (hclose : c ≠ '\x7d') : braceDepth d (c :: cs) = braceDepth d cs := by
  rw [braceDepth]
  · exact hopen
  · exact hclose

theorem braceDepth_append (d : Nat) (cs ds : List Char) :
    braceDepth d (cs ++ ds) = (braceDepth d cs).bind fun e => braceDepth e ds := by
  fun_induction braceDepth d cs with
  | case1 => rfl
  | case2 d rest ih => simpa [braceDepth] using ih
  | case3 rest => simp [braceDepth]
  | case4 d rest hd ih => simpa [braceDepth, hd] using ih
  | case5 d c rest hopen hclose ih => rw [List.cons_append, braceDepth_cons_of_ne hopen hclose, ih]

/-- Braces that are open before a text do not disturb it. -/
theorem braceDepth_add {d e : Nat} {cs : List Char} (k : Nat) (h : braceDepth d cs = some e) :
    braceDepth (d + k) cs = some (e + k) := by
  fun_induction braceDepth d cs with
  | case1 d => simpa [braceDepth] using h
  | case2 d rest ih =>
    rw [braceDepth, Nat.add_right_comm]
    exact ih h
  | case3 rest => cases h
  | case4 d rest hd ih =>
    have hpred : d + k - 1 = d - 1 + k := by omega
    rw [braceDepth, if_neg (by omega), hpred]
    exact ih h
  | case5 d c rest hopen hclose ih =>
    rw [braceDepth_cons_of_ne hopen hclose]
    exact ih h

/-- Whether two characters may stand next to each other in a tag. -/
def canMeet (a b : Char) : Bool :=
  !(a == '\x7b' && (b == '\x7b' || b == '%')) && !(a == '%' && b == '\x7d')

/-- A text that fits in a tag and goes on fitting when such texts are put next to each other. -/
structure Sealed (cs : List Char) : Prop where
  balanced : braceDepth 0 cs = some 0
  neighbours : cs.IsChain fun a b => canMeet a b = true
  last : cs.getLast? ≠ some '%'

theorem getLast?_ne_open {cs : List Char} (h : braceDepth 0 cs = some 0) :
    cs.getLast? ≠ some '\x7b' := by
  intro hlast
  obtain ⟨init, rfl⟩ := List.getLast?_eq_some_iff.1 hlast
  rw [braceDepth_append] at h
  obtain ⟨e, -, he⟩ := Option.bind_eq_some_iff.1 h
  simp [braceDepth] at he

namespace Sealed

theorem pair_absent {cs : List Char} (h : Sealed cs) {a b : Char} (hab : canMeet a b = false) :
    ¬ [a, b] <:+: cs := by
  rintro ⟨before, after, rfl⟩
  have hpair := (List.isChain_append.1 (List.isChain_append.1 h.neighbours).1).2.1
  rw [List.isChain_pair, hab] at hpair
  cases hpair

theorem fitsInTag {cs : List Char} (h : Sealed cs) : FitsInTag cs where
  noExpression := h.pair_absent (by decide)
  noStatement := h.pair_absent (by decide)
  noStatementEnd := h.pair_absent (by decide)
  balanced := h.balanced

theorem append {cs ds : List Char} (hc : Sealed cs) (hd : Sealed ds) : Sealed (cs ++ ds) where
  balanced := by rw [braceDepth_append, hc.balanced]; exact hd.balanced
  neighbours := by
    refine List.isChain_append.2 ⟨hc.neighbours, hd.neighbours, fun a ha b _ => ?_⟩
    have hopen : a ≠ '\x7b' := fun h => getLast?_ne_open hc.balanced (h ▸ ha)
    have hpercent : a ≠ '%' := fun h => hc.last (h ▸ ha)
    simp [canMeet, hopen, hpercent]
  last := by
    rw [List.getLast?_append]
    cases hlast : ds.getLast? with
    | none => exact hc.last
    | some c => simpa [hlast] using hd.last

/-- A dictionary, whose first character after the brace is a quote if there is one. -/
theorem braces {cs : List Char} (h : Sealed cs) (hhead : ∀ c ∈ cs.head?, c = '"') :
    Sealed ('\x7b' :: cs ++ ['\x7d']) where
  balanced := by
    have hinside := braceDepth_add 1 h.balanced
    rw [List.cons_append, braceDepth, braceDepth_append, hinside]
    rfl
  neighbours := by
    refine List.isChain_append.2 ⟨?_, List.isChain_singleton _, fun a ha b hb => ?_⟩
    · refine List.isChain_cons.2 ⟨fun c hc => ?_, h.neighbours⟩
      rw [hhead c hc]
      decide
    · obtain rfl : b = '\x7d' := by simpa using hb.symm
      cases cs with
      | nil =>
        obtain rfl : a = '\x7b' := by simpa using ha.symm
        decide
      | cons c rest =>
        rw [List.getLast?_cons_cons] at ha
        have hpercent : a ≠ '%' := fun heq => h.last (heq ▸ ha)
        simp [canMeet, hpercent]
  last := by
    rw [List.getLast?_append]
    simp

end Sealed

/-- The characters that the marks of tags are made of. -/
def isMarkChar (c : Char) : Bool := c == '\x7b' || c == '\x7d' || c == '%'

/-- No such character stands in the text. -/
def MarkFree (cs : List Char) : Prop := ∀ c ∈ cs, isMarkChar c = false

instance (cs : List Char) : Decidable (MarkFree cs) := List.decidableBAll _ cs

theorem MarkFree.sealed {cs : List Char} (h : MarkFree cs) : Sealed cs := by
  induction cs with
  | nil => exact ⟨rfl, .nil, by simp⟩
  | cons c rest ih =>
    have hc := h c List.mem_cons_self
    simp only [isMarkChar, Bool.or_eq_false_iff, beq_eq_false_iff_ne] at hc
    have hone : Sealed [c] := by
      refine ⟨?_, List.isChain_singleton _, by simpa using hc.2⟩
      rw [braceDepth_cons_of_ne hc.1.1 hc.1.2]
      rfl
    exact hone.append (ih fun d hd => h d (List.mem_cons_of_mem c hd))

theorem IsBare.markFree {cs : List Char} (h : IsBare cs) : MarkFree cs := by
  intro c hc
  by_contra hmark
  have hbare := h c hc
  simp only [isMarkChar, Bool.not_eq_false, Bool.or_eq_true, beq_iff_eq] at hmark
  rcases hmark with (rfl | rfl) | rfl <;> revert hbare <;> decide

theorem markFree_escapeChars {cs : List Char} (h : MarkFree cs) :
    MarkFree (Text.escapeChars cs) := by
  induction cs with
  | nil => exact h
  | cons c rest ih =>
    have hc := h c List.mem_cons_self
    have hrest := ih fun d hd => h d (List.mem_cons_of_mem c hd)
    rw [Text.escapeChars]
    split
    · intro d hd
      rcases List.mem_cons.1 hd with rfl | hd
      · decide
      rcases List.mem_cons.1 hd with rfl | hd
      · exact hc
      · exact hrest d hd
    · intro d hd
      rcases List.mem_cons.1 hd with rfl | hd
      · exact hc
      · exact hrest d hd

theorem sealed_quoted {s : String} (h : MarkFree s.toList) : Sealed (Fragment.quoted s).chars := by
  rw [Fragment.chars_quoted]
  have hquote : Sealed ['"'] := MarkFree.sealed (by decide)
  exact (hquote.append (markFree_escapeChars h).sealed).append hquote

end TwigPrinter
