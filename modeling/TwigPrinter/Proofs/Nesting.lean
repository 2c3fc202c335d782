import TwigPrinter.Proofs.Concatenation
import TwigPrinter.Proofs.ScalarText
/-!
Brackets and strings of a text. `Nesting.read` goes through a text character by character and keeps
the brackets that are open, each of which has to be closed by one of its own kind; what stands in a
double-quoted string does not count, and a backslash there takes away the meaning of the next
character.
-/
namespace TwigPrinter

/-- Where a reader stands with respect to strings. -/
inductive Place where
  | code
  | string
  | escaped
  deriving DecidableEq, Repr

/-- The state of a reader: the open brackets, the innermost one first. -/
structure Nesting where
  place : Place := .code
  opened : List Char := []
  deriving DecidableEq, Repr

/-- The bracket that closes another one. -/
def closing? : Char → Option Char
  | '(' => some ')'
  | '[' => some ']'
  | '\x7b' => some '\x7d'
  | _ => none

def isClosing (c : Char) : Bool := c == ')' || c == ']' || c == '\x7d'

/-- A character that is neither a bracket nor begins a string. -/
def isPlainChar (c : Char) : Bool := c != '"' && (closing? c).isNone && !isClosing c

def IsPlain (cs : List Char) : Prop := ∀ c ∈ cs, isPlainChar c = true

instance (cs : List Char) : Decidable (IsPlain cs) := List.decidableBAll _ cs

theorem closing?_cases {b c : Char} (h : closing? b = some c) :
    b = '(' ∧ c = ')' ∨ b = '[' ∧ c = ']' ∨ b = '\x7b' ∧ c = '\x7d' := by
  unfold closing? at h
  split at h <;> simp_all [eq_comm]

namespace Nesting

/-- A character outside of strings. -/
def readCode (opened : List Char) (c : Char) : Option Nesting :=
  if c = '"' then some ⟨.string, opened⟩
  else if (closing? c).isSome then some ⟨.code, c :: opened⟩
  else if isClosing c then
    match opened with
    | b :: rest => if closing? b = some c then some ⟨.code, rest⟩ else none
    | [] => none
  else some ⟨.code, opened⟩

/-- The state after a character; nothing if it is a bracket that closes no open one. -/
def read (s : Nesting) (c : Char) : Option Nesting :=
  match s.place with
  | .code => readCode s.opened c
  | .string =>
    some ⟨if c = '\\' then .escaped else if c = '"' then .code else .string, s.opened⟩
  | .escaped => some ⟨.string, s.opened⟩

def readAll (s : Nesting) (cs : List Char) : Option Nesting := cs.foldlM read s

@[simp] theorem readAll_nil (s : Nesting) : s.readAll [] = some s := rfl

@[simp] theorem readAll_cons (s : Nesting) (c : Char) (cs : List Char) :
    s.readAll (c :: cs) = (s.read c).bind (readAll · cs) := by
  simp [readAll]

theorem readAll_append (s : Nesting) (cs ds : List Char) :
    s.readAll (cs ++ ds) = (s.readAll cs).bind (readAll · ds) := by
  simp [readAll]

/-- The same state inside of further brackets. -/
def under (base : List Char) (s : Nesting) : Nesting := ⟨s.place, s.opened ++ base⟩

theorem readCode_under {opened : List Char} {t : Nesting} {c : Char} (base : List Char)
    (h : readCode opened c = some t) : readCode (opened ++ base) c = some (t.under base) := by
  unfold readCode at h ⊢
  by_cases hquote : c = '"'
  · rw [if_pos hquote] at h ⊢
    obtain rfl := Option.some.inj h
    rfl
  rw [if_neg hquote] at h ⊢
  by_cases hopening : (closing? c).isSome = true
  · rw [if_pos hopening] at h ⊢
    obtain rfl := Option.some.inj h
    rfl
  rw [if_neg hopening] at h ⊢
  by_cases hclosing : isClosing c = true
  · rw [if_pos hclosing] at h ⊢
    cases opened with
    | nil => cases h
    | cons b rest =>
      by_cases hb : closing? b = some c
      · obtain rfl : ⟨.code, rest⟩ = t := by simpa [hb] using h
        simp [hb, under]
      · simp [hb] at h
  · rw [if_neg hclosing] at h ⊢
    obtain rfl := Option.some.inj h
    rfl

theorem read_under {s t : Nesting} {c : Char} (base : List Char) (h : s.read c = some t) :
    (s.under base).read c = some (t.under base) := by
  obtain ⟨place, opened⟩ := s
  cases place with
  | code => exact readCode_under base h
  | string =>
    obtain rfl := Option.some.inj h
    rfl
  | escaped =>
    obtain rfl := Option.some.inj h
    rfl

/-- A text that closes what it opens cannot close what is open around it. -/
theorem readAll_under {s t : Nesting} {cs : List Char} (base : List Char)
    (h : s.readAll cs = some t) : (s.under base).readAll cs = some (t.under base) := by
  induction cs generalizing s with
  | nil =>
    obtain rfl : s = t := by simpa using h
    rfl
  | cons c rest ih =>
    rw [readAll_cons] at h ⊢
    obtain ⟨u, hu, hrest⟩ := Option.bind_eq_some_iff.1 h
    rw [read_under base hu]
    exact ih hrest

theorem read_opening {b c : Char} (h : closing? b = some c) (opened : List Char) :
    read ⟨.code, opened⟩ b = some ⟨.code, b :: opened⟩ := by
  rcases closing?_cases h with ⟨rfl, -⟩ | ⟨rfl, -⟩ | ⟨rfl, -⟩ <;> rfl

theorem read_closing {b c : Char} (h : closing? b = some c) (opened : List Char) :
    read ⟨.code, b :: opened⟩ c = some ⟨.code, opened⟩ := by
  rcases closing?_cases h with ⟨rfl, rfl⟩ | ⟨rfl, rfl⟩ | ⟨rfl, rfl⟩ <;> rfl

theorem read_plain {c : Char} (h : isPlainChar c = true) (opened : List Char) :
    read ⟨.code, opened⟩ c = some ⟨.code, opened⟩ := by
  simp only [isPlainChar, Bool.and_eq_true, bne_iff_ne, Bool.not_eq_true', Option.isNone_iff_eq_none]
    at h
  simp [read, readCode, h]

/-- What is escaped does not end a string. -/
theorem readAll_escapeChars (opened cs : List Char) :
    readAll ⟨.string, opened⟩ (Text.escapeChars cs) = some ⟨.string, opened⟩ := by
  induction cs with
  | nil => rfl
  | cons c rest ih =>
    by_cases h : c = '"' ∨ c = '\\'
    · simpa [Text.escapeChars, h, read] using ih
    · simp only [not_or] at h
      simpa [Text.escapeChars, h, read] using ih

/-- Up to its end the reader stays in the string. -/
theorem readAll_of_prefix_escapeChars (opened : List Char) {cs before : List Char}
    (h : before <+: Text.escapeChars cs) :
    ∃ place, place ≠ .code ∧ readAll ⟨.string, opened⟩ before = some ⟨place, opened⟩ := by
  induction cs generalizing before with
  | nil =>
    obtain rfl := List.prefix_nil.1 h
    exact ⟨.string, by decide, rfl⟩
  | cons c rest ih =>
    cases before with
    | nil => exact ⟨.string, by decide, rfl⟩
    | cons d before =>
      by_cases hc : c = '"' ∨ c = '\\'
      · rw [Text.escapeChars, if_pos hc, List.cons_prefix_cons] at h
        obtain ⟨rfl, h⟩ := h
        cases before with
        | nil => exact ⟨.escaped, by decide, rfl⟩
        | cons e before =>
          obtain ⟨place, hplace, hread⟩ := ih (List.cons_prefix_cons.1 h).2
          exact ⟨place, hplace, hread⟩
      · rw [Text.escapeChars, if_neg hc, List.cons_prefix_cons] at h
        obtain ⟨rfl, h⟩ := h
        obtain ⟨place, hplace, hread⟩ := ih h
        rw [not_or] at hc
        exact ⟨place, hplace, by simp [read, hc, hread]⟩

end Nesting

/-- All brackets and strings of the text are closed in it. -/
def Balanced (cs : List Char) : Prop := Nesting.readAll {} cs = some {}

instance (cs : List Char) : Decidable (Balanced cs) :=
  inferInstanceAs (Decidable (Nesting.readAll {} cs = some {}))

namespace Balanced

theorem readAll {cs : List Char} (h : Balanced cs) (opened : List Char) :
    Nesting.readAll ⟨.code, opened⟩ cs = some ⟨.code, opened⟩ := Nesting.readAll_under opened h

theorem append {cs ds : List Char} (hc : Balanced cs) (hd : Balanced ds) : Balanced (cs ++ ds) := by
  rw [Balanced, Nesting.readAll_append, hc, Option.bind_some, hd]

theorem enclosed {cs : List Char} (h : Balanced cs) {b c : Char} (hb : closing? b = some c) :
    Balanced (b :: cs ++ [c]) := by
  simp [Balanced, Nesting.readAll_append, Nesting.read_opening hb, h.readAll,
    Nesting.read_closing hb]

theorem plain {cs : List Char} (h : IsPlain cs) : Balanced cs := by
  induction cs with
  | nil => rfl
  | cons c rest ih =>
    have hread := Nesting.read_plain (h c List.mem_cons_self) []
    rw [Balanced, Nesting.readAll_cons, hread]
    exact ih fun d hd => h d (List.mem_cons_of_mem c hd)

theorem quoted (s : String) : Balanced (Fragment.quoted s).chars := by
  have hopen : Nesting.read {} '"' = some ⟨.string, []⟩ := rfl
  have hclose : Nesting.read ⟨.string, []⟩ '"' = some {} := rfl
  simp [Balanced, Nesting.readAll_append, hopen, Nesting.readAll_escapeChars, hclose]

end Balanced

/-- A text that is read as one whole: its brackets and strings are closed in it, and each blank of it
stands in a string or between brackets. -/
structure Atomic (cs : List Char) : Prop where
  balanced : Balanced cs
  blanks : ∀ before after, cs = before ++ ' ' :: after → Nesting.readAll {} before ≠ some {}

/-- An element before the end of a list that is not the last one. -/
theorem append_of_append_singleton {α : Type} {cs before after : List α} {c d : α}
    (h : cs ++ [c] = before ++ d :: after) (hne : d ≠ c) : ∃ rest, cs = before ++ d :: rest := by
  rcases List.eq_nil_or_concat after with rfl | ⟨rest, e, rfl⟩
  · have hlast := (List.append_inj' h rfl).2
    simp_all
  · refine ⟨rest, ?_⟩
    have hinit : cs ++ [c] = (before ++ d :: rest) ++ [e] := by simpa using h
    exact (List.append_inj' hinit rfl).1

namespace Atomic

theorem word {cs : List Char} (h : IsPlain cs) (hblank : ' ' ∉ cs) : Atomic cs where
  balanced := .plain h
  blanks := by
    rintro before after rfl
    simp at hblank

theorem append {cs ds : List Char} (hc : Atomic cs) (hd : Atomic ds) : Atomic (cs ++ ds) where
  balanced := hc.balanced.append hd.balanced
  blanks := by
    intro before after h
    rcases List.append_eq_append_iff.1 h with ⟨more, rfl, hds⟩ | ⟨more, rfl, hafter⟩
    · rw [Nesting.readAll_append, hc.balanced, Option.bind_some]
      exact hd.blanks more after hds
    · cases more with
      | nil => exact absurd rfl (hd.blanks [] after hafter.symm)
      | cons c more =>
        obtain ⟨rfl, -⟩ := List.cons.inj hafter
        exact hc.blanks before more rfl

theorem enclosed {cs : List Char} (h : Balanced cs) {b c : Char} (hb : closing? b = some c) :
    Atomic (b :: cs ++ [c]) where
  balanced := h.enclosed hb
  blanks := by
    intro before after heq
    have hne : ' ' ≠ b ∧ ' ' ≠ c := by
      rcases closing?_cases hb with ⟨rfl, rfl⟩ | ⟨rfl, rfl⟩ | ⟨rfl, rfl⟩ <;> decide
    cases before with
    | nil => exact absurd (List.cons.inj heq).1.symm hne.1
    | cons d before =>
      obtain ⟨rfl, hrest⟩ := List.cons.inj heq
      obtain ⟨rest, rfl⟩ := append_of_append_singleton hrest hne.2
      rw [Balanced, Nesting.readAll_append] at h
      obtain ⟨s, hs, -⟩ := Option.bind_eq_some_iff.1 h
      have hinside := Nesting.readAll_under [b] hs
      simp only [Nesting.under, List.nil_append] at hinside
      simp [Nesting.read_opening hb, hinside]

theorem quoted (s : String) : Atomic (Fragment.quoted s).chars where
  balanced := .quoted s
  blanks := by
    intro before after h
    rw [Fragment.chars_quoted] at h
    cases before with
    | nil => cases (List.cons.inj h).1
    | cons c before =>
      obtain ⟨rfl, hrest⟩ := List.cons.inj h
      obtain ⟨rest, hcontent⟩ := append_of_append_singleton hrest (by decide)
      have hopen : Nesting.read {} '"' = some ⟨.string, []⟩ := rfl
      have hinside := Nesting.readAll_of_prefix_escapeChars [] ⟨_, hcontent.symm⟩
      rw [Nesting.readAll_cons, hopen]
      obtain ⟨place, hplace, hread⟩ := hinside
      simp [hread, hplace]

end Atomic
end TwigPrinter
