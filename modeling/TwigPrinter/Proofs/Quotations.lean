import TwigPrinter.Proofs.OwnTags
import TwigPrinter.Proofs.Readings
/-!
Strings in printed source. A quoted string shows where it ends and what it holds, whatever comes
behind it. The contents that are written between quotes are those in which a backslash stands before
each quote and each backslash and nowhere else (`Text.IsEscaped`); on them escaping and unescaping
undo each other. The path of an included template is read back without the mark of relative paths.
-/
namespace TwigPrinter
namespace Text

/-- Each backslash stands before a backslash or a quote, which it escapes, and no quote is left. -/
inductive IsEscaped : List Char → Prop where
  | nil : IsEscaped []
  | plain {c : Char} {cs : List Char} : c ≠ '"' → c ≠ '\\' → IsEscaped cs → IsEscaped (c :: cs)
  | escaped {c : Char} {cs : List Char} : c = '"' ∨ c = '\\' → IsEscaped cs →
      IsEscaped ('\\' :: c :: cs)

theorem unescapeChars_of_ne {c : Char} (h : c ≠ '\\') (cs : List Char) :
    unescapeChars (c :: cs) = c :: unescapeChars cs := by
  simp [unescapeChars, h]

theorem isEscaped_escapeChars (s : List Char) : IsEscaped (escapeChars s) := by
  induction s with
  | nil => exact .nil
  | cons c s ih =>
    by_cases hc : c = '"' ∨ c = '\\'
    · simpa [escapeChars, hc] using IsEscaped.escaped hc ih
    · obtain ⟨hquote, hslash⟩ := not_or.1 hc
      simpa [escapeChars, hquote, hslash] using IsEscaped.plain hquote hslash ih

theorem IsEscaped.escapeChars_unescapeChars {w : List Char} (h : IsEscaped w) :
    escapeChars (unescapeChars w) = w := by
  induction h with
  | nil => rfl
  | plain hquote hslash _ ih => simp [unescapeChars_of_ne hslash, escapeChars, hquote, hslash, ih]
  | escaped hc _ ih => simp [unescapeChars, escapeChars, hc, ih]

theorem escape_unescape_iff (w : String) : escape (unescape w) = w ↔ IsEscaped w.toList := by
  constructor
  · intro h
    rw [← h, escape, String.toList_ofList]
    exact isEscaped_escapeChars _
  · intro h
    simp [escape, unescape, h.escapeChars_unescapeChars]

theorem readString_quoted (s rest : String) :
    readString ((Fragment.quoted s).render ++ rest) = some (s, rest) := by
  have hchars : ((Fragment.quoted s).render ++ rest).toList =
      '"' :: (escapeChars s.toList ++ '"' :: rest.toList) := by
    have hquoted := Fragment.chars_quoted s
    simp_all [Fragment.chars]
  rw [readString, hchars]
  simp [scanString_escapeChars_append]

end Text

theorem isPrefixOf_toList_iff {s t : String} :
    s.toList.isPrefixOf t.toList = true ↔ ∃ rest, t = s ++ rest := by
  rw [List.isPrefixOf_iff_prefix]
  constructor
  · rintro ⟨cs, hcs⟩
    refine ⟨String.ofList cs, ?_⟩
    rw [← String.toList_inj]
    simp [hcs]
  · rintro ⟨rest, rfl⟩
    simp

namespace Options

variable {o : Options} {path : String}

theorem includePath_append {rest : String} (h : path = o.includePrefix ++ rest) :
    o.includePath path = rest := by
  simp [includePath, h]

theorem includePath_of_ne (h : ∀ rest, path ≠ o.includePrefix ++ rest) :
    o.includePath path = path := by
  have hmark : ¬ o.includePrefix.toList.isPrefixOf path.toList = true := by
    rw [isPrefixOf_toList_iff]
    rintro ⟨rest, hrest⟩
    exact h rest hrest
  simp [includePath, hmark]

end Options

theorem Node.rendered_inclusion (o : Options) (path : String) (ignoreMissing wrap : Bool) :
    (Node.inclusion (.literal (.string path)) ignoreMissing).rendered o wrap =
      .ok ("\x7b% include " ++ ((Fragment.quoted (o.includePath path)).render ++
        if ignoreMissing then " ignore missing %\x7d" else " %\x7d")) := by
  have hprinted : (Node.inclusion (.literal (.string path)) ignoreMissing).rendered o wrap =
      .ok (Fragment.inclusion (.quoted (o.includePath path)) ignoreMissing).render := by
    simp [rendered, result_print, refusal?, shortage?, refuse, parts, assemble, hasOwnTag, content]
  rw [hprinted, Except.ok.injEq, ← String.toList_inj]
  cases ignoreMissing <;>
    simp [Fragment.inclusion, render_statement, render_seq, render_text, Piece.render]

/-- Every quoted string is read back with what comes behind it. Escaping undoes unescaping exactly on
the contents that can stand between quotes. For an included template the path is read back, less the
mark of relative paths, which is taken off once where it stands. -/
theorem quoted_strings_read_back :
    (∀ s rest, Text.readString ((Fragment.quoted s).render ++ rest) = some (s, rest)) ∧
      (∀ w, Text.escape (Text.unescape w) = w ↔ Text.IsEscaped w.toList) ∧
      ∀ (o : Options) (path : String) (ignoreMissing wrap : Bool), ∃ text read,
        (Node.inclusion (.literal (.string path)) ignoreMissing).rendered o wrap =
            .ok ("\x7b% include " ++ text) ∧
          Text.readString text =
            some (read, if ignoreMissing then " ignore missing %\x7d" else " %\x7d") ∧
          (∀ rest, path = o.includePrefix ++ rest → read = rest) ∧
          ((∀ rest, path ≠ o.includePrefix ++ rest) → read = path) ∧
          (o.includePrefix = "" → read = path) := by
  refine ⟨Text.readString_quoted, Text.escape_unescape_iff, fun o path ignoreMissing wrap => ?_⟩
  refine ⟨_, o.includePath path, Node.rendered_inclusion o path ignoreMissing wrap,
    Text.readString_quoted _ _, fun rest h => Options.includePath_append h,
    Options.includePath_of_ne, fun h => Options.includePath_append ?_⟩
  simp [h]

/-- Of two marks in a row one is left, and a quote that ends the path does not end the string. -/
theorem included_path_reads_back :
    ∃ text, (Node.includeOf (.string "././a\"")).rendered {} false =
        .ok ("\x7b% include " ++ text) ∧
      Text.readString text = some ("./a\"", " %\x7d") := by
  obtain ⟨text, read, hprinted, hread, hstripped, -, -⟩ :=
    quoted_strings_read_back.2.2 {} "././a\"" false false
  exact ⟨text, hprinted, hstripped "./a\"" rfl ▸ hread⟩

end TwigPrinter
