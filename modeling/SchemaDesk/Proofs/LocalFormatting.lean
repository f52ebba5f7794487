import SchemaDesk.Formatting.LocalPass
import SchemaDesk.Proofs.LineEdges
import SchemaDesk.Proofs.WrittenLines

/-!
# What the local pass leaves alone

The local pass changes white space at the edges of lines and nothing else: it neither
joins nor cuts lines, and every line trimmed is what it was. Whatever is read from the
trimmed lines of a document, its blocks and the types it declares, is therefore read from
the formatted document too.
-/

namespace SchemaDesk

open Text

namespace LocalPass

/-! ## One line -/

theorem formatLine_cases (line : Text) :
    formatLine line = ' ' :: ' ' :: strip line ∨ formatLine line = strip line ∨
      formatLine line = stripRight line := by
  simp only [formatLine, strip_stripRight]
  split
  next => exact .inl rfl
  next =>
    split
    next => exact .inr (.inl rfl)
    next =>
      split
      next hclosing => exact .inr (.inl (beq_iff_eq.mp hclosing).symm)
      next => exact .inr (.inr rfl)

theorem strip_formatLine (line : Text) : strip (formatLine line) = strip line := by
  rcases formatLine_cases line with h | h | h
  · have hblanks : ∀ c ∈ [' ', ' '], isBlank c = true := List.all_eq_true.mp rfl
    have hindent : stripLeft (' ' :: ' ' :: strip line) = stripLeft (strip line) :=
      stripLeft_blank_append hblanks _
    rw [h, strip, hindent, ← strip, strip_strip]
  · rw [h, strip_strip]
  · rw [h, strip_stripRight]

theorem formatLine_subset (line : Text) : formatLine line ⊆ ' ' :: line := by
  have hstrip : strip line ⊆ ' ' :: line := List.subset_cons_of_subset _ (strip_subset line)
  rcases formatLine_cases line with h | h | h
  · rw [h]
    simp [hstrip]
  · rw [h]
    exact hstrip
  · rw [h]
    exact List.subset_cons_of_subset _ (List.rdropWhile_prefix isBlank line).subset

end LocalPass

/-- The line after the pass. -/
def Line.formatted (line : Line) : Line where
  text := LocalPass.formatLine line.text
  return_not_mem := by
    intro hmem
    have hsource := LocalPass.formatLine_subset line.text hmem
    simp [line.return_not_mem] at hsource
  feed_not_mem := by
    intro hmem
    have hsource := LocalPass.formatLine_subset line.text hmem
    simp [line.feed_not_mem] at hsource

namespace LocalPass

/-! ## A document -/

theorem formatPart_text (line : Line) : formatPart line.text = line.formatted.text := by
  apply if_neg
  intro hlast
  exact line.return_not_mem (List.mem_of_getLast? hlast)

theorem formatPart_return (line : Line) :
    formatPart (line.text ++ ['\r']) = line.formatted.text ++ ['\r'] := by
  simp [formatPart, Line.formatted]

theorem format_append_feed {part : Text} (hfeed : '\n' ∉ part) (rest : Text) :
    format (part ++ '\n' :: rest) = formatPart part ++ '\n' :: format rest := by
  rw [format, format, splitLines_append_feed hfeed, List.map_cons]
  cases hparts : splitLines rest with
  | nil => exact absurd hparts (splitWhere_ne_nil _ rest)
  | cons next parts => exact joinLines_cons_cons _ _ _

/-- A text written line by line is formatted line by line, and keeps its line ends. -/
theorem format_written (ended : List (Line × LineEnd)) (last : Line) :
    format (written ended last) =
      written (ended.map fun (line, ending) => (line.formatted, ending)) last.formatted := by
  induction ended with
  | nil =>
      rw [written_nil, format, splitLines_of_not_mem last.feed_not_mem, List.map_singleton,
        formatPart_text]
      simp [joinLines, List.intercalate, written_nil]
  | cons first rest ih =>
      obtain ⟨line, ending⟩ := first
      rw [List.map_cons, written_cons, written_cons, ← ih]
      cases ending with
      | feed =>
          rw [LineEnd.text, List.singleton_append, List.singleton_append,
            format_append_feed line.feed_not_mem, formatPart_text]
      | returnFeed =>
          have hfeed : '\n' ∉ line.text ++ ['\r'] := by simp [line.feed_not_mem]
          have hformat := format_append_feed hfeed (written rest last)
          rw [formatPart_return] at hformat
          simpa [LineEnd.text] using hformat

theorem map_strip_toLines_format {t : Text} (hreturns : ReturnsPaired t) :
    (Document.text (format t)).toLines.map strip = (Document.text t).toLines.map strip := by
  obtain ⟨ended, last, rfl⟩ := hreturns.exists_written
  rw [format_written, Document.toLines_written, Document.toLines_written]
  simp [Line.formatted, strip_formatLine]

/-- A document that was formatted line by line has as many lines as before, declares the same
types, and around each of its lines are the same blocks. -/
theorem format_keeps_structure {t : Text} (hreturns : ReturnsPaired t) :
    let lines := (Document.text t).toLines
    let formatted := (Document.text (format t)).toLines
    formatted.length = lines.length ∧
      Completion.declaredNames formatted = Completion.declaredNames lines ∧
      ∀ i (hi : i < lines.length) (hi' : i < formatted.length),
        BlockScope.around (formatted.take i) formatted[i] =
          BlockScope.around (lines.take i) lines[i] := by
  intro lines formatted
  have hstrip : formatted.map strip = lines.map strip := map_strip_toLines_format hreturns
  refine ⟨?_, ?_, ?_⟩
  · simpa using congrArg List.length hstrip
  · exact Completion.declaredNames_congr hstrip
  · intro i hi hi'
    exact BlockScope.around_congr hstrip i hi' hi

/-- Lines with white space at their edges and with both kinds of line ends. -/
def exampleText : Text :=
  "  model User \x7b\r\n\tid Int  \n \x7d \r\n\r\nenum Role \x7b\n".toList

theorem format_keeps_structure_mixed_ends :
    ReturnsPaired exampleText ∧
      (Document.text (format exampleText)).toLines.length = 6 ∧
      Completion.declaredNames (Document.text (format exampleText)).toLines =
        ["User".toList, "Role".toList] := by
  have hreturns : ReturnsPaired exampleText := by decide
  obtain ⟨hlength, hnames, -⟩ := format_keeps_structure hreturns
  exact ⟨hreturns, hlength.trans (by decide), hnames.trans (by decide)⟩

end LocalPass

end SchemaDesk
