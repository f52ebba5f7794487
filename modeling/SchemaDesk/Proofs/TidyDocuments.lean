import SchemaDesk.Proofs.LineFeeds
import SchemaDesk.Proofs.LocalFormatting

/-!
# Tidy documents

The local pass leaves a document alone exactly if each of its lines is tidy: no white space
stands at its end, a field is indented by two, and a block header and a closing brace are not
indented. Every line that the pass puts out is tidy, so a second pass changes nothing,
whatever line ends and stray carriage returns the document has.
-/

namespace SchemaDesk

open Text

namespace LocalPass

/-! ## Words at the start of a line -/

theorem startsWithWord_iff {words : List Text} {t : Text} :
    startsWithWord words t = true ↔
      ∃ word ∈ words, ∃ gap rest, isBlank gap = true ∧ t = word ++ gap :: rest := by
  rw [startsWithWord, List.any_eq_true]
  refine exists_congr fun word => and_congr_right fun _ => ?_
  rw [Bool.and_eq_true, List.isPrefixOf_iff_prefix, Option.any_eq_true]
  constructor
  · rintro ⟨⟨after, rfl⟩, gap, hhead, hgap⟩
    rw [List.drop_left] at hhead
    obtain ⟨rest, rfl⟩ := List.head?_eq_some_iff.mp hhead
    exact ⟨gap, rest, hgap, rfl⟩
  · rintro ⟨gap, rest, hgap, rfl⟩
    exact ⟨List.prefix_append _ _, gap, by simp, hgap⟩

/-- No line is a field and a block header. -/
theorem not_field_of_header {t : Text} (hheader : startsWithWord blockWords t = true) :
    startsWithWord fieldWords t = false := by
  have hapart : ∀ field ∈ fieldWords, ∀ header ∈ blockWords,
      field.isPrefixOf header = false ∧ header.isPrefixOf field = false := by
    decide
  rw [Bool.eq_false_iff]
  intro hfield
  obtain ⟨header, hheader, gap, rest, -, hsplit⟩ := startsWithWord_iff.mp hheader
  obtain ⟨field, hfield, gap', rest', -, hsplit'⟩ := startsWithWord_iff.mp hfield
  obtain ⟨hbefore, hbehind⟩ := hapart field hfield header hheader
  rcases List.prefix_or_prefix_of_prefix ⟨_, hsplit'.symm⟩ ⟨_, hsplit.symm⟩ with h | h
  · rw [List.isPrefixOf_iff_prefix.mpr h] at hbefore
    cases hbefore
  · rw [List.isPrefixOf_iff_prefix.mpr h] at hbehind
    cases hbehind

/-! ## One line -/

/-- A line that needs no formatting. -/
structure Tidy (line : Text) : Prop where
  no_blank_end : ∀ c, line.getLast? = some c → isBlank c = false
  field_indented : startsWithWord fieldWords (strip line) = true → line = ' ' :: ' ' :: strip line
  header_flush : startsWithWord blockWords (strip line) = true → line = strip line
  closing_flush : strip line = ['}'] → line = strip line

section

variable {line : Text}

theorem formatLine_of_field (hfield : startsWithWord fieldWords (strip line) = true) :
    formatLine line = ' ' :: ' ' :: strip line := by
  simp only [formatLine, strip_stripRight, if_pos hfield]

theorem formatLine_of_header (hheader : startsWithWord blockWords (strip line) = true) :
    formatLine line = strip line := by
  simp only [formatLine, strip_stripRight, not_field_of_header hheader, if_pos hheader,
    Bool.false_eq_true, if_false]

theorem formatLine_of_closing (hclosing : strip line = ['}']) :
    formatLine line = strip line := by
  have hwords : startsWithWord fieldWords ['}'] = false ∧
      startsWithWord blockWords ['}'] = false := by
    decide
  simp only [formatLine, strip_stripRight, hclosing, hwords.1, hwords.2, Bool.false_eq_true,
    if_false, beq_self_eq_true, if_true]

theorem formatLine_of_other (hfield : startsWithWord fieldWords (strip line) = false)
    (hheader : startsWithWord blockWords (strip line) = false) (hclosing : strip line ≠ ['}']) :
    formatLine line = stripRight line := by
  simp only [formatLine, strip_stripRight, hfield, hheader, beq_eq_false_iff_ne.mpr hclosing,
    Bool.false_eq_true, if_false]

end

theorem stripRight_eq_self_iff {t : Text} :
    stripRight t = t ↔ ∀ c, t.getLast? = some c → isBlank c = false := by
  have hself : stripRight t = t ↔ ∀ hne : t ≠ [], ¬isBlank (t.getLast hne) = true :=
    List.rdropWhile_eq_self_iff
  rw [hself]
  constructor
  · intro hend c hlast
    have hne : t ≠ [] := by
      rintro rfl
      cases hlast
    rw [List.getLast?_eq_some_getLast hne] at hlast
    simpa [← Option.some.inj hlast] using hend hne
  · intro hend hne
    simp [hend _ (List.getLast?_eq_some_getLast hne)]

theorem not_isBlank_of_getLast?_stripRight {t : Text} {c : Char}
    (hlast : (stripRight t).getLast? = some c) : isBlank c = false :=
  stripRight_eq_self_iff.mp (List.rdropWhile_idempotent isBlank t) c hlast

theorem not_isBlank_of_getLast?_formatLine {line : Text} {c : Char}
    (hlast : (formatLine line).getLast? = some c) : isBlank c = false := by
  by_cases hfield : startsWithWord fieldWords (strip line) = true
  · -- A field is not empty, so the line ends where its trimmed text does.
    have hne : strip line ≠ [] := by
      intro hnil
      rw [hnil] at hfield
      cases hfield
    rw [formatLine_of_field hfield] at hlast
    have hend : ([' ', ' '] ++ strip line).getLast? = (strip line).getLast? :=
      List.getLast?_append_of_ne_nil _ hne
    exact not_isBlank_of_getLast?_stripRight (hend.symm.trans hlast)
  by_cases hheader : startsWithWord blockWords (strip line) = true
  · rw [formatLine_of_header hheader] at hlast
    exact not_isBlank_of_getLast?_stripRight hlast
  by_cases hclosing : strip line = ['}']
  · rw [formatLine_of_closing hclosing] at hlast
    exact not_isBlank_of_getLast?_stripRight hlast
  rw [formatLine_of_other (by simpa using hfield) (by simpa using hheader) hclosing] at hlast
  exact not_isBlank_of_getLast?_stripRight hlast

/-- A carriage return is white space, so no formatted line ends in one. -/
theorem formatLine_not_ends_return (line : Text) : (formatLine line).getLast? ≠ some '\r' := by
  intro hlast
  have hblank := not_isBlank_of_getLast?_formatLine hlast
  cases hblank

theorem tidy_formatLine (line : Text) : Tidy (formatLine line) := by
  refine ⟨?_, ?_, ?_, ?_⟩
  · exact fun c hlast => not_isBlank_of_getLast?_formatLine hlast
  · intro hfield
    rw [strip_formatLine] at hfield ⊢
    exact formatLine_of_field hfield
  · intro hheader
    rw [strip_formatLine] at hheader ⊢
    exact formatLine_of_header hheader
  · intro hclosing
    rw [strip_formatLine] at hclosing ⊢
    exact formatLine_of_closing hclosing

theorem formatLine_of_tidy {line : Text} (htidy : Tidy line) : formatLine line = line := by
  by_cases hfield : startsWithWord fieldWords (strip line) = true
  · rw [formatLine_of_field hfield, ← htidy.field_indented hfield]
  by_cases hheader : startsWithWord blockWords (strip line) = true
  · rw [formatLine_of_header hheader, ← htidy.header_flush hheader]
  by_cases hclosing : strip line = ['}']
  · rw [formatLine_of_closing hclosing, ← htidy.closing_flush hclosing]
  rw [formatLine_of_other (by simpa using hfield) (by simpa using hheader) hclosing]
  exact stripRight_eq_self_iff.mpr htidy.no_blank_end

/-! ## A document -/

/-- A line up to its line feed that needs no formatting: a carriage return may end it. -/
def TidyPart (part : Text) : Prop :=
  if part.getLast? = some '\r' then Tidy part.dropLast else Tidy part

theorem formatPart_of_tidy {part : Text} (htidy : TidyPart part) : formatPart part = part := by
  unfold TidyPart at htidy
  unfold formatPart
  split at htidy
  next hreturn =>
    obtain ⟨front, rfl⟩ := List.getLast?_eq_some_iff.mp hreturn
    rw [List.dropLast_concat] at htidy ⊢
    rw [if_pos hreturn, formatLine_of_tidy htidy]
  next hreturn => rw [if_neg hreturn, formatLine_of_tidy htidy]

theorem tidyPart_formatPart (part : Text) : TidyPart (formatPart part) := by
  unfold TidyPart formatPart
  split
  next => simpa using tidy_formatLine part.dropLast
  next =>
    rw [if_neg (formatLine_not_ends_return part)]
    exact tidy_formatLine part

theorem feed_not_mem_formatPart {part : Text} (hfeed : '\n' ∉ part) : '\n' ∉ formatPart part := by
  have hline {line : Text} (hline : '\n' ∉ line) : '\n' ∉ formatLine line := by
    intro hmem
    have hsource := formatLine_subset line hmem
    simp [hline] at hsource
  unfold formatPart
  split
  next =>
    rw [List.mem_append, not_or]
    exact ⟨hline fun hmem => hfeed (List.dropLast_subset _ hmem), by decide⟩
  next => exact hline hfeed

/-- The pass neither cuts nor joins lines. -/
theorem splitLines_format (t : Text) : splitLines (format t) = (splitLines t).map formatPart := by
  apply splitLines_joinLines
  · intro line hline
    obtain ⟨part, hpart, rfl⟩ := List.mem_map.mp hline
    exact feed_not_mem_formatPart (feed_not_mem_of_mem_splitLines hpart)
  · rw [Ne, List.map_eq_nil_iff]
    exact splitWhere_ne_nil _ t

theorem tidyPart_of_mem_splitLines_format {t part : Text}
    (hpart : part ∈ splitLines (format t)) : TidyPart part := by
  rw [splitLines_format] at hpart
  obtain ⟨source, -, rfl⟩ := List.mem_map.mp hpart
  exact tidyPart_formatPart source

/-- The pass leaves a document alone exactly if all of its lines are tidy. -/
theorem format_eq_self_iff (t : Text) :
    format t = t ↔ ∀ part ∈ splitLines t, TidyPart part := by
  constructor
  · intro hself part hpart
    rw [← hself] at hpart
    exact tidyPart_of_mem_splitLines_format hpart
  · intro htidy
    have hparts : (splitLines t).map formatPart = splitLines t :=
      (List.map_congr_left fun part hpart => formatPart_of_tidy (htidy part hpart)).trans
        (List.map_id _)
    rw [format, hparts, joinLines_splitLines]

/-- Formatting a formatted document changes nothing. -/
theorem format_format (t : Text) : format (format t) = format t := by
  rw [format_eq_self_iff]
  intro part hpart
  exact tidyPart_of_mem_splitLines_format hpart

end LocalPass

end SchemaDesk
