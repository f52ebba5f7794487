import SchemaDesk.Proofs.LineEdges
import SchemaDesk.Proofs.TextRuns

/-!
# Shapes of an unfinished line

A line is at its start while no more than one word was typed on it, and the type of a field is
typed behind an identifier and white space. Lines of both shapes consist of words and white
space alone. No line has both shapes, except for one with a line feed right behind its
identifier: there the line feed either ends the line or is the white space behind the name.
-/

namespace SchemaDesk.Cues

open Text

/-- White space, and behind it at most one word. A final line feed does not count. -/
def LineStart (t : Text) : Prop :=
  ∃ indent word ending, t = indent ++ (word ++ ending) ∧ (∀ c ∈ indent, isBlank c = true) ∧
    (∀ c ∈ word, isWordChar c = true) ∧ (ending = [] ∨ ending = ['\n'])

/-- White space, an identifier, and behind it white space and at most one word. -/
def TypePosition (t : Text) : Prop :=
  ∃ indent name gap start, t = indent ++ (name ++ gap :: start) ∧
    (∀ c ∈ indent, isBlank c = true) ∧ IsIdentifier name ∧ isBlank gap = true ∧ LineStart start

/-! ## Reading the shapes -/

theorem endsThere_iff (rest : Text) : endsThere rest = true ↔ rest = [] ∨ rest = ['\n'] := by
  simp [endsThere]

theorem takeWhile_isBlank_append_stripLeft (t : Text) : t.takeWhile isBlank ++ stripLeft t = t :=
  List.takeWhile_append_dropWhile

section

variable {indent word : Text} (hindent : ∀ c ∈ indent, isBlank c = true) (hne : word ≠ [])
  (hword : ∀ c ∈ word, isWordChar c = true)

include hindent hne hword

theorem stripLeft_append_word (rest : Text) :
    stripLeft (indent ++ (word ++ rest)) = word ++ rest := by
  cases word with
  | nil => exact absurd rfl hne
  | cons c word =>
      have hc : ¬ isBlank c = true := by
        intro hblank
        have hnot := isWordChar_of_isBlank hblank
        rw [hword c List.mem_cons_self] at hnot
        cases hnot
      rw [stripLeft_blank_append hindent, List.cons_append, stripLeft,
        List.dropWhile_cons_of_neg hc]

/-- A line that has a word is at its start exactly if it ends there. -/
theorem isLineStart_append_word {rest : Text} (hrest : StopsWord rest) :
    isLineStart (indent ++ (word ++ rest)) = endsThere rest := by
  have hstop : rest.dropWhile isWordChar = rest := by
    cases rest with
    | nil => rfl
    | cons c rest => exact List.dropWhile_cons_of_neg (by simp [hrest c rfl])
  rw [isLineStart, stripLeft_append_word hindent hne hword,
    List.dropWhile_append_of_pos hword, hstop]

end

theorem isLineStart_iff (t : Text) : isLineStart t = true ↔ LineStart t := by
  constructor
  · intro hstart
    refine ⟨t.takeWhile isBlank, leadingWord (stripLeft t), (stripLeft t).dropWhile isWordChar,
      ?_, fun c => List.mem_takeWhile_imp, fun c => List.mem_takeWhile_imp,
      (endsThere_iff _).mp hstart⟩
    rw [leadingWord, List.takeWhile_append_dropWhile, takeWhile_isBlank_append_stripLeft]
  · rintro ⟨indent, word, ending, rfl, hindent, hword, hending⟩
    by_cases hne : word = []
    · subst hne
      rw [isLineStart, stripLeft_blank_append hindent]
      rcases hending with rfl | rfl <;> rfl
    · have hstop : StopsWord ending := by
        intro c hhead
        rcases hending with rfl | rfl
        · cases hhead
        · cases hhead
          decide
      rw [isLineStart_append_word hindent hne hword hstop]
      exact (endsThere_iff ending).mpr hending

theorem isTypePosition_iff (t : Text) : isTypePosition t = true ↔ TypePosition t := by
  constructor
  · intro htype
    unfold isTypePosition at htype
    split at htype
    next => cases htype
    next c body hbody =>
      obtain ⟨hc, hrest⟩ := Bool.and_eq_true_iff.mp htype
      split at hrest
      next => cases hrest
      next gap start hgap =>
        obtain ⟨hblank, hstart⟩ := Bool.and_eq_true_iff.mp hrest
        refine ⟨t.takeWhile isBlank, c :: leadingWord body, gap, start, ?_,
          fun c => List.mem_takeWhile_imp,
          ⟨c, leadingWord body, rfl, hc, fun c => List.mem_takeWhile_imp⟩, hblank,
          (isLineStart_iff start).mp hstart⟩
        rw [← hgap, leadingWord, List.cons_append, List.takeWhile_append_dropWhile, ← hbody,
          takeWhile_isBlank_append_stripLeft]
  · rintro ⟨indent, name, gap, start, rfl, hindent, hname, hgap, hstart⟩
    have hbody := stripLeft_append_word hindent hname.ne_nil hname.isWordChar (gap :: start)
    obtain ⟨c, rest, rfl, hc, hrest⟩ := hname
    have hafter : (rest ++ gap :: start).dropWhile isWordChar = gap :: start := by
      rw [List.dropWhile_append_of_pos hrest,
        List.dropWhile_cons_of_neg (by simp [isWordChar_of_isBlank hgap])]
    have hends : endsThere ((stripLeft start).dropWhile isWordChar) = true :=
      (isLineStart_iff start).mpr hstart
    rw [List.cons_append] at hbody
    rw [isTypePosition, List.cons_append, hbody]
    simp only [hc, hafter, hgap, hends, Bool.and_self]

/-! ## What the lines consist of -/

theorem LineStart.isBlank_or_isWordChar {t : Text} (h : LineStart t) :
    ∀ c ∈ t, isBlank c = true ∨ isWordChar c = true := by
  obtain ⟨indent, word, ending, rfl, hindent, hword, hending⟩ := h
  intro c hc
  rcases List.mem_append.mp hc with hc | hc
  · exact .inl (hindent c hc)
  rcases List.mem_append.mp hc with hc | hc
  · exact .inr (hword c hc)
  · rcases hending with rfl | rfl
    · cases hc
    · obtain rfl := List.mem_singleton.mp hc
      exact .inl (by decide)

theorem TypePosition.isBlank_or_isWordChar {t : Text} (h : TypePosition t) :
    ∀ c ∈ t, isBlank c = true ∨ isWordChar c = true := by
  obtain ⟨indent, name, gap, start, rfl, hindent, hname, hgap, hstart⟩ := h
  intro c hc
  rcases List.mem_append.mp hc with hc | hc
  · exact .inl (hindent c hc)
  rcases List.mem_append.mp hc with hc | hc
  · exact .inr (hname.isWordChar c hc)
  rcases List.mem_cons.mp hc with rfl | hc
  · exact .inl hgap
  · exact hstart.isBlank_or_isWordChar c hc

/-- A mark is neither a word character nor white space. -/
def IsMark (c : Char) : Prop :=
  isBlank c = false ∧ isWordChar c = false

instance (c : Char) : Decidable (IsMark c) :=
  inferInstanceAs (Decidable (_ ∧ _))

section

variable {t : Text} {c : Char} (hmark : IsMark c)

include hmark

theorem IsMark.not_mem (hall : ∀ d ∈ t, isBlank d = true ∨ isWordChar d = true) : c ∉ t := by
  intro hmem
  rcases hall c hmem with hc | hc
  · exact Bool.eq_false_iff.mp hmark.1 hc
  · exact Bool.eq_false_iff.mp hmark.2 hc

theorem isLineStart_of_mark (hmem : c ∈ t) : isLineStart t = false := by
  apply Bool.eq_false_iff.mpr
  intro hstart
  exact hmark.not_mem ((isLineStart_iff t).mp hstart).isBlank_or_isWordChar hmem

theorem isTypePosition_of_mark (hmem : c ∈ t) : isTypePosition t = false := by
  apply Bool.eq_false_iff.mpr
  intro htype
  exact hmark.not_mem ((isTypePosition_iff t).mp htype).isBlank_or_isWordChar hmem

end

/-- A line has both shapes exactly if it ends in a line feed right behind its identifier. -/
theorem isLineStart_and_isTypePosition_iff (t : Text) :
    isLineStart t = true ∧ isTypePosition t = true ↔
      ∃ indent name, t = indent ++ (name ++ ['\n']) ∧ (∀ c ∈ indent, isBlank c = true) ∧
        IsIdentifier name := by
  have hends {indent name : Text} (hindent : ∀ c ∈ indent, isBlank c = true)
      (hname : IsIdentifier name) {gap : Char} (hgap : isBlank gap = true) (start : Text) :
      isLineStart (indent ++ (name ++ gap :: start)) = endsThere (gap :: start) := by
    refine isLineStart_append_word hindent hname.ne_nil hname.isWordChar ?_
    intro c hhead
    cases hhead
    exact isWordChar_of_isBlank hgap
  rw [isTypePosition_iff]
  constructor
  · rintro ⟨hstart, indent, name, gap, start, rfl, hindent, hname, hgap, -⟩
    rw [hends hindent hname hgap, endsThere_iff] at hstart
    rcases hstart with hnil | hfeed
    · cases hnil
    · exact ⟨indent, name, by rw [hfeed], hindent, hname⟩
  · rintro ⟨indent, name, rfl, hindent, hname⟩
    refine ⟨hends hindent hname (by decide) [], indent, name, '\n', [], rfl, hindent, hname,
      by decide, ?_⟩
    exact (isLineStart_iff []).mp rfl

example : isLineStart "  id\n".toList = true ∧ isTypePosition "  id\n".toList = true := by
  decide

end SchemaDesk.Cues
