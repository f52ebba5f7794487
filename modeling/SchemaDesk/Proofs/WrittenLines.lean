import Mathlib.Data.List.Infix
import SchemaDesk.Document.Lines
import SchemaDesk.Proofs.TextForms

/-!
# Texts written line by line

A text in which every carriage return stands directly before a line feed is written line
by line: behind each line but the last stands a line feed, with or without a carriage
return before it, and no line holds a part of a line end. Cut into lines, such a text
gives these lines back, whichever line ends it was written with.
-/

namespace SchemaDesk

/-- A text that holds no part of a line end. -/
structure Line where
  text : Text
  return_not_mem : '\r' ∉ text
  feed_not_mem : '\n' ∉ text

/-- What stands between a line and the next one. -/
inductive LineEnd where
  | feed
  | returnFeed

namespace LineEnd

def text : LineEnd → Text
  | .feed => ['\n']
  | .returnFeed => ['\r', '\n']

end LineEnd

namespace Line

def empty : Line := ⟨[], by simp, by simp⟩

/-- The line with one more character before it. -/
def cons (c : Char) (line : Line) (hreturn : c ≠ '\r') (hfeed : c ≠ '\n') : Line where
  text := c :: line.text
  return_not_mem := by
    simpa [eq_comm (a := '\r')] using And.intro hreturn line.return_not_mem
  feed_not_mem := by
    simpa [eq_comm (a := '\n')] using And.intro hfeed line.feed_not_mem

end Line

namespace Text

/-! ## Cutting at line feeds -/

theorem splitWhere_eq_splitOnP (separates : Char → Bool) (t : Text) :
    splitWhere separates t = t.splitOnP separates := by
  induction t with
  | nil => rfl
  | cons c rest ih =>
      have hparts := List.splitOnP_ne_nil separates rest
      rw [splitWhere, List.splitOnP_cons_eq_if_modifyHead, ih]
      cases heq : rest.splitOnP separates with
      | nil => exact absurd heq hparts
      | cons part parts => rfl

theorem splitLines_of_not_mem {t : Text} (hfeed : '\n' ∉ t) : splitLines t = [t] := by
  rw [splitLines, splitWhere_eq_splitOnP]
  apply List.splitOnP_eq_singleton
  intro c hc
  exact beq_eq_false_iff_ne.mpr (ne_of_mem_of_not_mem hc hfeed)

theorem splitLines_append_feed {line : Text} (hfeed : '\n' ∉ line) (rest : Text) :
    splitLines (line ++ '\n' :: rest) = line :: splitLines rest := by
  rw [splitLines, splitLines, splitWhere_eq_splitOnP, splitWhere_eq_splitOnP]
  apply List.splitOnP_append_cons_of_forall_mem
  · intro c hc
    exact beq_eq_false_iff_ne.mpr (ne_of_mem_of_not_mem hc hfeed)
  · rfl

/-! ## Carriage returns before line feeds -/

theorem unifyLineEnds_append {line : Text} (hreturn : '\r' ∉ line) (rest : Text) :
    unifyLineEnds (line ++ rest) = line ++ unifyLineEnds rest := by
  induction line with
  | nil => rfl
  | cons c line ih =>
      obtain ⟨hc, hline⟩ : '\r' ≠ c ∧ '\r' ∉ line := by simpa using hreturn
      rw [List.cons_append, unifyLineEnds.eq_4 _ _ (by grind) (by grind), ih hline,
        List.cons_append]

theorem dropReturnBeforeFeed_append {line : Text} (hreturn : '\r' ∉ line) (rest : Text) :
    dropReturnBeforeFeed (line ++ rest) = line ++ dropReturnBeforeFeed rest := by
  induction line with
  | nil => rfl
  | cons c line ih =>
      obtain ⟨hc, hline⟩ : '\r' ≠ c ∧ '\r' ∉ line := by simpa using hreturn
      rw [List.cons_append, dropReturnBeforeFeed.eq_3 _ _ (by grind), ih hline, List.cons_append]

/-! ## Lines and line ends -/

/-- Lines, each with the line end behind it, and a last line. -/
def written (ended : List (Line × LineEnd)) (last : Line) : Text :=
  ended.flatMap (fun (line, ending) => line.text ++ ending.text) ++ last.text

theorem written_nil (last : Line) : written [] last = last.text := rfl

theorem written_cons (line : Line) (ending : LineEnd) (rest : List (Line × LineEnd))
    (last : Line) :
    written ((line, ending) :: rest) last = line.text ++ (ending.text ++ written rest last) := by
  simp [written]

/-- Every carriage return stands directly before a line feed. -/
def ReturnsPaired (t : Text) : Prop :=
  ∀ after, '\r' :: after <:+ t → after.head? = some '\n'

instance (t : Text) : Decidable (ReturnsPaired t) :=
  decidable_of_iff
    (∀ part ∈ t.tails, part.head? = some '\r' → part.tail.head? = some '\n') <| by
      simp only [List.mem_tails]
      constructor
      · intro h after hafter
        exact h _ hafter rfl
      · intro h part hpart hhead
        obtain ⟨after, rfl⟩ := List.head?_eq_some_iff.mp hhead
        exact h after hpart

theorem ReturnsPaired.of_cons {c : Char} {t : Text} (h : ReturnsPaired (c :: t)) :
    ReturnsPaired t := by
  intro after hafter
  exact h after (hafter.trans (List.suffix_cons c t))

/-- A text whose carriage returns are paired is written line by line. -/
theorem ReturnsPaired.exists_written {t : Text} (h : ReturnsPaired t) :
    ∃ ended last, t = written ended last := by
  induction t using unifyLineEnds.induct with
  | case1 => exact ⟨[], .empty, rfl⟩
  | case2 rest ih =>
      obtain ⟨ended, last, rfl⟩ := ih h.of_cons.of_cons
      exact ⟨(.empty, .returnFeed) :: ended, last, by simp [written_cons, Line.empty, LineEnd.text]⟩
  | case3 rest hnot ih =>
      -- No line feed follows this carriage return.
      have hhead := h rest List.suffix_rfl
      obtain ⟨after, rfl⟩ := List.head?_eq_some_iff.mp hhead
      exact absurd rfl (hnot after)
  | case4 c rest hother hreturn ih =>
      obtain ⟨ended, last, rfl⟩ := ih h.of_cons
      by_cases hfeed : c = '\n'
      · exact ⟨(.empty, .feed) :: ended, last,
          by simp [written_cons, Line.empty, LineEnd.text, hfeed]⟩
      · -- The character belongs to the first line.
        cases ended with
        | nil => exact ⟨[], last.cons c hreturn hfeed, rfl⟩
        | cons first ended =>
            obtain ⟨line, ending⟩ := first
            exact ⟨(line.cons c hreturn hfeed, ending) :: ended, last,
              by simp [written_cons, Line.cons]⟩

theorem splitLines_unifyLineEnds_written (ended : List (Line × LineEnd)) (last : Line) :
    splitLines (unifyLineEnds (written ended last)) =
      ended.map (·.1.text) ++ [last.text] := by
  induction ended with
  | nil =>
      rw [written_nil, unifyLineEnds_of_not_mem last.return_not_mem,
        splitLines_of_not_mem last.feed_not_mem]
      rfl
  | cons first rest ih =>
      obtain ⟨line, ending⟩ := first
      have hending : unifyLineEnds (ending.text ++ written rest last) =
          '\n' :: unifyLineEnds (written rest last) := by
        cases ending <;> simp [LineEnd.text, unifyLineEnds]
      rw [written_cons, unifyLineEnds_append line.return_not_mem, hending,
        splitLines_append_feed line.feed_not_mem, ih]
      rfl

/-- Dropping the carriage returns leaves the same as unifying the line ends. -/
theorem dropReturnBeforeFeed_written (ended : List (Line × LineEnd)) (last : Line) :
    dropReturnBeforeFeed (written ended last) = unifyLineEnds (written ended last) := by
  induction ended with
  | nil =>
      rw [written_nil, dropReturnBeforeFeed_of_not_mem last.return_not_mem,
        unifyLineEnds_of_not_mem last.return_not_mem]
  | cons first rest ih =>
      obtain ⟨line, ending⟩ := first
      rw [written_cons, dropReturnBeforeFeed_append line.return_not_mem,
        unifyLineEnds_append line.return_not_mem]
      cases ending <;> simp [LineEnd.text, dropReturnBeforeFeed, unifyLineEnds, ih]

/-! ## The same line end throughout -/

/-- Lines with the same line end between all of them. -/
def joined (ending : LineEnd) (lines : List Line) : Text :=
  List.intercalate ending.text (lines.map Line.text)

theorem joined_concat (ending : LineEnd) (lines : List Line) (last : Line) :
    joined ending (lines ++ [last]) = written (lines.map (·, ending)) last := by
  induction lines with
  | nil => simp [joined, written, List.intercalate]
  | cons line lines ih =>
      rw [List.map_cons, written_cons, ← ih]
      cases lines <;> simp [joined, List.intercalate]

end Text

namespace Line

/-- The lines of a document made of these: where there is none, one that is empty. -/
def texts : List Line → List Text
  | [] => [[]]
  | lines => lines.map Line.text

theorem texts_concat (lines : List Line) (last : Line) :
    texts (lines ++ [last]) = lines.map Line.text ++ [last.text] := by
  cases lines <;> simp [texts]

/-- The parts are the lines, each with any line ends behind it. -/
def Listed : List Line → List Text → Prop :=
  List.Forall₂ fun line part =>
    ∃ ends, (∀ c ∈ ends, Document.isLineEnd c = true) ∧ part = line.text ++ ends

end Line

namespace Document

open Text

theorem toLines_written (ended : List (Line × LineEnd)) (last : Line) :
    (Document.text (written ended last)).toLines = ended.map (·.1.text) ++ [last.text] :=
  splitLines_unifyLineEnds_written ended last

theorem toLines_joined (ending : LineEnd) (lines : List Line) :
    (Document.text (joined ending lines)).toLines = Line.texts lines := by
  rcases List.eq_nil_or_concat lines with rfl | ⟨front, last, rfl⟩
  · rfl
  · rw [List.concat_eq_append, joined_concat, toLines_written, Line.texts_concat]
    simp

theorem trimLineEnd_append {line : Line} {ends : Text} (hends : ∀ c ∈ ends, isLineEnd c = true) :
    trimLineEnd (line.text ++ ends) = line.text := by
  apply (rdropWhile_append_of_pos hends).trans
  rw [List.rdropWhile_eq_self_iff]
  intro hne hlast
  have hmem := List.getLast_mem hne
  rw [isLineEnd, Bool.or_eq_true, beq_iff_eq, beq_iff_eq] at hlast
  rcases hlast with hreturn | hfeed
  · exact line.return_not_mem (hreturn ▸ hmem)
  · exact line.feed_not_mem (hfeed ▸ hmem)

theorem toLines_listed {lines : List Line} {parts : List Text} (hparts : Line.Listed lines parts) :
    (Document.lines parts).toLines = Line.texts lines := by
  have htrim : parts.map trimLineEnd = lines.map Line.text := by
    induction hparts with
    | nil => rfl
    | cons hpart _ ih =>
        obtain ⟨ends, hends, rfl⟩ := hpart
        rw [List.map_cons, trimLineEnd_append hends, ih, List.map_cons]
  cases hparts with
  | nil => rfl
  | cons => exact htrim

end Document

end SchemaDesk
