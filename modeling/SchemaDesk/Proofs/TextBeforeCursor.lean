import SchemaDesk.Proofs.DocumentPlaces
import SchemaDesk.Proofs.LineFeeds
import SchemaDesk.Proofs.RequestedPlaces
import SchemaDesk.Proofs.TextRuns

/-!
# The text before the cursor

An excerpt is taken at the place of the document that is nearest to the one asked for. Its two
parts, one behind the other, are the whole text before that place, with one exception: on the
second line of a document whose first line is empty the line feed between the two is missing.
-/

namespace SchemaDesk

open Text

namespace Position

/-- The part of a text that ends at a place: it starts where the text does, holds a line feed for
each line above the place, and behind the last of them a character for each column before it. -/
structure EndsPart (place : Position) (source part : Text) : Prop where
  initial : part <+: source
  lines_above : (part.count '\n' : Int) = place.line - 1
  columns_before : ((takeWhileRight (· != '\n') part).length : Int) = place.column - 1

theorem EndsPart.eq_of_prefix {place : Position} {source part other : Text}
    (hpart : EndsPart place source part) (hother : EndsPart place source other)
    (hinitial : part <+: other) : part = other := by
  obtain ⟨extra, rfl⟩ := hinitial
  have hfeed : '\n' ∉ extra := by
    have hcount := hother.lines_above.trans hpart.lines_above.symm
    rw [List.count_append] at hcount
    exact List.count_eq_zero.mp (by omega)
  obtain ⟨front, hrun⟩ := exists_endsInRun (· != '\n') part
  have hlonger : EndsInRun (· != '\n') (part ++ extra) front
      (takeWhileRight (· != '\n') part ++ extra) := by
    refine ⟨by rw [← List.append_assoc, ← hrun.split], ?_, hrun.front_stops⟩
    intro c hc
    rcases List.mem_append.mp hc with hc | hc
    · exact hrun.run_all c hc
    · exact bne_iff_ne.mpr (ne_of_mem_of_not_mem hc hfeed)
  have hlength := hother.columns_before.trans hpart.columns_before.symm
  rw [hlonger.takeWhileRight_eq, List.length_append] at hlength
  have hnil : extra = [] := List.length_eq_zero_iff.mp (by omega)
  rw [hnil, List.append_nil]

/-- One part of a text at most ends at a place. -/
theorem EndsPart.unique {place : Position} {source part other : Text}
    (hpart : EndsPart place source part) (hother : EndsPart place source other) :
    part = other := by
  rcases List.prefix_or_prefix_of_prefix hpart.initial hother.initial with h | h
  · exact hpart.eq_of_prefix hother h
  · exact (hother.eq_of_prefix hpart h).symm

theorem endsPart_withFeeds {above below : List Text} {line : Text}
    (habove : ∀ line ∈ above, '\n' ∉ line) (hline : '\n' ∉ line) {k : Nat} (hk : k ≤ line.length) :
    EndsPart ⟨above.length + 1, k + 1⟩ (joinLines (above ++ line :: below))
      (withFeeds above ++ line.take k) := by
  have hbefore : '\n' ∉ line.take k := fun hfeed => hline (List.mem_of_mem_take hfeed)
  have hrun : EndsInRun (· != '\n') (withFeeds above ++ line.take k) (withFeeds above)
      (line.take k) := by
    refine ⟨rfl, ?_, ?_⟩
    · intro c hc
      exact bne_iff_ne.mpr (ne_of_mem_of_not_mem hc hbefore)
    · intro c hlast
      cases above with
      | nil => cases hlast
      | cons first above =>
          rw [getLast?_withFeeds (List.cons_ne_nil _ _)] at hlast
          simp [← Option.some.inj hlast]
  refine ⟨?_, ?_, ?_⟩
  · rw [joinLines_append above (List.cons_ne_nil _ _)]
    exact (List.prefix_append_right_inj _).mpr
      ((List.take_prefix k line).trans (prefix_joinLines line below))
  · rw [List.count_append, count_feed_withFeeds habove, List.count_eq_zero_of_not_mem hbefore]
    simp
  · rw [hrun.takeWhileRight_eq, List.length_take, Nat.min_eq_left hk]
    simp

/-- A place that exists in the lines lies in one of them, behind some of its characters. -/
theorem exists_eq_append {lines : List Text} {place : Position} (hfirst : 1 ≤ place.line)
    (hlast : place.line ≤ lines.length) (hstart : 1 ≤ place.column)
    (hend : place.column ≤ (lineText lines place.line).length + 1) :
    ∃ (above : List Text) (line : Text) (below : List Text) (k : Nat),
      lines = above ++ line :: below ∧ k ≤ line.length ∧
        place = ⟨above.length + 1, k + 1⟩ := by
  have hn : (place.line - 1).toNat < lines.length := by omega
  rw [lineText, List.getD_eq_getElem?_getD, List.getElem?_eq_getElem hn, Option.getD_some] at hend
  refine ⟨lines.take (place.line - 1).toNat, lines[(place.line - 1).toNat],
    lines.drop ((place.line - 1).toNat + 1), (place.column - 1).toNat, ?_, by omega, ?_⟩
  · rw [← List.drop_eq_getElem_cons hn, List.take_append_drop]
  · obtain ⟨line, column⟩ := place
    dsimp only at hfirst hstart hn ⊢
    rw [List.length_take, Nat.min_eq_left (Nat.le_of_lt hn), mk.injEq]
    omega

end Position

namespace Excerpt

/-- A single empty line above another one leaves nothing; all other lines are kept whole, with
their line feeds. -/
theorem leading_eq (lines : List Text) :
    leading lines = if lines = [[]] then [] else withFeeds lines := by
  by_cases hnil : lines = []
  · rw [hnil]
    rfl
  · have hempty : (joinLines lines).isEmpty = true ↔ lines = [[]] := by
      simp [List.isEmpty_iff, joinLines_eq_nil_iff, hnil]
    simp only [leading, hempty, withFeeds_eq hnil]

/-- The first of two lines is empty exactly if the text starts with a line feed. -/
theorem above_eq_iff {above below : List Text} {line : Text}
    (habove : ∀ line ∈ above, '\n' ∉ line) :
    above = [[]] ↔
      (joinLines (above ++ line :: below)).head? = some '\n' ∧ (above.length : Int) + 1 = 2 := by
  constructor
  · rintro rfl
    simp [joinLines_cons_cons]
  · rintro ⟨hhead, hlength⟩
    obtain ⟨first, rfl⟩ := List.length_eq_one_iff.mp (show above.length = 1 by omega)
    rw [List.singleton_append, joinLines_cons_cons] at hhead
    cases first with
    | nil => rfl
    | cons c rest =>
        obtain rfl : c = '\n' := Option.some.inj hhead
        exact absurd List.mem_cons_self (habove _ List.mem_cons_self)

section

variable {above below : List Text} {line : Text} {k : Nat}

theorem atPlace_append :
    atPlace (above ++ line :: below) ⟨above.length + 1, k + 1⟩ =
      { before := leading above, current := line.take k, line := above.length + 1
        column := k + 1 } := by
  simp [atPlace, Position.before, Position.lineText]

variable (habove : ∀ line ∈ above, '\n' ∉ line) (hline : '\n' ∉ line) (hk : k ≤ line.length)

include habove hline hk

theorem endsPart_cons_leading (hempty : above = [[]]) :
    Position.EndsPart ⟨above.length + 1, k + 1⟩ (joinLines (above ++ line :: below))
      ('\n' :: (leading above ++ line.take k)) := by
  have hwhole : Position.EndsPart _ (joinLines (above ++ line :: below)) _ :=
    Position.endsPart_withFeeds habove hline hk
  subst hempty
  exact hwhole

theorem endsPart_leading_iff :
    Position.EndsPart ⟨above.length + 1, k + 1⟩ (joinLines (above ++ line :: below))
      (leading above ++ line.take k) ↔ above ≠ [[]] := by
  constructor
  · intro hends hempty
    have hsame := hends.unique (endsPart_cons_leading habove hline hk hempty)
    exact absurd hsame.symm (List.cons_ne_self _ _)
  · intro hne
    rw [leading_eq, if_neg hne]
    exact Position.endsPart_withFeeds habove hline hk

end

/-- The two parts of the excerpt, one behind the other, are the whole text before its place. -/
def IsWhole (excerpt : Excerpt) (source : Text) : Prop :=
  Position.EndsPart ⟨excerpt.line, excerpt.column⟩ source (excerpt.before ++ excerpt.current)

/-- The excerpt of a request is taken at the nearest existing place. It is the whole text before
that place, except on the second line of a document whose first line is empty: there it lacks
exactly the line feed between the two. -/
theorem whole_iff_not_below_blank (source : Text) (line column : Int) :
    let text := dropReturnBeforeFeed source
    let lines := text.splitLines
    ∃ excerpt, ofRequest source (.int line) (.int column) = .ok excerpt ∧
      Position.StandsFor (.int line) lines.length excerpt.line ∧
      Position.StandsFor (.int column)
        ((Position.lineText lines excerpt.line).length + 1) excerpt.column ∧
      (excerpt.IsWhole text ↔ ¬(text.head? = some '\n' ∧ excerpt.line = 2)) ∧
      (text.head? = some '\n' ∧ excerpt.line = 2 →
        Position.EndsPart ⟨excerpt.line, excerpt.column⟩ text
          ('\n' :: (excerpt.before ++ excerpt.current))) := by
  intro text lines
  have hne : lines ≠ [] := splitWhere_ne_nil _ text
  obtain ⟨hline, hcolumn⟩ :=
    Position.standsFor_clampTo hne (Position.part_int line) (Position.part_int column)
  obtain ⟨above, found, below, k, hlines, hk, hplace⟩ :=
    Position.exists_eq_append hline.one_le hline.le_last hcolumn.one_le hcolumn.le_last
  have hfeeds : ∀ line ∈ above ++ found :: below, '\n' ∉ line := by
    rw [← hlines]
    exact fun line hline => feed_not_mem_of_mem_splitLines hline
  obtain ⟨habove, hfound⟩ := List.forall_mem_append.mp hfeeds
  have htext : text = joinLines (above ++ found :: below) := by
    rw [← hlines, joinLines_splitLines]
  refine ⟨atPlace lines (Position.clampTo lines line column), ofRequest_int source line column,
    hline, hcolumn, ?_⟩
  rw [IsWhole, hplace, hlines, atPlace_append, htext, ← above_eq_iff habove]
  exact ⟨endsPart_leading_iff habove (hfound found List.mem_cons_self) hk,
    endsPart_cons_leading habove (hfound found List.mem_cons_self) hk⟩

/-- A document whose first line is empty. -/
def blankStartText : Text :=
  "\nmodel A \x7b".toList

/-- At the start of its second line the text before the cursor is a line feed, and the excerpt
has nothing. -/
theorem not_whole_below_blank :
    ∃ excerpt, ofRequest blankStartText (.int 2) (.int 1) = .ok excerpt ∧
      excerpt.line = 2 ∧ excerpt.column = 1 ∧
      Position.EndsPart ⟨2, 1⟩ (dropReturnBeforeFeed blankStartText) ['\n'] ∧
      excerpt.before ++ excerpt.current = [] ∧
      ¬excerpt.IsWhole (dropReturnBeforeFeed blankStartText) := by
  refine ⟨⟨[], [], 2, 1⟩, by decide, rfl, rfl, ⟨by decide, by decide, by decide⟩, rfl, ?_⟩
  intro hwhole
  exact absurd hwhole.lines_above (by decide)

end Excerpt

end SchemaDesk
