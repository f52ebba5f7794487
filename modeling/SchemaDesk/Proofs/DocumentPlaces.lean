import SchemaDesk.Assistant.Excerpt
import SchemaDesk.Hover.Lookup
import SchemaDesk.Proofs.WrittenLines
import SchemaDesk.Suggestion.Request

/-!
# Places in a document of any form

A place is asked for by the number of its line and of its column. Suggestions, the
documentation under the cursor and the excerpt for the assistant find the same place for
the same numbers, whether the document arrives as a text with line feeds, as a text with
carriage returns before them, or already cut into lines.
-/

namespace SchemaDesk

open Text

namespace Position

theorem clamp_of_parts {requested : RequestedPosition} {line column : Int}
    (hparts : requested.parts = (.int line, .int column)) (lines : List Text) :
    clamp lines requested = .ok (clampTo lines line column) := by
  rw [clamp, hparts]
  rfl

end Position

namespace Excerpt

/-- The number that a whole number names is nearest to the same places: zero, which names
the first, is out of range like every other number below one. -/
theorem exists_number_int (n : Int) :
    ∃ i, number (.int n) = .ok i ∧
      ∀ high, Position.nearest 1 high i = Position.nearest 1 high n := by
  by_cases hzero : n = 0
  · refine ⟨1, by rw [hzero]; rfl, ?_⟩
    intro high
    rw [Position.nearest, Position.nearest, hzero]
    omega
  · refine ⟨n, ?_, fun _ => rfl⟩
    have htruthy : (Json.int n).truthy = true := by simpa [Json.truthy] using hzero
    rw [number, Json.orElse, if_pos htruthy]
    rfl

/-- The assistant finds the place that every other service finds. The two differ only where
there is no line at all. -/
theorem placeIn_eq_clampTo {lines : List Text} (hne : lines ≠ []) (line column : Int) :
    placeIn lines line column = Position.clampTo lines line column := by
  have hlines : 1 ≤ (lines.length : Int) := by
    exact_mod_cast List.length_pos_iff.mpr hne
  rw [Position.clampTo, Int.max_eq_right hlines]
  rfl

theorem ofRequest_int (source : Text) (line column : Int) :
    ofRequest source (.int line) (.int column) =
      .ok (atPlace (dropReturnBeforeFeed source).splitLines
        (Position.clampTo (dropReturnBeforeFeed source).splitLines line column)) := by
  have hne : (dropReturnBeforeFeed source).splitLines ≠ [] := splitWhere_ne_nil _ _
  obtain ⟨i, hline, hnearestLine⟩ := exists_number_int line
  obtain ⟨j, hcolumn, hnearestColumn⟩ := exists_number_int column
  rw [ofRequest, hline, hcolumn]
  simp only [bind, Except.bind, pure, Except.pure, placeIn_eq_clampTo hne, Position.clampTo,
    hnearestLine, hnearestColumn]

end Excerpt

/-- Cut at line feeds alone once the returns before them are dropped, joined lines are the
same lines again. -/
theorem splitLines_dropReturnBeforeFeed_joined (ending : LineEnd) (lines : List Line) :
    (dropReturnBeforeFeed (joined ending lines)).splitLines = Line.texts lines := by
  have hsame : dropReturnBeforeFeed (joined ending lines) =
      unifyLineEnds (joined ending lines) := by
    rcases List.eq_nil_or_concat lines with rfl | ⟨front, last, rfl⟩
    · rfl
    · rw [List.concat_eq_append, joined_concat, dropReturnBeforeFeed_written]
  rw [hsame]
  exact Document.toLines_joined ending lines

namespace Document

/-- For the same numbers every service finds the same place in a document, in whichever of
its forms: the nearest one to them in the lines that the document is made of. -/
theorem same_place_in_every_form (lines : List Line) {requested : RequestedPosition}
    {line column : Int} (hrequested : requested.parts = (.int line, .int column))
    (trigger : Option Text) :
    let place := Position.clampTo (Line.texts lines) line column
    let context := CompletionContext.atPlace (Line.texts lines) place trigger
    let items := Completion.answer context (Line.texts lines)
    (∀ ending, Completion.suggest (.text (joined ending lines)) requested trigger = .ok items) ∧
      (∀ parts, Line.Listed lines parts →
        Completion.suggest (.lines parts) requested trigger = .ok items) ∧
      (∀ ending, Hover.card (joined ending lines) requested =
        .ok (Hover.cardAt (Line.texts lines) place)) ∧
      ∀ ending,
        let source := joined ending lines
        CompletionContext.ofRequest (Document.text source).toLines requested trigger =
            .ok context ∧
          ∃ excerpt, Excerpt.ofRequest source (.int line) (.int column) = .ok excerpt ∧
            excerpt.line = context.position.line ∧ excerpt.column = context.position.column ∧
              excerpt.current = context.beforeCursor := by
  intro place context items
  have hcontext : CompletionContext.ofRequest (Line.texts lines) requested trigger =
      .ok context := by
    rw [CompletionContext.ofRequest, Position.clamp_of_parts hrequested]
    rfl
  have hitems {document : Document} (hlines : document.toLines = Line.texts lines) :
      Completion.suggest document requested trigger = .ok items := by
    rw [Completion.suggest, hlines, hcontext]
    rfl
  refine ⟨?_, ?_, ?_, ?_⟩
  · intro ending
    exact hitems (toLines_joined ending lines)
  · intro parts hparts
    exact hitems (toLines_listed hparts)
  · intro ending
    rw [Hover.card, toLines_joined, Position.clamp_of_parts hrequested]
    rfl
  · intro ending source
    rw [toLines_joined]
    refine ⟨hcontext, Excerpt.atPlace (Line.texts lines) place, ?_, rfl, rfl, rfl⟩
    rw [Excerpt.ofRequest_int, splitLines_dropReturnBeforeFeed_joined]

/-- The start of a model, and an empty line behind it. -/
def exampleLines : List Line :=
  [⟨"model User \x7b".toList, by decide, by decide⟩, ⟨"  na".toList, by decide, by decide⟩, .empty]

/-- The same lines as someone else cut them, with some of their line ends. -/
def exampleParts : List Text :=
  ["model User \x7b\r\n".toList, "  na\n".toList, []]

/-- A place far behind the end of the second line. -/
def exampleRequest : RequestedPosition :=
  .other (.arr [.int 2, .int 99])

theorem same_place_behind_line_end :
    exampleRequest.parts = (.int 2, .int 99) ∧ Line.Listed exampleLines exampleParts ∧
      Completion.suggest (.lines exampleParts) exampleRequest none =
        Completion.suggest (.text (joined .returnFeed exampleLines)) exampleRequest none ∧
      ∃ excerpt,
        Excerpt.ofRequest (joined .returnFeed exampleLines) (.int 2) (.int 99) = .ok excerpt ∧
          excerpt.line = 2 ∧ excerpt.column = 5 ∧ excerpt.current = "  na".toList := by
  have hrequest : exampleRequest.parts = (.int 2, .int 99) := rfl
  have hparts : Line.Listed exampleLines exampleParts :=
    .cons ⟨['\r', '\n'], List.all_eq_true.mp rfl, rfl⟩
      (.cons ⟨['\n'], List.all_eq_true.mp rfl, rfl⟩ (.cons ⟨[], List.all_eq_true.mp rfl, rfl⟩ .nil))
  obtain ⟨htext, hlist, -, hplace⟩ := same_place_in_every_form exampleLines hrequest none
  obtain ⟨-, excerpt, hexcerpt, hline, hcolumn, hcurrent⟩ := hplace .returnFeed
  refine ⟨hrequest, hparts, ?_, excerpt, hexcerpt, ?_, ?_, ?_⟩
  · exact (hlist _ hparts).trans (htext .returnFeed).symm
  · exact hline.trans (by decide)
  · exact hcolumn.trans (by decide)
  · exact hcurrent.trans (by decide)

end Document

end SchemaDesk
