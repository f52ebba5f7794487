import SchemaDesk.Proofs.NormalSections
import SchemaDesk.Suggestion.Request

/-!
# Places that requests stand for

A request may name any place at all, by values of any kind. What is no number counts as one,
and a number that no line or column has as the nearest one that exists, so that nearly every
request stands for a place of the document. The exception are values beyond all numbers: no
place is nearest to them, and a request that names one is not answered.
-/

namespace SchemaDesk

/-- The request names a line or a column beyond all numbers. -/
def RequestedPosition.IsEndless (requested : RequestedPosition) : Prop :=
  requested.parts.1.IsInfinite ∨ requested.parts.2.IsInfinite

theorem Document.toLines_ne_nil (document : Document) : document.toLines ≠ [] := by
  cases document with
  | absent => exact List.cons_ne_nil _ _
  | text t => exact Text.splitWhere_ne_nil _ _
  | lines parts =>
      cases parts with
      | nil => exact List.cons_ne_nil _ _
      | cons part parts => exact List.cons_ne_nil _ _

namespace Position

/-! ## One part of a place -/

theorem part_of_toWhole {value : Json} {i : Int} (hwhole : value.toWhole = .ok i) :
    part value = .ok i := by
  rw [part, hwhole]

theorem part_int (i : Int) : part (.int i) = .ok i :=
  part_of_toWhole rfl

theorem part_of_error {value : Json} (hfinite : ¬value.IsInfinite) {e : ConversionError}
    (herror : value.toWhole = .error e) : part value = .ok 1 := by
  have hrange := Json.outOfRange_of_toWhole hfinite herror
  rw [part, herror]
  exact if_neg (by simp [hrange])

theorem exists_part_iff (value : Json) : (∃ i, part value = .ok i) ↔ ¬value.IsInfinite := by
  constructor
  · rintro ⟨i, hpart⟩ ⟨negative, rfl⟩
    cases hpart
  · intro hfinite
    cases hwhole : value.toWhole with
    | ok i => exact ⟨i, part_of_toWhole hwhole⟩
    | error e => exact ⟨1, part_of_error hfinite hwhole⟩

/-- Of the whole numbers from one to a last one, `place` is the one that a value stands for:
the number itself if it is among them, the nearest one if it is not, and one for a value that
is no number. -/
structure StandsFor (value : Json) (last place : Int) : Prop where
  one_le : 1 ≤ place
  le_last : place ≤ last
  within : ∀ i, value.toWhole = .ok i → 1 ≤ i → i ≤ last → place = i
  below : ∀ i, value.toWhole = .ok i → i < 1 → place = 1
  above : ∀ i, value.toWhole = .ok i → last < i → place = last
  no_number : ∀ e, value.toWhole = .error e → place = 1

theorem standsFor_nearest {value : Json} {i : Int} (hpart : part value = .ok i) {last : Int}
    (hlast : 1 ≤ last) : StandsFor value last (nearest 1 last i) := by
  have hwhole {j : Int} (hj : value.toWhole = .ok j) : i = j := by
    rw [part_of_toWhole hj] at hpart
    exact (Except.ok.inj hpart).symm
  unfold nearest
  refine ⟨by omega, by omega, ?_, ?_, ?_, ?_⟩
  · intro j hj hlow hhigh
    have := hwhole hj
    omega
  · intro j hj hlow
    have := hwhole hj
    omega
  · intro j hj hhigh
    have := hwhole hj
    omega
  · intro e he
    have hfinite := (exists_part_iff value).mp ⟨i, hpart⟩
    rw [part_of_error hfinite he] at hpart
    have := Except.ok.inj hpart
    omega

/-! ## Places -/

theorem clamp_of_part {requested : RequestedPosition} {line column : Int}
    (hline : part requested.parts.1 = .ok line) (hcolumn : part requested.parts.2 = .ok column)
    (lines : List Text) : clamp lines requested = .ok (clampTo lines line column) := by
  have hclamp : clamp lines requested = do
      let line ← part requested.parts.1
      let column ← part requested.parts.2
      return clampTo lines line column := rfl
  rw [hclamp, hline, hcolumn]
  rfl

theorem clamp_eq_ok {lines : List Text} {requested : RequestedPosition} {position : Position}
    (hclamp : clamp lines requested = .ok position) :
    ∃ line column, part requested.parts.1 = .ok line ∧ part requested.parts.2 = .ok column ∧
      position = clampTo lines line column := by
  obtain ⟨line, hline, hrest⟩ := bind_eq_ok hclamp
  obtain ⟨column, hcolumn, hplace⟩ := bind_eq_ok hrest
  exact ⟨line, column, hline, hcolumn, (Except.ok.inj hplace).symm⟩

theorem exists_clamp_iff (lines : List Text) (requested : RequestedPosition) :
    (∃ position, clamp lines requested = .ok position) ↔ ¬requested.IsEndless := by
  rw [RequestedPosition.IsEndless, not_or, ← exists_part_iff, ← exists_part_iff]
  constructor
  · rintro ⟨position, hclamp⟩
    obtain ⟨line, column, hline, hcolumn, -⟩ := clamp_eq_ok hclamp
    exact ⟨⟨line, hline⟩, column, hcolumn⟩
  · rintro ⟨⟨line, hline⟩, column, hcolumn⟩
    exact ⟨_, clamp_of_part hline hcolumn lines⟩

theorem standsFor_clampTo {lines : List Text} (hne : lines ≠ []) {lineValue columnValue : Json}
    {line column : Int} (hline : part lineValue = .ok line)
    (hcolumn : part columnValue = .ok column) :
    StandsFor lineValue lines.length (clampTo lines line column).line ∧
      StandsFor columnValue ((lineText lines (clampTo lines line column).line).length + 1)
        (clampTo lines line column).column := by
  have hlines : 0 < lines.length := List.length_pos_iff.mpr hne
  have hlast : max 1 (lines.length : Int) = lines.length := by omega
  refine ⟨?_, standsFor_nearest hcolumn (by omega)⟩
  simp only [clampTo, hlast]
  exact standsFor_nearest hline (by omega)

/-- The place of a request is the line, and then the column of that line, that its parts stand
for. -/
theorem standsFor_of_clamp {document : Document} {requested : RequestedPosition}
    {position : Position} (hclamp : clamp document.toLines requested = .ok position) :
    StandsFor requested.parts.1 document.toLines.length position.line ∧
      StandsFor requested.parts.2 ((lineText document.toLines position.line).length + 1)
        position.column := by
  obtain ⟨line, column, hline, hcolumn, rfl⟩ := clamp_eq_ok hclamp
  exact standsFor_clampTo document.toLines_ne_nil hline hcolumn

/-- What stands before the place of a request is as long as its column says. -/
theorem length_before {document : Document} {requested : RequestedPosition}
    {position : Position} (hclamp : clamp document.toLines requested = .ok position) :
    ((position.before document.toLines).length : Int) = position.column - 1 := by
  obtain ⟨-, hcolumn⟩ := standsFor_of_clamp hclamp
  have hlow := hcolumn.one_le
  have hhigh := hcolumn.le_last
  rw [before, List.length_take]
  omega

end Position

namespace CompletionContext

variable {lines : List Text} {requested : RequestedPosition} {trigger : Option Text}

theorem ofRequest_of_clamp {position : Position}
    (hclamp : Position.clamp lines requested = .ok position) (trigger : Option Text) :
    ofRequest lines requested trigger = .ok (.atPlace lines position trigger) := by
  rw [ofRequest, hclamp]
  rfl

theorem ofRequest_eq_ok {context : CompletionContext}
    (hcontext : ofRequest lines requested trigger = .ok context) :
    ∃ position, Position.clamp lines requested = .ok position ∧
      context = .atPlace lines position trigger := by
  obtain ⟨position, hclamp, hplace⟩ := bind_eq_ok hcontext
  exact ⟨position, hclamp, (Except.ok.inj hplace).symm⟩

end CompletionContext

namespace Completion

theorem suggest_of_clamp {document : Document} {requested : RequestedPosition}
    {position : Position} (hclamp : Position.clamp document.toLines requested = .ok position)
    (trigger : Option Text) :
    suggest document requested trigger =
      .ok (answer (.atPlace document.toLines position trigger) document.toLines) := by
  rw [suggest, CompletionContext.ofRequest_of_clamp hclamp]
  rfl

/-- An answered request has a place. -/
theorem exists_clamp_of_suggest {document : Document} {requested : RequestedPosition}
    {trigger : Option Text} {items : List Suggestion}
    (hitems : suggest document requested trigger = .ok items) :
    ∃ position, Position.clamp document.toLines requested = .ok position := by
  obtain ⟨context, hcontext, -⟩ := bind_eq_ok hitems
  obtain ⟨position, hclamp, -⟩ := CompletionContext.ofRequest_eq_ok hcontext
  exact ⟨position, hclamp⟩

/-- A request stands for a place of the document, and is answered, exactly if it names nothing
beyond all numbers; the place is the line and then the column of that line that its parts
stand for. -/
theorem place_found_iff_finite (document : Document) (requested : RequestedPosition)
    (trigger : Option Text) :
    let lines := document.toLines
    ((∃ position, Position.clamp lines requested = .ok position) ↔ ¬requested.IsEndless) ∧
      ((∃ items, suggest document requested trigger = .ok items) ↔ ¬requested.IsEndless) ∧
        ∀ position, Position.clamp lines requested = .ok position →
          Position.StandsFor requested.parts.1 lines.length position.line ∧
            Position.StandsFor requested.parts.2
              ((Position.lineText lines position.line).length + 1) position.column := by
  intro lines
  have hplace := Position.exists_clamp_iff lines requested
  refine ⟨hplace, ?_, ?_⟩
  · rw [← hplace]
    constructor
    · rintro ⟨items, hitems⟩
      exact exists_clamp_of_suggest hitems
    · rintro ⟨position, hclamp⟩
      exact ⟨_, suggest_of_clamp hclamp trigger⟩
  · intro position hclamp
    exact Position.standsFor_of_clamp hclamp

/-- A request for a line far behind the last one, by a text, and for a column that is no
number. -/
def outlyingRequest : RequestedPosition :=
  .place (.str " 1_000 ".toList) (.float .nan)

theorem place_found_outlying :
    Position.clamp (Document.text "enum A \x7b\n\x7d".toList).toLines outlyingRequest =
        .ok ⟨2, 1⟩ ∧
      Position.StandsFor outlyingRequest.parts.1 2 2 ∧
        Position.StandsFor outlyingRequest.parts.2 2 1 := by
  have hclamp : Position.clamp (Document.text "enum A \x7b\n\x7d".toList).toLines
      outlyingRequest = .ok ⟨2, 1⟩ := by
    decide +kernel
  obtain ⟨-, -, hplace⟩ :=
    place_found_iff_finite (.text "enum A \x7b\n\x7d".toList) outlyingRequest none
  exact ⟨hclamp, hplace _ hclamp⟩

/-- A request for a line beyond all numbers. -/
def endlessRequest : RequestedPosition :=
  .place (.float (.infinity false)) (.int 1)

/-- Even in a document with one line no place is found for such a request, and no answer. -/
theorem endless_line_not_found :
    Position.clamp (Document.text "model A \x7b".toList).toLines endlessRequest =
        .error .infinityToWhole ∧
      suggest (.text "model A \x7b".toList) endlessRequest none = .error .infinityToWhole :=
  ⟨rfl, rfl⟩

end Completion

end SchemaDesk
