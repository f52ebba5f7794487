import SchemaDesk.Proofs.CompletionOffers
import SchemaDesk.Proofs.EditorEvents
import SchemaDesk.Proofs.Run
import SchemaDesk.Proofs.SnippetExpansion
import SchemaDesk.Proofs.TextForms

/-!
# Accepted completions

Every offer that is ever listed names the token that its list was asked for. As keys are
pressed while the list is shown, the caret may come to stand before the start of that
token. An offer that is accepted replaces just the token up to the caret as long as it
does not.
-/

namespace SchemaDesk

namespace Buffer

theorem lineBefore_suffix (buffer : Buffer) (offset : Nat) :
    buffer.lineBefore offset <:+ buffer.text.take offset :=
  List.rtakeWhile_suffix (· != '\n') _

theorem length_lineBefore_le (buffer : Buffer) (offset : Nat) :
    (buffer.lineBefore offset).length ≤ offset := by
  have hle := (buffer.lineBefore_suffix offset).length_le
  rw [List.length_take] at hle
  omega

/-- A part of the text that starts in the line of its end is a part of that line. -/
theorem drop_lineStart_add {buffer : Buffer} {offset : Nat}
    (hoffset : offset ≤ buffer.text.length) (column : Nat) :
    (buffer.text.take offset).drop (buffer.lineStart offset + column) =
      (buffer.lineBefore offset).drop column := by
  have hline := List.suffix_iff_eq_drop.mp (buffer.lineBefore_suffix offset)
  rw [List.length_take, Nat.min_eq_left hoffset] at hline
  rw [← List.drop_drop, lineStart, ← hline]

theorem feed_not_mem_lineBefore (buffer : Buffer) (offset : Nat) :
    '\n' ∉ buffer.lineBefore offset := by
  intro hfeed
  simpa using List.mem_rtakeWhile_imp hfeed

end Buffer

namespace Caret

theorem moveTo_of_le {length offset : Nat} (hoffset : offset ≤ length) (caret : Caret) :
    caret.moveTo length offset = atOffset offset :=
  if_pos ⟨Int.natCast_nonneg offset, Int.ofNat_le.mpr hoffset⟩

theorem extendTo_of_le {length offset : Nat} (hoffset : offset ≤ length) (caret : Caret) :
    caret.extendTo length offset = { caret with position := offset } :=
  if_pos ⟨Int.natCast_nonneg offset, Int.ofNat_le.mpr hoffset⟩

end Caret

namespace Editor

/-! ## What is listed -/

/-- Whatever is listed, or may be as typing goes on, names the token that it is for. -/
structure Offered (editor : Editor) : Prop where
  offers : ∀ offer ∈ editor.offers, ∃ range, offer.Placed range
  rows : ∀ popup ∈ editor.popup, ∀ offer ∈ popup.rows, ∃ range, offer.Placed range

theorem Offered.look {editor : Editor} (hoffered : editor.Offered) : editor.look.Offered := by
  unfold Editor.look
  dsimp only
  split
  · exact hoffered
  · exact ⟨hoffered.offers, hoffered.rows⟩

theorem Offered.withCaret {editor : Editor} (hoffered : editor.Offered) (caret : Caret) :
    (editor.withCaret caret).Offered :=
  .look ⟨hoffered.offers, hoffered.rows⟩

theorem Offered.replace {editor : Editor} (hoffered : editor.Offered) (start stop : Nat)
    (t : Text) : (editor.replace start stop t).1.Offered := by
  unfold Editor.replace
  split
  · exact hoffered
  · exact .look ⟨hoffered.offers, hoffered.rows⟩

theorem offered_hidePopup (editor : Editor) : editor.hidePopup.Offered :=
  ⟨nofun, nofun⟩

theorem Offered.withPopup {editor : Editor} (hoffered : editor.Offered) {popup : Popup}
    (hrows : ∀ offer ∈ popup.rows, ∃ range, offer.Placed range) :
    (editor.withPopup popup).Offered := by
  refine ⟨hoffered.offers, ?_⟩
  rintro shown ⟨⟩
  exact hrows

theorem Offered.refreshPopup {editor : Editor} (hoffered : editor.Offered) :
    editor.refreshPopup.Offered := by
  unfold Editor.refreshPopup
  split
  next => exact offered_hidePopup editor
  next rows hrows =>
    refine hoffered.withPopup ?_
    intro offer hoffer
    exact hoffered.offers offer (List.mem_of_mem_filter hoffer)

theorem Offered.requestCompletion {editor : Editor} (trigger : Option Text)
    (hoffered : editor.Offered) : (editor.requestCompletion trigger).Offered := by
  unfold Editor.requestCompletion
  dsimp only
  split
  next => exact offered_hidePopup editor
  next first rest hanswer =>
    unfold showPopup
    split
    · exact offered_hidePopup _
    · refine .refreshPopup ⟨?_, hoffered.rows⟩
      intro offer hoffer
      obtain ⟨s, hs, rfl⟩ := List.mem_map.mp hoffer
      rw [← hanswer] at hs
      obtain ⟨hinsertable, range, hrange, hstart⟩ :=
        Completion.mem_answer (Completion.one_le_column ..) hs
      exact ⟨range, Offer.placed_ofFields hinsertable hrange hstart⟩

theorem Offered.moveSelection {editor : Editor} (hoffered : editor.Offered) (delta : Int) :
    (editor.moveSelection delta).Offered := by
  unfold Editor.moveSelection
  split
  next => exact hoffered
  next popup hpopup =>
    dsimp only
    split
    · exact hoffered
    · exact hoffered.withPopup (hoffered.rows popup hpopup)

theorem Offered.insertOffer {editor : Editor} (hoffered : editor.Offered) (offer : Offer) :
    (editor.insertOffer offer).editor.Offered := by
  unfold Editor.insertOffer
  split
  · exact hoffered
  · split
    · exact hoffered
    · exact (hoffered.replace ..).withCaret _

theorem Offered.acceptCompletion {editor : Editor} (hoffered : editor.Offered) :
    editor.acceptCompletion.editor.Offered := by
  unfold Editor.acceptCompletion
  split
  next => exact hoffered
  next offer _ =>
    dsimp only
    split
    · exact hoffered.insertOffer offer
    · exact offered_hidePopup _

theorem Offered.remove {editor : Editor} (hoffered : editor.Offered) (start stop : Nat) :
    (editor.remove start stop).1.Offered := by
  unfold Editor.remove
  dsimp only
  split <;> exact hoffered.replace ..

theorem Offered.typeKey {editor : Editor} (hoffered : editor.Offered) (press : KeyPress) :
    (editor.typeKey press).1.Offered := by
  cases hkey : press.key <;> simp only [Editor.typeKey, hkey]
  case enter => exact hoffered.replace ..
  case backspace | delete => exact hoffered.remove ..
  case left | right | home | lineEnd => exact hoffered.withCaret _
  case space | character =>
    split
    · exact hoffered.replace ..
    · exact hoffered
  all_goals exact hoffered

theorem Offered.typeInto {editor : Editor} (hoffered : editor.Offered) (press : KeyPress) :
    (editor.typeInto press).1.Offered := by
  have htyped := hoffered.typeKey press
  unfold Editor.typeInto
  dsimp only
  split
  · exact htyped
  · unfold Editor.afterTyping
    split
    · split
      · exact htyped.refreshPopup
      · exact offered_hidePopup _
    · split
      · exact htyped.requestCompletion _
      · exact htyped

theorem Offered.command {editor : Editor} (hoffered : editor.Offered) (press : KeyPress) :
    (editor.command press).editor.Offered := by
  unfold Editor.command
  split
  · exact hoffered.requestCompletion none
  · split
    · split
      · exact hoffered
      · exact hoffered.replace ..
    · exact hoffered.typeInto press

theorem Offered.clearSuggestion {editor : Editor} (hoffered : editor.Offered) :
    editor.clearSuggestion.Offered :=
  ⟨hoffered.offers, hoffered.rows⟩

theorem Offered.acceptSuggestion {editor : Editor} (hoffered : editor.Offered) :
    editor.acceptSuggestion.1.Offered := by
  unfold Editor.acceptSuggestion
  split
  · exact hoffered
  · exact hoffered.clearSuggestion.replace ..

theorem Offered.pressOverGhost {editor : Editor} (hoffered : editor.Offered) (press : KeyPress) :
    (editor.pressOverGhost press).editor.Offered := by
  unfold Editor.pressOverGhost
  split
  · exact hoffered.acceptSuggestion
  · split
    · exact hoffered.clearSuggestion
    · exact hoffered.command press

/-- No key lists anything else. -/
theorem Offered.press {editor : Editor} (hoffered : editor.Offered) (press : KeyPress) :
    (editor.press press).editor.Offered := by
  obtain ⟨delta, hpress⟩ | hpress | ⟨hpress, -⟩ | hpress := press_cases editor press <;> rw [hpress]
  · exact hoffered.moveSelection delta
  · exact offered_hidePopup editor
  · exact hoffered.acceptCompletion
  · exact hoffered.pressOverGhost press

/-! ## What is replaced -/

/-- Where the part of the text starts that an offer for a range replaces: at the column
that the range names, if it names the line of the caret, and else at the caret. -/
def replacedFrom (editor : Editor) (range : TextRange) : Nat :=
  if range.line = editor.buffer.place.1 then
    editor.buffer.lineStart editor.buffer.caret.position + (range.startColumn - 1).toNat
  else editor.buffer.caret.position

/-- The part of the text that an offer for a range replaces. A start behind the caret
turns it around, and one behind the text leaves what is selected. -/
def replacedPart (editor : Editor) (range : TextRange) : Nat × Nat :=
  let caret := editor.buffer.caret
  let first := editor.replacedFrom range
  if first ≤ editor.buffer.text.length then (min caret.position first, max caret.position first)
  else (caret.start, caret.stop)

/-- The range does not start behind the caret in its line. -/
def InStep (editor : Editor) (range : TextRange) : Prop :=
  range.line = editor.buffer.place.1 → range.startColumn ≤ editor.buffer.place.2

theorem replacedFrom_le_iff (editor : Editor) (range : TextRange) :
    editor.replacedFrom range ≤ editor.buffer.caret.position ↔ editor.InStep range := by
  have hline := editor.buffer.length_lineBefore_le editor.buffer.caret.position
  unfold replacedFrom InStep
  by_cases hsame : range.line = editor.buffer.place.1
  · simp only [hsame, if_true, true_imp_iff, Buffer.place, Buffer.columnOf, Buffer.lineStart]
    omega
  · simp only [hsame, if_false, false_imp_iff, Nat.le_refl]

/-- What is replaced up to the caret belongs to its line. -/
theorem feed_not_mem_token {editor : Editor} (hsettled : editor.Settled) (range : TextRange) :
    '\n' ∉ (editor.buffer.text.take editor.buffer.caret.position).drop
      (editor.replacedFrom range) := by
  unfold replacedFrom
  split
  · rw [Buffer.drop_lineStart_add hsettled.within.1]
    intro hfeed
    exact editor.buffer.feed_not_mem_lineBefore _ (List.mem_of_mem_drop hfeed)
  · rw [List.drop_eq_nil_of_le (List.length_take_le ..)]
    exact List.not_mem_nil

theorem firstColumn_eq (editor : Editor) {offer : Offer} {range : TextRange}
    (hplaced : offer.Placed range) :
    editor.firstColumn offer.range =
      .ok (if range.line = editor.buffer.place.1 then range.startColumn
        else editor.buffer.place.2) := by
  rw [hplaced.range_eq]
  by_cases hline : range.line = editor.buffer.place.1 <;>
    simp [firstColumn, readRange, isLine, Json.truthy, hline]

theorem insertOffer_eq (editor : Editor) {offer : Offer} {range : TextRange}
    (hplaced : offer.Placed range) :
    editor.insertOffer offer =
      { editor := (editor.insertAt (editor.replacedFrom range) offer).1
        notices := (editor.insertAt (editor.replacedFrom range) offer).2
        answer := .ok offer.label } := by
  have hfrom : editor.buffer.lineStart editor.buffer.caret.position +
      ((if range.line = editor.buffer.place.1 then range.startColumn
        else (editor.buffer.place.2 : Int)) - 1).toNat = editor.replacedFrom range := by
    -- In another line the column of the caret leads back to the caret.
    have hline := editor.buffer.length_lineBefore_le editor.buffer.caret.position
    unfold replacedFrom
    split
    · rfl
    · simp only [Buffer.place, Buffer.columnOf, Buffer.lineStart]
      omega
  have hempty : offer.template.isEmpty = false :=
    List.isEmpty_eq_false_iff.mpr hplaced.template_ne_nil
  unfold insertOffer
  rw [hempty, editor.firstColumn_eq hplaced]
  dsimp only
  rw [if_neg Bool.false_ne_true, hfrom]

/-- What the caret is taken over before an offer is put in its place. -/
theorem selected_eq (editor : Editor) (hsettled : editor.Settled) (start : Nat) :
    (editor.buffer.caret.moveTo editor.buffer.text.length start).extendTo
        editor.buffer.text.length editor.buffer.caret.position =
      if start ≤ editor.buffer.text.length then
        { position := editor.buffer.caret.position, anchor := start }
      else editor.buffer.caret := by
  rw [Caret.extendTo_of_le hsettled.within.1]
  split
  next hstart =>
    rw [Caret.moveTo_of_le hstart]
    rfl
  next hbehind =>
    rw [Caret.moveTo, if_neg (by omega)]

theorem text_withCaret (editor : Editor) (caret : Caret) :
    (editor.withCaret caret).buffer.text = editor.buffer.text := by
  rw [withCaret, buffer_look]

theorem caret_withCaret (editor : Editor) (caret : Caret) :
    (editor.withCaret caret).buffer.caret = caret := by
  rw [withCaret, buffer_look]

/-- What an offer puts into the text. -/
theorem put_eq {offer : Offer} {range : TextRange} (hplaced : offer.Placed range) :
    Text.dropReturnBeforeFeed
        (if offer.isSnippet then (Snippet.expand offer.template).text else offer.template) =
      (Snippet.expand offer.template).text := by
  split
  next =>
    refine Text.dropReturnBeforeFeed_of_not_mem ?_
    intro hreturn
    exact hplaced.no_return (Snippet.text_expand_subset _ hreturn)
  next hliteral =>
    -- An offer without tabstops is its own expansion.
    rw [hplaced.isSnippet_eq] at hliteral
    rw [Snippet.expand_of_no_dollar (by simpa using hliteral),
      Text.dropReturnBeforeFeed_of_not_mem hplaced.no_return]

theorem text_insertAt {editor : Editor} (hsettled : editor.Settled) {offer : Offer}
    {range : TextRange} (hplaced : offer.Placed range) :
    (editor.insertAt (editor.replacedFrom range) offer).1.buffer.text =
      editor.buffer.text.take (editor.replacedPart range).1 ++
        (Snippet.expand offer.template).text ++
        editor.buffer.text.drop (editor.replacedPart range).2 := by
  have hput := put_eq hplaced
  unfold insertAt replacedPart
  dsimp only
  rw [text_withCaret, text_replace, hput, editor.selected_eq hsettled]
  split <;> rfl

/-- Up to the caret an offer is put where it was asked for, and the caret where its
template wants it. -/
theorem caret_insertAt {editor : Editor} (hsettled : editor.Settled) {offer : Offer}
    {range : TextRange} (hplaced : offer.Placed range)
    (hstart : editor.replacedFrom range ≤ editor.buffer.caret.position) :
    (editor.insertAt (editor.replacedFrom range) offer).1.buffer.caret =
      { anchor := editor.replacedFrom range + (Snippet.expand offer.template).cursorOffset
        position := editor.replacedFrom range + (Snippet.expand offer.template).cursorOffset +
          (Snippet.expand offer.template).selectionLength } := by
  have hposition := hsettled.within.1
  have hput := put_eq hplaced
  have hcursor := Snippet.cursor_within_expand offer.template
  have hselected := editor.selected_eq hsettled (editor.replacedFrom range)
  rw [if_pos (Nat.le_trans hstart hposition)] at hselected
  unfold insertAt
  dsimp only
  have hroom := editor.start_add_length_le_replace hstart hposition
    (if offer.isSnippet then (Snippet.expand offer.template).text else offer.template)
  rw [hput] at hroom
  rw [caret_withCaret, hput, hselected]
  simp only [Caret.start, Caret.stop, Nat.min_eq_right hstart, Nat.max_eq_left hstart]
  split
  next hsnippet =>
    -- The caret goes to the first tabstop and then over its default.
    rw [if_pos hsnippet] at hroom
    rw [Caret.moveTo_of_le (by omega), ← Int.natCast_add, Caret.extendTo_of_le (by omega)]
    split
    next hnothing =>
      rw [hnothing]
      rfl
    next => rfl
  next hliteral =>
    rw [hplaced.isSnippet_eq] at hliteral
    rw [Snippet.expand_of_no_dollar (by simpa using hliteral)]
    rfl

/-! ## Accepting an offer -/

/-- An offer for a range has taken the place of the token before the caret and of nothing
else, and the caret is where its template wants it. -/
structure Completes (before after : Editor) (range : TextRange) (template : Text) : Prop where
  start_le : before.replacedFrom range ≤ before.buffer.caret.position
  /-- The token belongs to the line of the caret. -/
  one_line : '\n' ∉ (before.buffer.text.take before.buffer.caret.position).drop
    (before.replacedFrom range)
  text : after.buffer.text =
    before.buffer.text.take (before.replacedFrom range) ++ (Snippet.expand template).text ++
      before.buffer.text.drop before.buffer.caret.position
  caret : after.buffer.caret =
    { anchor := before.replacedFrom range + (Snippet.expand template).cursorOffset
      position := before.replacedFrom range + (Snippet.expand template).cursorOffset +
        (Snippet.expand template).selectionLength }
  inside : (Snippet.expand template).cursorOffset + (Snippet.expand template).selectionLength ≤
    (Snippet.expand template).text.length

theorem completes_insertAt_iff {editor : Editor} (hsettled : editor.Settled) {offer : Offer}
    {range : TextRange} (hplaced : offer.Placed range) :
    editor.Completes (editor.insertAt (editor.replacedFrom range) offer).1 range
        offer.template ↔ editor.InStep range := by
  rw [← replacedFrom_le_iff]
  refine ⟨fun hcompletes => hcompletes.start_le, fun hstart => ?_⟩
  refine ⟨hstart, feed_not_mem_token hsettled range, ?_, caret_insertAt hsettled hplaced hstart,
    Snippet.cursor_within_expand _⟩
  have hpart : editor.replacedPart range =
      (editor.replacedFrom range, editor.buffer.caret.position) := by
    unfold replacedPart
    dsimp only
    rw [if_pos (Nat.le_trans hstart hsettled.within.1), Nat.min_eq_right hstart,
      Nat.max_eq_left hstart]
  rw [text_insertAt hsettled hplaced, hpart]

/-- A click on a row inserts its offer and leaves the list. -/
theorem click_eq {editor : Editor} {popup : Popup} (hpopup : editor.popup = some popup)
    {row : Nat} {offer : Offer} (hrow : popup.rows[row]? = some offer) {range : TextRange}
    (hplaced : offer.Placed range) :
    (editor.click row).answer = .ok true ∧
      (editor.click row).editor =
        (insertAt { editor with popup := some { popup with row } }
          (editor.replacedFrom range) offer).1.hidePopup := by
  have hchosen : Popup.chosen? { popup with row } = some offer := by
    simp only [Popup.chosen?, Int.toNat_natCast, hrow]
    rw [if_neg (by omega)]
  unfold click acceptCompletion
  simp only [hpopup, Option.map_some, Option.bind_some, hchosen, insertOffer_eq _ hplaced]
  exact ⟨trivial, rfl⟩

/-- The editor after some key presses. -/
def pressed (editor : Editor) (presses : List KeyPress) : Editor :=
  Run.after (fun editor press => (editor.press press).editor) editor presses

theorem pressed_induction {editor : Editor} (property : Editor → Prop) (hstart : property editor)
    (hpress : ∀ editor press, property editor → property (editor.press press).editor)
    (presses : List KeyPress) : property (editor.pressed presses) :=
  Run.after_induction _ editor (fun _ editor => property editor) hstart
    (fun _ press hearlier => hpress _ press hearlier) presses

/-- Whatever keys have been pressed, an offer that is listed names a token. Accepted, it is
put in the place of what lies between the start of the token and the caret: of the token
alone exactly if the token does not start behind the caret. -/
theorem click_completes_iff_inStep {settings : Fields} {t : Text} {start : Editor}
    (hnew : Editor.new settings t = .ok start) (presses : List KeyPress) {popup : Popup}
    (hpopup : (start.pressed presses).popup = some popup) {row : Nat} {offer : Offer}
    (hrow : popup.rows[row]? = some offer) :
    ∃ range, offer.Placed range ∧
      ((start.pressed presses).click row).answer = .ok true ∧
      ((start.pressed presses).click row).editor.buffer.text =
        (start.pressed presses).buffer.text.take ((start.pressed presses).replacedPart range).1 ++
          (Snippet.expand offer.template).text ++
          (start.pressed presses).buffer.text.drop
            ((start.pressed presses).replacedPart range).2 ∧
      ((start.pressed presses).Completes ((start.pressed presses).click row).editor range
          offer.template ↔
        (start.pressed presses).InStep range) := by
  have hsettled : (start.pressed presses).Settled :=
    pressed_induction Settled (settled_new hnew)
      (fun _ press hearlier => (carries_press hearlier press).settled) presses
  have hoffered : (start.pressed presses).Offered := by
    refine pressed_induction Offered ?_ (fun _ press hearlier => hearlier.press press) presses
    rw [new_eq_ok hnew]
    exact ⟨nofun, nofun⟩
  obtain ⟨range, hplaced⟩ := hoffered.rows popup hpopup offer (List.mem_of_getElem? hrow)
  obtain ⟨hanswer, heditor⟩ := click_eq hpopup hrow hplaced
  have hlisted : Settled { start.pressed presses with popup := some { popup with row } } :=
    ⟨hsettled.seen, hsettled.within, hsettled.ghost_position, hsettled.ghost_revision,
      fun _ => hsettled.alone (by rw [hpopup]; rfl)⟩
  have hcompletes := completes_insertAt_iff hlisted hplaced
  refine ⟨range, hplaced, hanswer, ?_, ?_⟩
  · rw [heditor]
    exact text_insertAt hlisted hplaced
  · rw [heditor]
    -- The list that is shown is no part of what is completed.
    refine Iff.trans ?_ hcompletes
    exact ⟨fun h => ⟨h.start_le, h.one_line, h.text, h.caret, h.inside⟩,
      fun h => ⟨h.start_le, h.one_line, h.text, h.caret, h.inside⟩⟩

/-- A model whose field has no attribute yet. -/
def fieldText : Text :=
  "model A \x7b\n  id Int \n\x7d".toList

/-- The editor that such a model has been opened in. -/
def fieldEditor : Editor :=
  { buffer := .ofText fieldText, settings := [] }

/-- The keys that lead behind the field and list the attributes. -/
def attributeKeys : List KeyPress :=
  [{ key := .lineEnd, text := [] }, { key := .right, text := [] }, { key := .lineEnd, text := [] },
    .ofChar '@']

/-- The template of the offer in the first row, and where its range starts. -/
def firstRow? (editor : Editor) : Option (Text × Int × Int) :=
  (editor.popup.bind fun popup => popup.rows[0]?).bind fun offer =>
    match offer.range with
    | .arr [.int line, .int startColumn, _] => some (offer.template, line, startColumn)
    | _ => none

theorem click_completes_default :
    ∃ range, Editor.new [] fieldText = .ok fieldEditor ∧
      (fieldEditor.pressed (attributeKeys ++ [.ofChar 'd'])).Completes
        ((fieldEditor.pressed (attributeKeys ++ [.ofChar 'd'])).click 0).editor range
        "@default($\x7b1:value\x7d)".toList := by
  have hnew : Editor.new [] fieldText = .ok fieldEditor := rfl
  have hfirst : (fieldEditor.pressed (attributeKeys ++ [.ofChar 'd'])).firstRow? =
      some ("@default($\x7b1:value\x7d)".toList, 2, 10) := by decide +kernel
  obtain ⟨offer, hoffer, hrange⟩ := Option.bind_eq_some_iff.mp hfirst
  obtain ⟨popup, hpopup, hrow⟩ := Option.bind_eq_some_iff.mp hoffer
  obtain ⟨range, hplaced, -, -, hcompletes⟩ :=
    click_completes_iff_inStep hnew (attributeKeys ++ [.ofChar 'd']) hpopup hrow
  rw [hplaced.range_eq] at hrange
  simp only [Option.some.injEq, Prod.mk.injEq] at hrange
  obtain ⟨htemplate, -, hstart⟩ := hrange
  rw [htemplate] at hcompletes
  refine ⟨range, hnew, hcompletes.mpr ?_⟩
  intro _
  rw [hstart]
  decide +kernel

/-- The key that removes the character before the caret. -/
def backspacePress : KeyPress :=
  { key := .backspace, text := ['\x08'] }

/-- The editor once the sign that the list was asked for and the blank before it have been
removed. The list stays. -/
def rewoundEditor : Editor :=
  fieldEditor.pressed (attributeKeys ++ [backspacePress, backspacePress])

/-- What is accepted then takes the place of the line end behind the caret, and of no token
before it. -/
theorem click_removes_line_end :
    Editor.new [] fieldText = .ok fieldEditor ∧
      rewoundEditor.firstRow? = some ("@id".toList, 2, 10) ∧
      (rewoundEditor.click 0).editor.buffer.text = "model A \x7b\n  id Int@id\x7d".toList ∧
      ∀ first ≤ rewoundEditor.buffer.caret.position,
        (rewoundEditor.click 0).editor.buffer.text ≠
          rewoundEditor.buffer.text.take first ++ (Snippet.expand "@id".toList).text ++
            rewoundEditor.buffer.text.drop rewoundEditor.buffer.caret.position := by
  refine ⟨rfl, ?_, ?_, ?_⟩ <;> decide +kernel

end Editor

end SchemaDesk
