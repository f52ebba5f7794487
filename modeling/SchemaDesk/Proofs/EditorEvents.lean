import SchemaDesk.Editor.Hover
import SchemaDesk.Editor.Keys
import SchemaDesk.Fault

/-!
# Events of an editor

What users and hosts do with an editor, as events of one kind, and what holds of
an editor after every one of them: its caret lies in its text, it has been looked
at, and a suggestion that is shown belongs to the place of the caret.
-/

namespace SchemaDesk

namespace Caret

/-- Both ends of the caret lie in a text of `length` characters. -/
def Within (length : Nat) (caret : Caret) : Prop :=
  caret.position ≤ length ∧ caret.anchor ≤ length

theorem within_atOffset {length offset : Nat} (hoffset : offset ≤ length) :
    (atOffset offset).Within length :=
  ⟨hoffset, hoffset⟩

theorem Within.moveTo {length : Nat} {caret : Caret} (hcaret : caret.Within length)
    (offset : Int) : (caret.moveTo length offset).Within length := by
  unfold Caret.moveTo
  split
  · exact within_atOffset (by omega)
  · exact hcaret

theorem Within.extendTo {length : Nat} {caret : Caret} (hcaret : caret.Within length)
    (offset : Int) : (caret.extendTo length offset).Within length := by
  unfold Caret.extendTo
  split
  · exact ⟨by dsimp only; omega, hcaret.2⟩
  · exact hcaret

theorem start_le_stop (caret : Caret) : caret.start ≤ caret.stop := by
  unfold start stop
  omega

theorem Within.stop_le {length : Nat} {caret : Caret} (hcaret : caret.Within length) :
    caret.stop ≤ length :=
  Nat.max_le.mpr hcaret

theorem follow_le {start stop old put offset : Nat} (hstart : start ≤ stop) (hstop : stop ≤ old)
    (hoffset : offset ≤ old) : follow start stop put offset ≤ start + put + (old - stop) := by
  unfold follow
  split <;> omega

end Caret

namespace Buffer

/-- Replacing a part of the text counts as one change and takes the caret along. -/
theorem replace?_eq_some {buffer next : Buffer} {start stop : Nat} {t : Text}
    (hnext : buffer.replace? start stop t = some next) :
    next.text = buffer.text.take start ++ Text.dropReturnBeforeFeed t ++ buffer.text.drop stop ∧
      next.caret.position =
        Caret.follow start stop (Text.dropReturnBeforeFeed t).length buffer.caret.position ∧
      next.caret.anchor =
        Caret.follow start stop (Text.dropReturnBeforeFeed t).length buffer.caret.anchor ∧
      next.revision = buffer.revision + 1 := by
  unfold replace? at hnext
  dsimp only at hnext
  split at hnext
  · exact absurd hnext (by simp)
  · rw [← Option.some.inj hnext]
    exact ⟨rfl, rfl, rfl, rfl⟩

theorem within_replace? {buffer next : Buffer} {start stop : Nat} {t : Text}
    (hcaret : buffer.caret.Within buffer.text.length) (hstart : start ≤ stop)
    (hstop : stop ≤ buffer.text.length) (hnext : buffer.replace? start stop t = some next) :
    next.caret.Within next.text.length := by
  obtain ⟨htext, hposition, hanchor, -⟩ := replace?_eq_some hnext
  have hlength : next.text.length =
      start + (Text.dropReturnBeforeFeed t).length + (buffer.text.length - stop) := by
    rw [htext]
    simp only [List.length_append, List.length_take, List.length_drop]
    omega
  unfold Caret.Within
  rw [hposition, hanchor, hlength]
  exact ⟨Caret.follow_le hstart hstop hcaret.1, Caret.follow_le hstart hstop hcaret.2⟩

theorem lineStart_le (buffer : Buffer) (offset : Nat) : buffer.lineStart offset ≤ offset :=
  Nat.sub_le ..

theorem lineEnd_le {buffer : Buffer} {offset : Nat} (hoffset : offset ≤ buffer.text.length) :
    buffer.lineEnd offset ≤ buffer.text.length := by
  have hrest := ((buffer.text.drop offset).takeWhile_sublist (· != '\n')).length_le
  rw [List.length_drop] at hrest
  unfold lineEnd
  omega

end Buffer

namespace Editor

/-- An editor between two events. -/
structure Settled (editor : Editor) : Prop where
  seen : editor.seen = editor.buffer.caret.position
  within : editor.buffer.caret.Within editor.buffer.text.length
  /-- A suggestion is shown where the caret is. -/
  ghost_position : ∀ ghost ∈ editor.ghost, ghost.position = editor.buffer.caret.position
  ghost_revision : ∀ ghost ∈ editor.ghost, ghost.revision ≤ editor.buffer.revision
  /-- A suggestion and a completion list are not shown together. -/
  alone : editor.popup.isSome → editor.ghost = none

/-- From one editor to a later one that shows no other suggestion. Every change of the
text counts up the revision. -/
structure Carries (before after : Editor) : Prop where
  settled : after.Settled
  revision_le : before.buffer.revision ≤ after.buffer.revision
  same_text : after.buffer.revision = before.buffer.revision →
    after.buffer.text = before.buffer.text
  same_ghost : ∀ ghost ∈ after.ghost, before.ghost = some ghost

namespace Carries

theorem refl {editor : Editor} (hsettled : editor.Settled) : editor.Carries editor :=
  ⟨hsettled, Nat.le_refl _, fun _ => rfl, fun _ hghost => hghost⟩

theorem trans {first second third : Editor} (hfirst : first.Carries second)
    (hsecond : second.Carries third) : first.Carries third where
  settled := hsecond.settled
  revision_le := Nat.le_trans hfirst.revision_le hsecond.revision_le
  same_text hsame := by
    have hle := hfirst.revision_le
    have hle' := hsecond.revision_le
    rw [hsecond.same_text (by omega), hfirst.same_text (by omega)]
  same_ghost ghost hghost := hfirst.same_ghost ghost (hsecond.same_ghost ghost hghost)

/-- What is done beside the text and the suggestion. -/
theorem of_eq {before after : Editor} (hsettled : before.Settled)
    (hbuffer : after.buffer = before.buffer) (hseen : after.seen = before.seen)
    (hghost : after.ghost = before.ghost) (hpopup : after.popup.isSome → before.ghost = none) :
    before.Carries after where
  settled := by
    refine ⟨?_, ?_, ?_, ?_, ?_⟩
    · rw [hseen, hbuffer, hsettled.seen]
    · rw [hbuffer]
      exact hsettled.within
    · rw [hghost, hbuffer]
      exact hsettled.ghost_position
    · rw [hghost, hbuffer]
      exact hsettled.ghost_revision
    · rw [hghost]
      exact hpopup
  revision_le := Nat.le_of_eq (by rw [hbuffer])
  same_text _ := by rw [hbuffer]
  same_ghost _ hshown := by rwa [hghost] at hshown

end Carries

/-- Looking at the caret after a change of the text, or after the caret has moved. -/
theorem carries_look {editor : Editor} (hsettled : editor.Settled) {buffer : Buffer}
    (hwithin : buffer.caret.Within buffer.text.length)
    (hrevision : editor.buffer.revision ≤ buffer.revision)
    (htext : buffer.revision = editor.buffer.revision → buffer.text = editor.buffer.text) :
    editor.Carries { editor with buffer }.look := by
  unfold look
  dsimp only
  split
  next hsame =>
    -- The caret is where it was looked at last, so what is shown there stays.
    refine ⟨⟨hsame.symm, hwithin, ?_, ?_, hsettled.alone⟩, hrevision, htext, fun _ h => h⟩
    · intro ghost hghost
      rw [hsettled.ghost_position ghost hghost, ← hsettled.seen]
      exact hsame.symm
    · intro ghost hghost
      exact Nat.le_trans (hsettled.ghost_revision ghost hghost) hrevision
  next hmoved =>
    refine ⟨⟨rfl, hwithin, ?_, ?_, ?_⟩, hrevision, htext, ?_⟩
    · intro ghost hghost
      obtain ⟨-, hplace⟩ := Option.filter_eq_some_iff.mp hghost
      simpa using hplace
    · intro ghost hghost
      obtain ⟨hghost, -⟩ := Option.filter_eq_some_iff.mp hghost
      exact Nat.le_trans (hsettled.ghost_revision ghost hghost) hrevision
    · intro hpopup
      have hnone : editor.ghost = none := hsettled.alone hpopup
      simp [hnone]
    · intro ghost hghost
      exact (Option.filter_eq_some_iff.mp hghost).1

@[simp]
theorem buffer_look (editor : Editor) : editor.look.buffer = editor.buffer := by
  unfold look
  dsimp only
  split <;> rfl

/-- What a replacement leaves, also where it changes nothing. -/
theorem text_replace (editor : Editor) (start stop : Nat) (t : Text) :
    (editor.replace start stop t).1.buffer.text =
      editor.buffer.text.take start ++ Text.dropReturnBeforeFeed t ++
        editor.buffer.text.drop stop := by
  unfold replace
  split
  next hnone =>
    obtain ⟨rfl, hempty⟩ : start = stop ∧ Text.dropReturnBeforeFeed t = [] := by
      simpa [Buffer.replace?] using hnone
    simp [hempty]
  next buffer hbuffer =>
    rw [buffer_look]
    exact (Buffer.replace?_eq_some hbuffer).1

/-- Replacing all of the text takes the caret to its end. -/
theorem caret_replace_all {editor : Editor} (hsettled : editor.Settled) (t : Text) :
    (editor.replace 0 editor.buffer.text.length t).1.buffer.caret =
      .atOffset (Text.dropReturnBeforeFeed t).length := by
  obtain ⟨hposition, hanchor⟩ := hsettled.within
  have hfollow {offset : Nat} (hoffset : offset ≤ editor.buffer.text.length) :
      Caret.follow 0 editor.buffer.text.length (Text.dropReturnBeforeFeed t).length offset =
        (Text.dropReturnBeforeFeed t).length := by
    unfold Caret.follow
    split <;> omega
  unfold replace
  split
  next hnone =>
    obtain ⟨hlength, hempty⟩ :
        0 = editor.buffer.text.length ∧ Text.dropReturnBeforeFeed t = [] := by
      simpa [Buffer.replace?] using hnone
    rw [← hlength, Nat.le_zero] at hposition hanchor
    rw [hempty]
    exact congr (congrArg Caret.mk hposition) hanchor
  next buffer hbuffer =>
    obtain ⟨-, hcaret, hanchored, -⟩ := Buffer.replace?_eq_some hbuffer
    rw [hfollow hposition] at hcaret
    rw [hfollow hanchor] at hanchored
    rw [buffer_look]
    exact congr (congrArg Caret.mk hcaret) hanchored

theorem start_add_length_le_replace (editor : Editor) {start stop : Nat} (hstart : start ≤ stop)
    (hstop : stop ≤ editor.buffer.text.length) (t : Text) :
    start + (Text.dropReturnBeforeFeed t).length ≤
      (editor.replace start stop t).1.buffer.text.length := by
  rw [text_replace]
  simp only [List.length_append, List.length_take]
  omega

theorem carries_withCaret {editor : Editor} (hsettled : editor.Settled) {caret : Caret}
    (hcaret : caret.Within editor.buffer.text.length) :
    editor.Carries (editor.withCaret caret) :=
  carries_look hsettled hcaret (Nat.le_refl _) fun _ => rfl

theorem carries_replace {editor : Editor} (hsettled : editor.Settled) {start stop : Nat}
    (hstart : start ≤ stop) (hstop : stop ≤ editor.buffer.text.length) (t : Text) :
    editor.Carries (editor.replace start stop t).1 := by
  unfold replace
  split
  next => exact .refl hsettled
  next buffer hbuffer =>
    have hwithin := Buffer.within_replace? hsettled.within hstart hstop hbuffer
    obtain ⟨-, -, -, hrevision⟩ := Buffer.replace?_eq_some hbuffer
    refine carries_look hsettled hwithin (by omega) ?_
    intro hsame
    omega

theorem carries_insert {editor : Editor} (hsettled : editor.Settled) (t : Text) :
    editor.Carries (editor.insert t).1 :=
  carries_replace hsettled (Caret.start_le_stop _) hsettled.within.stop_le t

theorem carries_setText {editor : Editor} (hsettled : editor.Settled) (t : Text) :
    editor.Carries (editor.setText t).1 := by
  refine carries_look hsettled (Caret.within_atOffset (Nat.zero_le _)) (Nat.le_succ _) ?_
  intro hsame
  exact absurd hsame (Nat.succ_ne_self _)

theorem carries_select {editor : Editor} (hsettled : editor.Settled) (anchor position : Int) :
    editor.Carries (editor.select anchor position) :=
  carries_withCaret hsettled ((hsettled.within.moveTo anchor).extendTo position)

theorem carries_clearSuggestion {editor : Editor} (hsettled : editor.Settled) :
    editor.Carries editor.clearSuggestion where
  settled := ⟨hsettled.seen, hsettled.within, nofun, nofun, fun _ => rfl⟩
  revision_le := Nat.le_refl _
  same_text _ := rfl
  same_ghost := nofun

theorem carries_acceptSuggestion {editor : Editor} (hsettled : editor.Settled) :
    editor.Carries editor.acceptSuggestion.1 := by
  unfold acceptSuggestion
  split
  next => exact .refl hsettled
  next ghost _ =>
    have hclear := carries_clearSuggestion hsettled
    exact hclear.trans (carries_insert hclear.settled ghost.text)

/-! ## The completion list -/

theorem carries_hidePopup {editor : Editor} (hsettled : editor.Settled) :
    editor.Carries editor.hidePopup :=
  .of_eq hsettled rfl rfl rfl nofun

theorem carries_withPopup {editor : Editor} (hsettled : editor.Settled)
    (hghost : editor.ghost = none) (popup : Popup) : editor.Carries (editor.withPopup popup) :=
  .of_eq hsettled rfl rfl rfl fun _ => hghost

theorem carries_refreshPopup {editor : Editor} (hsettled : editor.Settled)
    (hghost : editor.ghost = none) : editor.Carries editor.refreshPopup := by
  unfold refreshPopup
  split
  · exact carries_hidePopup hsettled
  · exact carries_withPopup hsettled hghost _

theorem carries_showPopup {editor : Editor} (hsettled : editor.Settled) (offers : List Offer) :
    editor.Carries (editor.showPopup offers) := by
  unfold showPopup
  split
  · exact carries_hidePopup hsettled
  · have hclear := carries_clearSuggestion hsettled
    have hoffers : editor.clearSuggestion.Carries { editor.clearSuggestion with offers } :=
      .of_eq hclear.settled rfl rfl rfl fun _ => rfl
    exact (hclear.trans hoffers).trans (carries_refreshPopup hoffers.settled rfl)

theorem carries_requestCompletion {editor : Editor} (hsettled : editor.Settled)
    (trigger : Option Text) : editor.Carries (editor.requestCompletion trigger) := by
  unfold requestCompletion
  dsimp only
  split
  next => exact carries_hidePopup hsettled
  next first rest _ =>
    have hrange (range : TextRange) : editor.Carries { editor with range := some range } :=
      .of_eq hsettled rfl rfl rfl hsettled.alone
    exact (hrange _).trans (carries_showPopup (hrange _).settled _)

theorem carries_moveSelection {editor : Editor} (hsettled : editor.Settled) (delta : Int) :
    editor.Carries (editor.moveSelection delta) := by
  unfold moveSelection
  split
  next => exact .refl hsettled
  next popup hpopup =>
    dsimp only
    split
    · exact .refl hsettled
    · exact carries_withPopup hsettled (hsettled.alone (by simp [hpopup])) _

theorem carries_insertAt {editor : Editor} (hsettled : editor.Settled) (start : Nat)
    (offer : Offer) : editor.Carries (editor.insertAt start offer).1 := by
  have hselected := (hsettled.within.moveTo start).extendTo editor.buffer.caret.position
  have hreplace (t : Text) :=
    carries_replace hsettled (Caret.start_le_stop _) hselected.stop_le t
  have hbehind (t : Text) := Caret.within_atOffset
    (editor.start_add_length_le_replace (Caret.start_le_stop _) hselected.stop_le t)
  unfold insertAt
  cases offer.isSnippet with
  | false => exact (hreplace _).trans (carries_withCaret (hreplace _).settled (hbehind _))
  | true =>
      refine (hreplace _).trans (carries_withCaret (hreplace _).settled ?_)
      simp only [if_true]
      split
      · exact (hbehind _).moveTo _
      · exact ((hbehind _).moveTo _).extendTo _

theorem carries_insertOffer {editor : Editor} (hsettled : editor.Settled) (offer : Offer) :
    editor.Carries (editor.insertOffer offer).editor := by
  unfold insertOffer
  split
  · exact .refl hsettled
  · split
    · exact .refl hsettled
    · exact carries_insertAt hsettled _ offer

theorem carries_acceptCompletion {editor : Editor} (hsettled : editor.Settled) :
    editor.Carries editor.acceptCompletion.editor := by
  unfold acceptCompletion
  split
  next => exact .refl hsettled
  next offer _ =>
    have hinsert := carries_insertOffer hsettled offer
    dsimp only
    split
    · exact hinsert
    · exact hinsert.trans (carries_hidePopup hinsert.settled)

theorem carries_click {editor : Editor} (hsettled : editor.Settled) (row : Int) :
    editor.Carries (editor.click row).editor := by
  have hchosen : editor.Carries
      { editor with popup := editor.popup.map fun (popup : Popup) => { popup with row } } :=
    .of_eq hsettled rfl rfl rfl (by simpa using hsettled.alone)
  exact hchosen.trans (carries_acceptCompletion hchosen.settled)

/-! ## Keys -/

theorem carries_remove {editor : Editor} (hsettled : editor.Settled) {start stop : Nat}
    (hstart : start ≤ stop) (hstop : stop ≤ editor.buffer.text.length) :
    editor.Carries (editor.remove start stop).1 := by
  unfold remove
  dsimp only
  split
  · exact carries_replace hsettled hstart hstop []
  · exact carries_replace hsettled (Caret.start_le_stop _) hsettled.within.stop_le []

theorem carries_typeKey {editor : Editor} (hsettled : editor.Settled) (press : KeyPress) :
    editor.Carries (editor.typeKey press).1 := by
  have hposition := hsettled.within.1
  have hgoTo {offset : Nat} (hoffset : offset ≤ editor.buffer.text.length) :
      editor.Carries (editor.withCaret (.atOffset offset)) :=
    carries_withCaret hsettled (Caret.within_atOffset hoffset)
  have hstart := editor.buffer.lineStart_le editor.buffer.caret.position
  cases hkey : press.key <;> simp only [typeKey, hkey]
  case enter => exact carries_insert hsettled _
  case backspace => exact carries_remove hsettled (Nat.sub_le ..) hposition
  case delete => exact carries_remove hsettled (by omega) (Nat.min_le_left ..)
  case left => exact hgoTo (by omega)
  case right => exact hgoTo (Nat.min_le_left ..)
  case home => exact hgoTo (Nat.le_trans hstart hposition)
  case lineEnd => exact hgoTo (Buffer.lineEnd_le hposition)
  case space | character =>
    split
    · exact carries_insert hsettled _
    · exact .refl hsettled
  all_goals exact .refl hsettled

theorem carries_afterTyping {editor : Editor} (hsettled : editor.Settled) (press : KeyPress) :
    editor.Carries (editor.afterTyping press) := by
  unfold afterTyping
  split
  next hpopup =>
    split
    · exact carries_refreshPopup hsettled (hsettled.alone hpopup)
    · exact carries_hidePopup hsettled
  next =>
    split
    · exact carries_requestCompletion hsettled _
    · exact .refl hsettled

theorem carries_typeInto {editor : Editor} (hsettled : editor.Settled) (press : KeyPress) :
    editor.Carries (editor.typeInto press).1 := by
  have htype := carries_typeKey hsettled press
  unfold typeInto
  dsimp only
  split
  · exact htype
  · exact htype.trans (carries_afterTyping htype.settled press)

theorem carries_command {editor : Editor} (hsettled : editor.Settled) (press : KeyPress) :
    editor.Carries (editor.command press).editor := by
  unfold command
  split
  · exact carries_requestCompletion hsettled none
  · split
    · split
      · exact .refl hsettled
      · exact carries_insert hsettled _
    · exact carries_typeInto hsettled press

theorem carries_pressOverGhost {editor : Editor} (hsettled : editor.Settled) (press : KeyPress) :
    editor.Carries (editor.pressOverGhost press).editor := by
  unfold pressOverGhost
  split
  · exact carries_acceptSuggestion hsettled
  · split
    · exact carries_clearSuggestion hsettled
    · exact carries_command hsettled press

/-- What a key can do: choose or leave in the list that is shown, accept what is chosen
there, or go past the list. -/
theorem press_cases (editor : Editor) (press : KeyPress) :
    (∃ delta, editor.press press = { editor := editor.moveSelection delta, answer := .ok () }) ∨
      editor.press press = { editor := editor.hidePopup, answer := .ok () } ∨
      ((editor.press press).editor = editor.acceptCompletion.editor ∧
        (editor.press press).notices = editor.acceptCompletion.notices) ∨
      editor.press press = editor.pressOverGhost press := by
  unfold Editor.press
  split
  · exact .inr (.inr (.inr rfl))
  · split
    · exact .inl ⟨1, rfl⟩
    · exact .inl ⟨-1, rfl⟩
    · exact .inr (.inl rfl)
    · dsimp only
      split
      · exact .inr (.inr (.inl ⟨rfl, rfl⟩))
      · exact .inr (.inr (.inl ⟨rfl, rfl⟩))
      · exact .inr (.inr (.inr rfl))
    · dsimp only
      split
      · exact .inr (.inr (.inl ⟨rfl, rfl⟩))
      · exact .inr (.inr (.inl ⟨rfl, rfl⟩))
      · exact .inr (.inr (.inr rfl))
    · exact .inr (.inr (.inr rfl))

theorem carries_press {editor : Editor} (hsettled : editor.Settled) (press : KeyPress) :
    editor.Carries (editor.press press).editor := by
  obtain ⟨delta, hpress⟩ | hpress | ⟨hpress, -⟩ | hpress := press_cases editor press <;> rw [hpress]
  · exact carries_moveSelection hsettled delta
  · exact carries_hidePopup hsettled
  · exact carries_acceptCompletion hsettled
  · exact carries_pressOverGhost hsettled press

end Editor

/-! ## Events -/

/-- What users and hosts do with an editor. -/
inductive EditorEvent where
  | press (press : KeyPress)
  | select (anchor position : Int)
  /-- A part of the text is replaced from elsewhere. -/
  | replace (start stop : Nat) (t : Text)
  | setText (t : Text)
  | complete (trigger : Option Text)
  | list (offers : List Offer)
  | leaveList
  | move (delta : Int)
  | click (row : Int)
  | accept
  | insertOffer (offer : Offer)
  | suggest (t : Text)
  | takeBack
  | adopt
  | hover (line column : Int) (held : Bool)
  | rest
  | leave
  | updateSettings (settings : Json)

namespace Editor

/-- The editor after an event, and what it announces. There is no part of the text
that starts behind its end or reaches beyond the text. -/
def perform (editor : Editor) : EditorEvent → Editor × List EditorNotice
  | .press press => ((editor.press press).editor, (editor.press press).notices)
  | .select anchor position => (editor.select anchor position, [])
  | .replace start stop t =>
    if start ≤ stop ∧ stop ≤ editor.buffer.text.length then editor.replace start stop t
    else (editor, [])
  | .setText t => editor.setText t
  | .complete trigger => (editor.requestCompletion trigger, [])
  | .list offers => (editor.showPopup offers, [])
  | .leaveList => (editor.hidePopup, [])
  | .move delta => (editor.moveSelection delta, [])
  | .click row => ((editor.click row).editor, (editor.click row).notices)
  | .accept => (editor.acceptCompletion.editor, editor.acceptCompletion.notices)
  | .insertOffer offer => ((editor.insertOffer offer).editor, (editor.insertOffer offer).notices)
  | .suggest t => (editor.setSuggestion t, [])
  | .takeBack => (editor.clearSuggestion, [])
  | .adopt => (editor.acceptSuggestion.1, editor.acceptSuggestion.2.1)
  | .hover line column held => ((editor.hover line column held).1, [])
  | .rest => (editor.rest.1, [])
  | .leave => (editor.leave, [])
  | .updateSettings settings => ((editor.updateSettings settings).1, [])

theorem new_eq_ok {settings : Fields} {t : Text} {editor : Editor}
    (hnew : Editor.new settings t = .ok editor) :
    editor = { buffer := .ofText t, settings } := by
  obtain ⟨shown, -, hnew⟩ := bind_eq_ok hnew
  cases hnew
  rfl

theorem settled_new {settings : Fields} {t : Text} {editor : Editor}
    (hnew : Editor.new settings t = .ok editor) : editor.Settled := by
  rw [new_eq_ok hnew]
  exact ⟨rfl, Caret.within_atOffset (Nat.zero_le _), nofun, nofun, nofun⟩

/-- From one editor to a later one that shows the same suggestion, none, or one that
has been found for the text as it stands. -/
structure Follows (before after : Editor) : Prop where
  settled : after.Settled
  revision_le : before.buffer.revision ≤ after.buffer.revision
  same_text : after.buffer.revision = before.buffer.revision →
    after.buffer.text = before.buffer.text
  ghost : ∀ ghost ∈ after.ghost,
    before.ghost = some ghost ∨ ghost.revision = after.buffer.revision

theorem Carries.follows {before after : Editor} (hcarries : before.Carries after) :
    before.Follows after where
  settled := hcarries.settled
  revision_le := hcarries.revision_le
  same_text := hcarries.same_text
  ghost ghost hghost := .inl (hcarries.same_ghost ghost hghost)

/-- A later editor with the same text may show yet another suggestion. -/
theorem Follows.trans {first second third : Editor} (hfirst : first.Follows second)
    (hsecond : second.Follows third) (hbuffer : third.buffer = second.buffer) :
    first.Follows third where
  settled := hsecond.settled
  revision_le := by rw [hbuffer]; exact hfirst.revision_le
  same_text := by rw [hbuffer]; exact hfirst.same_text
  ghost ghost hghost := by
    rcases hsecond.ghost ghost hghost with hearlier | hnew
    · rw [hbuffer]
      exact hfirst.ghost ghost hearlier
    · exact .inr hnew

@[simp]
theorem buffer_setSuggestion (editor : Editor) (t : Text) :
    (editor.setSuggestion t).buffer = editor.buffer := by
  unfold setSuggestion
  dsimp only
  split <;> rfl

theorem follows_setSuggestion {editor : Editor} (hsettled : editor.Settled) (t : Text) :
    editor.Follows (editor.setSuggestion t) := by
  unfold setSuggestion
  dsimp only
  split
  next => exact (carries_clearSuggestion hsettled).follows
  next hshown =>
    have hpopup : editor.popup.isSome = false := by simp_all
    -- The suggestion that is shown now has been found for the text as it stands.
    refine ⟨⟨hsettled.seen, hsettled.within, ?_, ?_, ?_⟩, Nat.le_refl _, fun _ => rfl, ?_⟩
    · rintro ghost ⟨⟩
      rfl
    · rintro ghost ⟨⟩
      exact Nat.le_refl _
    · intro hlisted
      rw [hpopup] at hlisted
      cases hlisted
    · rintro ghost ⟨⟩
      exact .inr rfl

theorem carries_hover {editor : Editor} (hsettled : editor.Settled) (line column : Int)
    (held : Bool) : editor.Carries (editor.hover line column held).1 := by
  unfold hover
  split
  · exact .of_eq hsettled rfl rfl rfl hsettled.alone
  · dsimp only
    split <;> exact .of_eq hsettled rfl rfl rfl hsettled.alone

theorem carries_rest {editor : Editor} (hsettled : editor.Settled) :
    editor.Carries editor.rest.1 := by
  unfold rest
  split
  · exact .refl hsettled
  · dsimp only
    split <;> exact .of_eq hsettled rfl rfl rfl hsettled.alone

theorem carries_leave {editor : Editor} (hsettled : editor.Settled) :
    editor.Carries editor.leave :=
  .of_eq hsettled rfl rfl rfl hsettled.alone

theorem carries_updateSettings {editor : Editor} (hsettled : editor.Settled) (settings : Json) :
    editor.Carries (editor.updateSettings settings).1 := by
  unfold updateSettings
  split
  · exact .of_eq hsettled rfl rfl rfl hsettled.alone
  · exact .refl hsettled

theorem follows_perform {editor : Editor} (hsettled : editor.Settled) (event : EditorEvent) :
    editor.Follows (editor.perform event).1 := by
  cases event with
  | press press => exact (carries_press hsettled press).follows
  | select anchor position => exact (carries_select hsettled anchor position).follows
  | replace start stop t =>
      unfold perform
      dsimp only
      split
      next hpart => exact (carries_replace hsettled hpart.1 hpart.2 t).follows
      next => exact (Carries.refl hsettled).follows
  | setText t => exact (carries_setText hsettled t).follows
  | complete trigger => exact (carries_requestCompletion hsettled trigger).follows
  | list offers => exact (carries_showPopup hsettled offers).follows
  | leaveList => exact (carries_hidePopup hsettled).follows
  | move delta => exact (carries_moveSelection hsettled delta).follows
  | click row => exact (carries_click hsettled row).follows
  | accept => exact (carries_acceptCompletion hsettled).follows
  | insertOffer offer => exact (carries_insertOffer hsettled offer).follows
  | suggest t => exact follows_setSuggestion hsettled t
  | takeBack => exact (carries_clearSuggestion hsettled).follows
  | adopt => exact (carries_acceptSuggestion hsettled).follows
  | hover line column held => exact (carries_hover hsettled line column held).follows
  | rest => exact (carries_rest hsettled).follows
  | leave => exact (carries_leave hsettled).follows
  | updateSettings settings => exact (carries_updateSettings hsettled settings).follows

end Editor

end SchemaDesk
