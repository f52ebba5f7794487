import SchemaDesk.Proofs.WindowEvents

/-!
# Adopted suggestions

A suggestion is inserted where it was shown: the caret has not moved since. Whether
the text is still the one that it was shown for is not looked at, although what is
drawn tells: a suggestion is drawn exactly as long as the text has not changed.
-/

namespace SchemaDesk

namespace Editor

theorem mem_notices_replace {editor : Editor} {start stop : Nat} {t : Text}
    {notice : EditorNotice} (hmem : notice ∈ (editor.replace start stop t).2) :
    notice = .textChanged := by
  unfold replace at hmem
  split at hmem
  · cases hmem
  · exact List.mem_singleton.mp hmem

theorem mem_notices_insertOffer {editor : Editor} {offer : Offer} {notice : EditorNotice}
    (hmem : notice ∈ (editor.insertOffer offer).notices) : notice = .textChanged := by
  unfold insertOffer at hmem
  split at hmem
  · cases hmem
  · split at hmem
    · cases hmem
    · exact mem_notices_replace hmem

theorem adopted_not_mem_acceptCompletion (editor : Editor) (t : Text) :
    EditorNotice.adopted t ∉ editor.acceptCompletion.notices := by
  intro hmem
  unfold acceptCompletion at hmem
  split at hmem
  next => cases hmem
  next offer _ =>
    dsimp only at hmem
    split at hmem
    · cases mem_notices_insertOffer hmem
    · rcases List.mem_append.mp hmem with hinserted | hlabel
      · cases mem_notices_insertOffer hinserted
      · split at hlabel
        · cases hlabel
        · cases List.mem_singleton.mp hlabel

theorem mem_notices_typeKey {editor : Editor} {press : KeyPress} {notice : EditorNotice}
    (hmem : notice ∈ (editor.typeKey press).2) : notice = .textChanged := by
  have hremove {start stop : Nat} (hremoved : notice ∈ (editor.remove start stop).2) :
      notice = .textChanged := by
    unfold remove at hremoved
    dsimp only at hremoved
    split at hremoved <;> exact mem_notices_replace hremoved
  cases hkey : press.key <;> simp only [typeKey, hkey] at hmem
  case enter => exact mem_notices_replace hmem
  case backspace | delete => exact hremove hmem
  case space | character =>
    split at hmem
    · exact mem_notices_replace hmem
    · cases hmem
  all_goals cases hmem

theorem mem_notices_typeInto {editor : Editor} {press : KeyPress} {notice : EditorNotice}
    (hmem : notice ∈ (editor.typeInto press).2) :
    notice = .textChanged ∨ ∃ line column, notice = .edited line column := by
  unfold typeInto at hmem
  dsimp only at hmem
  split at hmem
  · exact .inl (mem_notices_typeKey hmem)
  · rcases List.mem_append.mp hmem with htyped | hedited
    · exact .inl (mem_notices_typeKey htyped)
    · exact .inr ⟨_, _, List.mem_singleton.mp hedited⟩

theorem adopted_not_mem_command (editor : Editor) (press : KeyPress) (t : Text) :
    EditorNotice.adopted t ∉ (editor.command press).notices := by
  intro hmem
  unfold command at hmem
  split at hmem
  · cases hmem
  · split at hmem
    · split at hmem
      · cases hmem
      · cases mem_notices_replace hmem
    · obtain hchanged | ⟨line, column, hedited⟩ := mem_notices_typeInto hmem
      · cases hchanged
      · cases hedited

/-- The editor once it has adopted a suggestion that it showed. -/
def Adopts (editor after : Editor) (t : Text) : Prop :=
  ∃ ghost, editor.ghost = some ghost ∧ ghost.text = t ∧
    after = (editor.clearSuggestion.insert t).1

theorem adopts_of_mem_acceptSuggestion {editor : Editor} {t : Text}
    (hmem : .adopted t ∈ editor.acceptSuggestion.2.1) :
    editor.Adopts editor.acceptSuggestion.1 t := by
  unfold acceptSuggestion at hmem ⊢
  cases hghost : editor.ghost with
  | none => simp [hghost] at hmem
  | some ghost =>
      simp only [hghost] at hmem
      rcases List.mem_append.mp hmem with hinserted | hadopted
      · cases mem_notices_replace hinserted
      · cases List.mem_singleton.mp hadopted
        exact ⟨ghost, hghost, rfl, rfl⟩

theorem adopts_of_mem_pressOverGhost {editor : Editor} {press : KeyPress} {t : Text}
    (hmem : .adopted t ∈ (editor.pressOverGhost press).notices) :
    editor.Adopts (editor.pressOverGhost press).editor t := by
  unfold pressOverGhost at hmem ⊢
  split at hmem
  next htab =>
    rw [if_pos htab]
    exact adopts_of_mem_acceptSuggestion hmem
  next htab =>
    split at hmem
    · cases hmem
    · exact absurd hmem (adopted_not_mem_command editor press t)

theorem adopts_of_mem_press {editor : Editor} {press : KeyPress} {t : Text}
    (hmem : .adopted t ∈ (editor.press press).notices) :
    editor.Adopts (editor.press press).editor t := by
  obtain ⟨delta, hpress⟩ | hpress | ⟨-, hnotices⟩ | hpress := press_cases editor press
  · rw [hpress] at hmem
    cases hmem
  · rw [hpress] at hmem
    cases hmem
  · rw [hnotices] at hmem
    exact absurd hmem (adopted_not_mem_acceptCompletion editor t)
  · rw [hpress] at hmem ⊢
    exact adopts_of_mem_pressOverGhost hmem

/-- Only a suggestion that is shown is ever adopted. -/
theorem adopts_of_mem_perform {editor : Editor} {event : EditorEvent} {t : Text}
    (hmem : .adopted t ∈ (editor.perform event).2) :
    editor.Adopts (editor.perform event).1 t := by
  cases event with
  | press press => exact adopts_of_mem_press hmem
  | replace start stop put =>
      simp only [perform] at hmem
      split at hmem
      · cases mem_notices_replace hmem
      · cases hmem
  | setText put => cases List.mem_singleton.mp hmem
  | click row => exact absurd hmem (adopted_not_mem_acceptCompletion _ t)
  | accept => exact absurd hmem (adopted_not_mem_acceptCompletion editor t)
  | insertOffer offer => cases mem_notices_insertOffer hmem
  | adopt => exact adopts_of_mem_acceptSuggestion hmem
  | _ => cases hmem

/-- A suggestion that is shown is drawn as long as the text is the one it was found for. -/
theorem drawn?_isSome_iff {editor : Editor} (hsettled : editor.Settled) {ghost : Ghost}
    (hghost : editor.ghost = some ghost) :
    editor.drawn?.isSome ↔ editor.buffer.revision = ghost.revision := by
  have hpopup : editor.popup.isSome = false := by
    cases hlisted : editor.popup.isSome with
    | false => rfl
    | true =>
        rw [hsettled.alone hlisted] at hghost
        cases hghost
  have hposition := hsettled.ghost_position ghost hghost
  have hlines := Text.splitWhere_ne_nil (· == '\n') ghost.text
  rw [← Text.splitLines] at hlines
  simp only [drawn?, hghost, hpopup, hposition]
  cases hsame : editor.buffer.revision != ghost.revision with
  | true => simpa using hsame
  | false =>
      simp only [bne_eq_false_iff_eq] at hsame
      simp only [hsame, bne_self_eq_false, Bool.or_self, Bool.false_eq_true, if_false, iff_true]
      split
      next hnone => exact absurd hnone hlines
      next => rfl
      next => rfl

end Editor

namespace Window

/-- From one state of a run to a later one, the text is the same if the revision is. -/
theorem revision_after {window : Window} (hsettled : window.editor.Settled)
    (events : List WindowEvent) :
    window.editor.buffer.revision ≤ (Run.after step window events).editor.buffer.revision ∧
      ((Run.after step window events).editor.buffer.revision = window.editor.buffer.revision →
        (Run.after step window events).text = window.text) := by
  induction events using List.reverseRecOn with
  | nil => exact ⟨Nat.le_refl _, fun _ => rfl⟩
  | append_singleton events event ih =>
      have hfollows := (step_cases (settled_after hsettled events) event).1
      rw [Run.after_concat]
      -- Revisions only grow: if the first and the last are the same, so are all between.
      refine ⟨Nat.le_trans ih.1 hfollows.revision_le, ?_⟩
      intro hsame
      have hle := ih.1
      have hle' := hfollows.revision_le
      rw [Window.text, hfollows.same_text (by omega), ← ih.2 (by omega)]
      rfl

/-- No event of a run changes the document. -/
def Unedited (window : Window) (events : List WindowEvent) : Prop :=
  ∀ part, part <+: events →
    (Run.after step window part).editor.buffer.revision = window.editor.buffer.revision

theorem unedited_iff {window : Window} (hsettled : window.editor.Settled)
    (events : List WindowEvent) :
    window.Unedited events ↔
      (Run.after step window events).editor.buffer.revision = window.editor.buffer.revision := by
  refine ⟨fun hunedited => hunedited events (List.prefix_refl _), ?_⟩
  rintro hsame part ⟨rest, rfl⟩
  have hfirst := (revision_after hsettled part).1
  have hrest := (revision_after (settled_after hsettled part) rest).1
  rw [Run.after_append] at hsame
  omega

theorem editor_step_edit (window : Window) (event : EditorEvent) :
    (window.step (.edit event)).editor = (window.editor.perform event).1 := by
  obtain ⟨assistant, hstep⟩ := window.withEditor_eq (window.editor.perform event)
  rw [step, hstep]

/-- What is shown at the end of a run came up at an event, for the text and the caret as
they were then, and has been shown since. -/
theorem exists_shown {start : Window} (hsettled : start.editor.Settled)
    (hnone : start.editor.ghost = none) (events : List WindowEvent) {ghost : Ghost}
    (hghost : (Run.after step start events).editor.ghost = some ghost) :
    ∃ before shown since, events = before ++ shown :: since ∧
      (Run.after step start before).editor.ghost ≠ some ghost ∧
      (Run.after step start (before ++ [shown])).editor.ghost = some ghost ∧
      (Run.after step start (before ++ [shown])).editor.buffer.revision = ghost.revision ∧
      (Run.after step start (before ++ [shown])).editor.buffer.caret.position =
        ghost.position := by
  obtain ⟨before, shown, since, rfl, hbefore, hsince⟩ :=
    Run.exists_onset step start (fun window => window.editor.ghost = some ghost)
      (by simp [hnone]) events hghost
  have hthen : (Run.after step start (before ++ [shown])).editor.ghost = some ghost :=
    hsince [] List.nil_prefix
  have hfollows := (step_cases (settled_after hsettled before) shown).1
  rw [← Run.after_concat step start] at hfollows
  refine ⟨before, shown, since, rfl, hbefore, hthen, ?_, ?_⟩
  · rcases hfollows.ghost ghost hthen with hearlier | hnew
    · exact absurd hearlier hbefore
    · exact hnew.symm
  · exact (hfollows.settled.ghost_position ghost hthen).symm

/-- A suggestion is adopted where the caret was when it was shown, and whether or not the
document has been edited since. It has not exactly if the suggestion was drawn to the
last. -/
theorem adopted_unedited_iff_drawn {settings : SettingsStore} {environment : Environment}
    {document filePath : Text} {start : Window}
    (hopen : openOn settings environment document filePath = .ok start)
    (events : List WindowEvent) {event : EditorEvent} {t : Text}
    (hadopted : .adopted t ∈ ((Run.after step start events).editor.perform event).2) :
    ∃ ghost before shown since, events = before ++ shown :: since ∧
      (Run.after step start before).editor.ghost ≠ some ghost ∧
      (Run.after step start (before ++ [shown])).editor.ghost = some ghost ∧
      ghost.text = t ∧
      (Run.after step start (before ++ [shown])).editor.buffer.caret.position =
        (Run.after step start events).editor.buffer.caret.position ∧
      ((Run.after step start events).step (.edit event)).text =
        (Run.after step start events).text.take
            (Run.after step start events).editor.buffer.caret.start ++
          Text.dropReturnBeforeFeed t ++
          (Run.after step start events).text.drop
            (Run.after step start events).editor.buffer.caret.stop ∧
      ((Run.after step start (before ++ [shown])).Unedited since ↔
        (Run.after step start events).editor.drawn?.isSome) ∧
      ((Run.after step start events).editor.drawn?.isSome →
        (Run.after step start events).text =
          (Run.after step start (before ++ [shown])).text) := by
  obtain ⟨hstart, hnone, -⟩ := openOn_eq_ok hopen
  have hsettled := settled_after hstart events
  obtain ⟨ghost, hghost, htext, hafter⟩ := Editor.adopts_of_mem_perform hadopted
  obtain ⟨before, shown, since, hevents, hbefore, hthen, hrevision, hposition⟩ :=
    exists_shown hstart hnone events hghost
  -- The rest of the run starts where the suggestion came up.
  have hsince : Run.after step start events =
      Run.after step (Run.after step start (before ++ [shown])) since := by
    rw [← Run.after_append, hevents]
    simp
  have hsettledThen := settled_after hstart (before ++ [shown])
  have hdrawn := Editor.drawn?_isSome_iff hsettled hghost
  have hunedited := unedited_iff hsettledThen since
  rw [← hsince, hrevision] at hunedited
  refine ⟨ghost, before, shown, since, hevents, hbefore, hthen, htext, ?_, ?_, ?_, ?_⟩
  · rw [hposition, hsettled.ghost_position ghost hghost]
  · rw [Window.text, editor_step_edit, hafter]
    exact Editor.text_replace ..
  · rw [hunedited, hdrawn]
  · intro hshown
    have hsame := (revision_after hsettledThen since).2
    rw [← hsince, hrevision] at hsame
    exact hsame (hdrawn.mp hshown)

/-- The tabulator key, which adopts a suggestion. -/
def tabPress : EditorEvent :=
  .press { key := .tab, text := ['\t'] }

/-- The key that removes the character behind the caret. -/
def deletePress : EditorEvent :=
  .press { key := .delete, text := ['\x7f'] }

theorem adopted_while_drawn :
    ∃ start before shown since, openOn .bare (fun _ => none) "model A {}".toList [] = .ok start ∧
      EditorNotice.adopted "enum B {}".toList ∈ ((Run.after step start
        [.edit (.suggest "enum B {}".toList)]).editor.perform tabPress).2 ∧
      [.edit (.suggest "enum B {}".toList)] = before ++ shown :: since ∧
      (Run.after step start (before ++ [shown])).Unedited since := by
  have hopen : openOn .bare (fun _ => none) "model A {}".toList [] = .ok _ := rfl
  obtain ⟨ghost, before, shown, since, hevents, -, -, -, -, -, hunedited, -⟩ :=
    adopted_unedited_iff_drawn hopen [.edit (.suggest "enum B {}".toList)]
      (by decide +kernel : EditorNotice.adopted "enum B {}".toList ∈ ((Run.after step _
        [.edit (.suggest "enum B {}".toList)]).editor.perform tabPress).2)
  refine ⟨_, before, shown, since, hopen, ?_, hevents, hunedited.mpr ?_⟩ <;> decide +kernel

/-- The text behind the caret is removed while a suggestion is shown: the caret stays, so
the suggestion is adopted all the same. -/
theorem adopted_after_delete :
    ∃ start, openOn .bare (fun _ => none) "model A {}".toList [] = .ok start ∧
      EditorNotice.adopted "enum B {}".toList ∈ ((Run.after step start
        [.edit (.suggest "enum B {}".toList), .edit deletePress]).editor.perform tabPress).2 ∧
      (Run.after step start [.edit (.suggest "enum B {}".toList), .edit deletePress]).text ≠
        (Run.after step start [.edit (.suggest "enum B {}".toList)]).text := by
  refine ⟨_, rfl, ?_, ?_⟩ <;> decide +kernel

end Window

end SchemaDesk
