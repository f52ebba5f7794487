import SchemaDesk.Proofs.AssistEvents
import SchemaDesk.Proofs.EditorEvents
import SchemaDesk.Proofs.Run
import SchemaDesk.Window

/-!
# Events of a window

Everything that happens to a window, in any order: edits, suggestions that arrive,
requests to the assistant and to the formatter, their jobs and answers, and files.
Each part of the window changes only with the events that concern it, and the
editor follows its earlier states through all of them.
-/

namespace SchemaDesk

/-- A store without any settings. -/
def SettingsStore.bare : SettingsStore where
  path := .ofText []
  defaults := []
  data := []

/-- What happens to a window. Formatting may have any outcome, and the assistant may
answer in any order. -/
inductive WindowEvent where
  | edit (event : EditorEvent)
  | suggest (payload : Fields)
  | ask
  | rest
  | beginAnswer
  | finishAnswer (number : Nat) (provider : ChatProvider)
  | drainAnswers
  | requestFormat
  | beginFormat
  | finishFormat (run : FormatJob → Except Fault FormatRun)
  | drainFormat
  | load (files : Files) (path : Text)
  | openDocument (files : Files) (chosen current : Text)
  | save (files : Files) (chosen current : Text)
  | saveAs (files : Files) (chosen current : Text)
  | close (files : Files)

namespace Window

/-- The window after an event. -/
def step (window : Window) : WindowEvent → Window
  | .edit event => (window.withEditor (window.editor.perform event)).1
  | .suggest payload => (window.showSuggestion payload).1
  | .ask => window.askAssistant.1
  | .rest => (window.withAssistant (window.assistant.step (.fire editorName))).1
  | .beginAnswer => { window with assistant := (window.assistant.step .begin).1 }
  | .finishAnswer number provider =>
    { window with assistant := (window.assistant.step (.finish number provider)).1 }
  | .drainAnswers => (window.drainAssistant?.map (·.1)).getD window
  | .requestFormat => window.requestFormat.1
  | .beginFormat => { window with formatting := window.formatting.begin?.getD window.formatting }
  | .finishFormat run =>
    { window with
      formatting := ((window.formatting.finish? run).map (·.1)).getD window.formatting }
  | .drainFormat => (window.drainFormat?.map (·.1)).getD window
  | .load files path => (window.load files path).window
  | .openDocument files chosen current => (window.openDocument files chosen current).window
  | .save files chosen current => (window.save files chosen current).window
  | .saveAs files chosen current => (window.saveAs files chosen current).window
  | .close files => (window.close files).1

/-! ## What is heard from the assistant -/

/-- Only the suggestion that is shown changes with a suggestion that arrives. -/
theorem showSuggestion_eq (window : Window) (payload : Fields) :
    ∃ editor, (window.showSuggestion payload).1 = { window with editor } ∧
      editor.buffer = window.editor.buffer ∧
      (window.editor.Settled → window.editor.Follows editor) := by
  have hsame (hsettled : window.editor.Settled) : window.editor.Follows window.editor :=
    (Editor.Carries.refl hsettled).follows
  unfold showSuggestion
  split
  · exact ⟨_, rfl, rfl, hsame⟩
  · dsimp only
    split
    · exact ⟨_, rfl, rfl, fun hsettled => (Editor.carries_clearSuggestion hsettled).follows⟩
    · split
      · split
        · exact ⟨_, rfl, Editor.buffer_setSuggestion _ _,
            fun hsettled => Editor.follows_setSuggestion hsettled _⟩
        · exact ⟨_, rfl, rfl, hsame⟩
      · exact ⟨_, rfl, rfl, hsame⟩
      · exact ⟨_, rfl, rfl, hsame⟩

/-- The same for all that the assistant announces. -/
theorem hear_eq (window : Window) (notices : List AssistNotice) :
    ∃ editor, (window.hear notices).1 = { window with editor } ∧
      editor.buffer = window.editor.buffer ∧
      (window.editor.Settled → window.editor.Follows editor) := by
  induction notices generalizing window with
  | nil => exact ⟨_, rfl, rfl, fun hsettled => (Editor.Carries.refl hsettled).follows⟩
  | cons notice rest ih =>
      cases notice with
      | suggestion payload =>
          obtain ⟨shown, hshown, hbuffer, hfollows⟩ := window.showSuggestion_eq payload
          obtain ⟨editor, heditor, hsame, hlater⟩ := ih { window with editor := shown }
          have hhear : (window.hear (.suggestion payload :: rest)).1 =
              ((window.showSuggestion payload).1.hear rest).1 := rfl
          rw [hhear, hshown, heditor]
          refine ⟨editor, rfl, hsame.trans hbuffer, fun hsettled => ?_⟩
          have hfirst := hfollows hsettled
          exact hfirst.trans (hlater hfirst.settled) hsame
      | configError message => exact ih window
      | status message => exact ih window

theorem hear_of_no_suggestion {window : Window} {notices : List AssistNotice}
    (hnotices : ∀ payload, AssistNotice.suggestion payload ∉ notices) :
    (window.hear notices).1 = window := by
  induction notices with
  | nil => rfl
  | cons notice rest ih =>
      have hrest := ih fun payload hmem => hnotices payload (List.mem_cons_of_mem _ hmem)
      cases notice with
      | suggestion payload => exact absurd List.mem_cons_self (hnotices payload)
      | configError message => exact hrest
      | status message => exact hrest

/-! ## What is heard from the editor -/

theorem noteEditor_eq (window : Window) (notice : EditorNotice) :
    ∃ assistant, (window.noteEditor notice).1 = { window with assistant } := by
  cases notice with
  | edited line column =>
      have hquiet := window.assistant.suggestion_not_mem_step_request .passive editorName
        window.text (.int line) (.int column)
      simp only [noteEditor]
      split
      next change hchange =>
        refine ⟨change.1, hear_of_no_suggestion ?_⟩
        simpa [AssistSession.step, hchange, Except.toOption] using hquiet
      next => exact ⟨_, rfl⟩
  | _ => exact ⟨_, rfl⟩

/-- Only the assistant learns what the editor announces, and it answers later. -/
theorem noteEach_eq (window : Window) (notices : List EditorNotice) :
    ∃ assistant, (window.noteEach notices).1 = { window with assistant } := by
  induction notices generalizing window with
  | nil => exact ⟨_, rfl⟩
  | cons notice rest ih =>
      obtain ⟨told, htold⟩ := window.noteEditor_eq notice
      obtain ⟨assistant, hassistant⟩ := ih { window with assistant := told }
      have hnote : (window.noteEach (notice :: rest)).1 =
          ((window.noteEditor notice).1.noteEach rest).1 := rfl
      rw [hnote, htold, hassistant]
      exact ⟨assistant, rfl⟩

theorem withEditor_eq (window : Window) (change : Editor × List EditorNotice) :
    ∃ assistant, (window.withEditor change).1 =
      { window with editor := change.1, assistant } :=
  noteEach_eq { window with editor := change.1 } change.2

theorem withAssistant_eq (window : Window) (change : AssistSession × List AssistNotice) :
    ∃ editor, (window.withAssistant change).1 = { window with editor, assistant := change.1 } ∧
      editor.buffer = window.editor.buffer ∧
      (window.editor.Settled → window.editor.Follows editor) :=
  hear_eq { window with assistant := change.1 } change.2

/-! ## The formatted document -/

/-- A document that is put in place is the text as buffers hold it, and the caret keeps
its offset as far as that text reaches. -/
theorem replaceDocument_eq (window : Window) (hsettled : window.editor.Settled) (t : Text) :
    ∃ editor assistant, (window.replaceDocument t).1 = { window with editor, assistant } ∧
      window.editor.Carries editor ∧
      editor.buffer.text = Text.dropReturnBeforeFeed t ∧
      editor.buffer.caret = .atOffset
        (min window.editor.buffer.caret.position (Text.dropReturnBeforeFeed t).length) := by
  have hreplace := Editor.carries_replace hsettled (Nat.zero_le _) (Nat.le_refl _) t
  have hshorter := Text.length_dropReturnBeforeFeed_le t
  have htext : (window.editor.replace 0 window.text.length t).1.buffer.text =
      Text.dropReturnBeforeFeed t := by
    rw [Editor.text_replace]
    simp [Window.text]
  have hcaret := Editor.caret_replace_all hsettled t
  have hmoved : (window.editor.replace 0 window.text.length t).1.buffer.caret.moveTo
      (window.editor.replace 0 window.text.length t).1.buffer.text.length
      (min window.editor.buffer.caret.position t.length) =
        .atOffset (min window.editor.buffer.caret.position
          (Text.dropReturnBeforeFeed t).length) := by
    rw [htext]
    unfold Caret.moveTo
    split
    next hinside => exact congrArg Caret.atOffset (by omega)
    next houtside =>
      rw [Window.text, hcaret]
      exact congrArg Caret.atOffset (by omega)
  obtain ⟨assistant, hassistant⟩ := window.withEditor_eq
    ((window.editor.replace 0 window.text.length t).1.withCaret
      (.atOffset (min window.editor.buffer.caret.position (Text.dropReturnBeforeFeed t).length)),
      (window.editor.replace 0 window.text.length t).2)
  rw [← hmoved] at hassistant
  refine ⟨_, assistant, hassistant, ?_, ?_, ?_⟩ <;> rw [hmoved]
  · refine hreplace.trans (Editor.carries_withCaret hreplace.settled ?_)
    exact Caret.within_atOffset (htext ▸ Nat.min_le_right ..)
  · simpa [Editor.withCaret] using htext
  · simp [Editor.withCaret]

/-- An outcome either takes the place of the document or leaves the editor alone. -/
theorem showOutcome_cases (window : Window) (source : Text) (outcome : FormatOutcome) :
    ∃ formatLabel,
      (source = window.text ∧ outcome.mode ≠ .failed ∧ outcome.text ≠ window.text ∧
        (window.showOutcome source outcome).1 =
          ({ window with formatLabel }.replaceDocument outcome.text).1) ∨
      (¬ (source = window.text ∧ outcome.mode ≠ .failed ∧ outcome.text ≠ window.text) ∧
        (window.showOutcome source outcome).1 = { window with formatLabel }) := by
  unfold showOutcome
  split
  next hsource => exact ⟨_, .inr ⟨fun hfits => hsource hfits.1, rfl⟩⟩
  next hsource =>
    dsimp only
    split
    next hfailed =>
      refine ⟨_, .inr ⟨fun hfits => hfits.2.1 ?_, rfl⟩⟩
      simpa [FormatOutcome.changesDocument] using hfailed
    next hchanges =>
      split
      next hsame => exact ⟨_, .inr ⟨fun hfits => hfits.2.2 hsame, rfl⟩⟩
      next hother =>
        refine ⟨_, .inl ⟨by simpa using hsource, ?_, hother, rfl⟩⟩
        simpa [FormatOutcome.changesDocument] using hchanges

theorem showOutcome_eq (window : Window) (hsettled : window.editor.Settled) (source : Text)
    (outcome : FormatOutcome) :
    ∃ editor assistant formatLabel, (window.showOutcome source outcome).1 =
        { window with editor, assistant, formatLabel } ∧ window.editor.Carries editor := by
  obtain ⟨formatLabel, ⟨-, -, -, hshown⟩ | ⟨-, hshown⟩⟩ := window.showOutcome_cases source outcome
  · obtain ⟨editor, assistant, hplaced, hcarries, -⟩ :=
      replaceDocument_eq { window with formatLabel } hsettled outcome.text
    exact ⟨editor, assistant, formatLabel, hshown.trans hplaced, hcarries⟩
  · exact ⟨_, _, formatLabel, hshown, .refl hsettled⟩

theorem showEach_eq (window : Window) (hsettled : window.editor.Settled)
    (tickets : List FormatTicket) :
    ∃ editor assistant formatLabel, (window.showEach tickets).1 =
        { window with editor, assistant, formatLabel } ∧ window.editor.Carries editor := by
  induction tickets generalizing window with
  | nil => exact ⟨_, _, _, rfl, .refl hsettled⟩
  | cons ticket rest ih =>
      obtain ⟨shown, told, label, hshown, hfirst⟩ :=
        window.showOutcome_eq hsettled ticket.source ticket.outcome
      obtain ⟨editor, assistant, formatLabel, hrest, hlater⟩ :=
        ih { window with editor := shown, assistant := told, formatLabel := label }
          hfirst.settled
      have hshow : (window.showEach (ticket :: rest)).1 =
          ((window.showOutcome ticket.source ticket.outcome).1.showEach rest).1 := rfl
      rw [hshow, hshown, hrest]
      exact ⟨editor, assistant, formatLabel, rfl, hfirst.trans hlater⟩

/-! ## Files -/

theorem showSuggestion_takenBack (window : Window) (key : Text) (token : Nat) :
    ∃ editor, (window.showSuggestion (AssistSession.takenBack key token)).1 =
        { window with editor } ∧ (window.editor.Settled → window.editor.Carries editor) := by
  have htext : (AssistSession.takenBack key token).get "text" = .str [] := rfl
  simp only [showSuggestion, htext]
  split
  · exact ⟨_, rfl, Editor.Carries.refl⟩
  · exact ⟨_, rfl, Editor.carries_clearSuggestion⟩

theorem hear_takenBack (window : Window) {notices : List AssistNotice}
    (hnotices : ∀ payload, .suggestion payload ∈ notices →
      ∃ key token, payload = AssistSession.takenBack key token) :
    ∃ editor, (window.hear notices).1 = { window with editor } ∧
      (window.editor.Settled → window.editor.Carries editor) := by
  induction notices generalizing window with
  | nil => exact ⟨_, rfl, Editor.Carries.refl⟩
  | cons notice rest ih =>
      have hrest : ∀ payload, .suggestion payload ∈ rest →
          ∃ key token, payload = AssistSession.takenBack key token :=
        fun payload hmem => hnotices payload (List.mem_cons_of_mem _ hmem)
      cases notice with
      | suggestion payload =>
          obtain ⟨key, token, rfl⟩ := hnotices payload List.mem_cons_self
          obtain ⟨shown, hshown, hfirst⟩ := window.showSuggestion_takenBack key token
          obtain ⟨editor, heditor, hlater⟩ := ih { window with editor := shown } hrest
          have hhear : (window.hear (.suggestion (AssistSession.takenBack key token) :: rest)).1 =
              ((window.showSuggestion (AssistSession.takenBack key token)).1.hear rest).1 := rfl
          rw [hhear, hshown, heditor]
          refine ⟨editor, rfl, fun hsettled => ?_⟩
          exact (hfirst hsettled).trans (hlater (hfirst hsettled).settled)
      | configError message => exact ih window hrest
      | status message => exact ih window hrest

theorem load_eq (window : Window) (files : Files) (path : Text)
    (refusal : Option Files.Refusal) :
    ∃ editor assistant filePath, (window.load files path refusal).window =
        { window with editor, assistant, filePath } ∧
      (window.editor.Settled → window.editor.Carries editor) := by
  have hsame : ∃ editor assistant filePath, window = { window with editor, assistant, filePath } ∧
      (window.editor.Settled → window.editor.Carries editor) :=
    ⟨_, _, _, rfl, Editor.Carries.refl⟩
  unfold load
  split
  · unfold afterFault
    split <;> exact hsame
  · split
    · exact hsame
    next t _ =>
      have hcancel : ∀ payload,
          .suggestion payload ∈ (window.assistant.cancelFor editorName true).2 →
            ∃ key token, payload = AssistSession.takenBack key token :=
        fun _ => AssistSession.takenBack_of_mem_cancelFor
      obtain ⟨shown, hshown, hfirst⟩ := hear_takenBack
        { window with assistant := (window.assistant.cancelFor editorName true).1 } hcancel
      have hheard : (window.withAssistant (window.assistant.cancelFor editorName true)).1 =
          { window with
            editor := shown, assistant := (window.assistant.cancelFor editorName true).1 } :=
        hshown
      obtain ⟨assistant, hset⟩ := withEditor_eq
        { window with
          editor := shown, assistant := (window.assistant.cancelFor editorName true).1 }
        (shown.setText (Text.unifyLineEnds t))
      refine ⟨(shown.setText (Text.unifyLineEnds t)).1, assistant, path, ?_, fun hsettled => ?_⟩
      · dsimp only
        rw [hheard, hset]
      · have hcleared := hfirst hsettled
        exact hcleared.trans (Editor.carries_setText hcleared.settled _)

theorem openDocument_eq (window : Window) (files : Files) (chosen current : Text)
    (refusal : Option Files.Refusal) :
    ∃ editor assistant filePath, (window.openDocument files chosen current refusal).window =
        { window with editor, assistant, filePath } ∧
      (window.editor.Settled → window.editor.Carries editor) := by
  unfold openDocument
  dsimp only
  split
  · exact ⟨_, _, _, rfl, Editor.Carries.refl⟩
  · exact window.load_eq files chosen refusal

/-- Saving changes at most the path of the document. -/
theorem saveHere_eq (window : Window) (files : Files) (broken : Option Files.BrokenWrite) :
    (window.saveHere files broken).window = window := by
  unfold saveHere
  dsimp only
  split
  · rfl
  · unfold afterFault
    split <;> rfl

theorem saveAs_eq (window : Window) (files : Files) (chosen current : Text)
    (broken : Option Files.BrokenWrite) :
    ∃ filePath, (window.saveAs files chosen current broken).window =
      { window with filePath } := by
  unfold saveAs
  dsimp only
  split
  · exact ⟨_, rfl⟩
  · exact ⟨chosen, saveHere_eq { window with filePath := chosen } files broken⟩

theorem save_eq (window : Window) (files : Files) (chosen current : Text)
    (broken : Option Files.BrokenWrite) :
    ∃ filePath, (window.save files chosen current broken).window = { window with filePath } := by
  unfold save
  split
  · exact window.saveAs_eq files chosen current broken
  · exact ⟨_, window.saveHere_eq files broken⟩

theorem close_eq (window : Window) (files : Files) :
    ∃ settings, (window.close files).1 =
      { window with
        settings, assistant := window.assistant.shutdown
        formatting := window.formatting.shutdown } := by
  unfold close
  dsimp only
  split
  · split <;> exact ⟨_, rfl⟩
  · exact ⟨_, rfl⟩

/-! ## Steps -/

theorem step_drainFormat {window : Window} {formatting : FormatSession}
    {tickets : List FormatTicket} (hdrain : window.formatting.drain? = some (formatting, tickets)) :
    window.step .drainFormat = ({ window with formatting }.showEach tickets).1 := by
  simp [step, drainFormat?, hdrain]

theorem askAssistant_eq (window : Window) :
    ∃ editor assistant, window.askAssistant.1 = { window with editor, assistant } ∧
      (window.editor.Settled → window.editor.Follows editor) := by
  unfold askAssistant
  dsimp only
  split
  next change _ =>
    obtain ⟨editor, heditor, -, hfollows⟩ := window.withAssistant_eq change
    exact ⟨editor, _, heditor, hfollows⟩
  next => exact ⟨_, _, rfl, fun hsettled => (Editor.Carries.refl hsettled).follows⟩

/-- The formatting session after an event. -/
def formattingAfter (window : Window) : WindowEvent → FormatSession
  | .requestFormat => window.requestFormat.1.formatting
  | .beginFormat => window.formatting.begin?.getD window.formatting
  | .finishFormat run => ((window.formatting.finish? run).map (·.1)).getD window.formatting
  | .drainFormat => (window.formatting.drain?.map (·.1)).getD window.formatting
  | .close _ => window.formatting.shutdown
  | _ => window.formatting

/-- Through every event the editor follows its earlier state, and the formatting session
is left alone by all that is not about formatting. -/
theorem step_cases {window : Window} (hsettled : window.editor.Settled) (event : WindowEvent) :
    window.editor.Follows (window.step event).editor ∧
      (window.step event).formatting = window.formattingAfter event := by
  have hsame := (Editor.Carries.refl hsettled).follows
  cases event with
  | edit event =>
      obtain ⟨assistant, hstep⟩ := window.withEditor_eq (window.editor.perform event)
      rw [step, hstep]
      exact ⟨Editor.follows_perform hsettled event, rfl⟩
  | suggest payload =>
      obtain ⟨editor, hstep, -, hfollows⟩ := window.showSuggestion_eq payload
      rw [step, hstep]
      exact ⟨hfollows hsettled, rfl⟩
  | ask =>
      obtain ⟨editor, assistant, hstep, hfollows⟩ := window.askAssistant_eq
      rw [step, hstep]
      exact ⟨hfollows hsettled, rfl⟩
  | rest =>
      obtain ⟨editor, hstep, -, hfollows⟩ :=
        window.withAssistant_eq (window.assistant.step (.fire editorName))
      rw [step, hstep]
      exact ⟨hfollows hsettled, rfl⟩
  | drainAnswers =>
      cases hdrain : window.assistant.drain? with
      | none => simpa [step, formattingAfter, drainAssistant?, hdrain] using hsame
      | some change =>
          obtain ⟨editor, hstep, -, hfollows⟩ := window.withAssistant_eq change
          simp only [step, drainAssistant?, hdrain, Option.map_some, Option.getD_some, hstep]
          exact ⟨hfollows hsettled, rfl⟩
  | drainFormat =>
      cases hdrain : window.formatting.drain? with
      | none => simpa [step, formattingAfter, drainFormat?, hdrain] using hsame
      | some drained =>
          obtain ⟨editor, assistant, formatLabel, hstep, hcarries⟩ :=
            showEach_eq { window with formatting := drained.1 } hsettled drained.2
          rw [step_drainFormat hdrain, hstep, formattingAfter, hdrain]
          exact ⟨hcarries.follows, rfl⟩
  | load files path =>
      obtain ⟨editor, assistant, filePath, hstep, hcarries⟩ := window.load_eq files path none
      rw [step, hstep]
      exact ⟨(hcarries hsettled).follows, rfl⟩
  | openDocument files chosen current =>
      obtain ⟨editor, assistant, filePath, hstep, hcarries⟩ :=
        window.openDocument_eq files chosen current none
      rw [step, hstep]
      exact ⟨(hcarries hsettled).follows, rfl⟩
  | save files chosen current =>
      obtain ⟨filePath, hstep⟩ := window.save_eq files chosen current none
      rw [step, hstep]
      exact ⟨hsame, rfl⟩
  | saveAs files chosen current =>
      obtain ⟨filePath, hstep⟩ := window.saveAs_eq files chosen current none
      rw [step, hstep]
      exact ⟨hsame, rfl⟩
  | close files =>
      obtain ⟨settings, hstep⟩ := window.close_eq files
      rw [step, hstep]
      exact ⟨hsame, rfl⟩
  | _ => exact ⟨hsame, rfl⟩

theorem settled_after {start : Window} (hsettled : start.editor.Settled)
    (events : List WindowEvent) : (Run.after step start events).editor.Settled :=
  Run.after_induction step start (fun _ window => window.editor.Settled) hsettled
    (fun _ event hwindow => (step_cases hwindow event).1.settled) events

/-- A window that has just been opened shows no suggestion, and nothing has been asked of
its formatter yet. -/
theorem openOn_eq_ok {settings : SettingsStore} {environment : Environment}
    {document filePath : Text} {window : Window}
    (hopen : openOn settings environment document filePath = .ok window) :
    window.editor.Settled ∧ window.editor.ghost = none ∧ window.formatting = {} := by
  obtain ⟨editor, hnew, hopen⟩ := bind_eq_ok hopen
  obtain ⟨formatterSettings, -, hopen⟩ := bind_eq_ok hopen
  obtain ⟨formatter, -, hopen⟩ := bind_eq_ok hopen
  obtain ⟨assistantSettings, -, hopen⟩ := bind_eq_ok hopen
  cases hopen
  exact ⟨Editor.settled_new hnew, by rw [Editor.new_eq_ok hnew], rfl⟩

end Window

end SchemaDesk
