import SchemaDesk.Proofs.SuggestionSequence

/-!
# Stale answers

An answer is stale if its number is not the latest one of its editor when it is looked at. What
a stale answer suggests is dropped, and so is what it says of a failure. But if it blames the
settings it is heard as any other: it is announced and noted, unless the same has been said
before under these settings.
-/

namespace SchemaDesk

namespace AssistSession

/-- What a complaint about the settings says, without white space around it. -/
def complaint (message : Text) : Text :=
  if (Text.strip message).isEmpty then "AI completion is not configured.".toList
  else Text.strip message

theorem complain_eq (session : AssistSession) (message : Text) :
    session.complain message =
      if complaint message ∈ session.reported then (session, [])
      else ({ session with reported := session.reported ++ [complaint message] },
        [.configError (complaint message)]) := by
  unfold complain complaint
  generalize Text.strip message = t
  simp only [List.contains_iff_mem]

/-- Nothing comes of looking at an answer: nothing is announced, what editors keep stays, and
so do the complaints that have been announced. -/
structure Ignores (session : AssistSession) (answer : AssistAnswer) : Prop where
  notices : (session.settle answer answer.toFields).2 = []
  caches : ∀ editor,
    (session.settle answer answer.toFields).1.cacheOf editor = session.cacheOf editor
  reported : (session.settle answer answer.toFields).1.reported = session.reported

/-- A stale answer is ignored unless it is a new complaint about the settings. -/
theorem ignores_iff {session : AssistSession} {answer : AssistAnswer}
    (heditor : answer.editor ≠ []) (htoken : 0 < answer.token)
    (hstale : answer.token ≠ session.latest answer.editor) :
    session.Ignores answer ↔ answer.ok = true ∨ answer.configError = false ∨
      complaint answer.statusText ∈ session.reported := by
  have hrefused : ¬ session.announces answer = true := by
    intro hannounced
    exact hstale (congrArg Prod.snd (name_of_announces hannounced))
  have hcaches (editor : Text) :
      (session.settle answer answer.toFields).1.cacheOf editor = session.cacheOf editor :=
    cacheOf_settle (fun hboth => hrefused hboth.1) _
  have hsomething : ¬ (answer.editor.isEmpty || decide (answer.token ≤ 0)) = true := by
    simpa using ⟨heditor, htoken⟩
  by_cases hok : answer.ok = true
  · refine iff_of_true ?_ (.inl hok)
    have haccepts : (session.cacheOf answer.editor).accepts answer.token answer.text = false := by
      rw [Bool.eq_false_iff]
      intro haccepts
      exact hrefused ((session.announces_iff answer).mpr ⟨⟨heditor, htoken, hok⟩, haccepts⟩)
    refine ⟨?_, hcaches, ?_⟩ <;>
      simp [settle, hsomething, hok, SuggestionCache.offer?, haccepts, withCache]
  · by_cases hblames : answer.configError = true
    · have hsettle : session.settle answer answer.toFields =
          session.complain answer.statusText := by
        simp [settle, hsomething, hok, hblames]
      simp only [hok, hblames, Bool.false_eq_true, Bool.true_eq_false, false_or]
      constructor
      · intro hignores
        by_contra hnew
        have hnotices := hignores.notices
        rw [hsettle, complain_eq, if_neg hnew] at hnotices
        cases hnotices
      · intro hknown
        refine ⟨?_, hcaches, ?_⟩ <;> rw [hsettle, complain_eq, if_pos hknown]
    · refine iff_of_true ⟨?_, hcaches, ?_⟩ (.inr (.inl (Bool.eq_false_iff.mpr hblames))) <;>
        simp [settle, hsomething, hok, hblames]

/-! ## Answers of a run -/

/-- The session when the answers in front of one have been looked at. -/
def behind (session : AssistSession) (earlier : List AssistAnswer) : AssistSession :=
  ({ session with results := [] }.settleEach earlier).1

theorem latest_behind (session : AssistSession) (earlier : List AssistAnswer) (editor : Text) :
    (session.behind earlier).latest editor = session.latest editor :=
  latest_settleEach ..

theorem settleEach_append (session : AssistSession) (first second : List AssistAnswer) :
    session.settleEach (first ++ second) =
      (((session.settleEach first).1.settleEach second).1,
        (session.settleEach first).2 ++ ((session.settleEach first).1.settleEach second).2) := by
  induction first generalizing session with
  | nil => rfl
  | cons answer rest ih => simp [settleEach, ih]

/-- What looking at the answers announces is announced for one after the other. -/
theorem notices_drain {session : AssistSession} (hwatching : session.watching = true)
    {earlier later : List AssistAnswer} {answer : AssistAnswer}
    (hresults : session.results = earlier ++ answer :: later) :
    (session.step .drain).2 =
      ({ session with results := [] }.settleEach earlier).2 ++
        ((session.behind earlier).settle answer answer.toFields).2 ++
          (((session.behind earlier).settle answer answer.toFields).1.settleEach later).2 := by
  simp [step, drain?, hwatching, hresults, settleEach_append, settleEach, behind]

/-- In every run, a stale answer that is looked at among others is ignored exactly if it is
successful, does not blame the settings, or says of them what has been said already. What it
announces otherwise is announced in its place. -/
theorem stale_ignored_iff (settings : AssistantSettings) (events : List AssistEvent)
    {earlier later : List AssistAnswer} {answer : AssistAnswer}
    (hresults : (Run.after next { settings } events).results = earlier ++ answer :: later)
    (hstale : answer.token ≠ (Run.after next { settings } events).latest answer.editor) :
    (((Run.after next { settings } events).behind earlier).Ignores answer ↔
      answer.ok = true ∨ answer.configError = false ∨
        complaint answer.statusText ∈
          ((Run.after next { settings } events).behind earlier).reported) ∧
    ((Run.after next { settings } events).watching = true →
      ((Run.after next { settings } events).step .drain).2 =
        ({ Run.after next { settings } events with results := [] }.settleEach earlier).2 ++
          (((Run.after next { settings } events).behind earlier).settle answer
            answer.toFields).2 ++
          ((((Run.after next { settings } events).behind earlier).settle answer
            answer.toFields).1.settleEach later).2) := by
  have hanswer : answer ∈ (Run.after next { settings } events).results := by simp [hresults]
  obtain ⟨heditor, -, htoken⟩ := (sequenced_after settings events).results_named hanswer
  refine ⟨?_, fun hwatching => notices_drain hwatching hresults⟩
  apply ignores_iff heditor htoken
  rwa [latest_behind]

/-- A session in which an editor is edited before its request is answered. -/
def editedSession (settings : AssistantSettings) (provider : ChatProvider) : AssistSession :=
  Run.after next { settings }
    [.request .manual "a".toList "model A \x7b".toList (.int 1) (.int 10), .begin,
      .edit "a".toList, .finish 0 provider]

/-- The successful answer to the request. -/
def lateAnswer : AssistAnswer where
  editor := "a".toList
  token := 1
  trigger := .manual
  line := 1
  column := 10
  text := "X".toList
  ok := true
  statusText := []

/-- A provider that always suggests the same. -/
def suggestingProvider : ChatProvider := fun _ =>
  { result := .ok { ok := true, statusText := [], text := "X".toList } }

theorem late_answer_ignored :
    (editedSession keyedSettings suggestingProvider).results = [] ++ lateAnswer :: [] ∧
      lateAnswer.token ≠
        (editedSession keyedSettings suggestingProvider).latest lateAnswer.editor ∧
      ((editedSession keyedSettings suggestingProvider).behind []).Ignores lateAnswer := by
  have hresults : (editedSession keyedSettings suggestingProvider).results =
      [] ++ lateAnswer :: [] := by
    decide +kernel
  have hstale : lateAnswer.token ≠
      (editedSession keyedSettings suggestingProvider).latest lateAnswer.editor := by
    decide +kernel
  exact ⟨hresults, hstale, (stale_ignored_iff _ _ hresults hstale).1.mpr (.inl rfl)⟩

/-- Settings with a base address that is none. -/
def rootlessSettings : AssistantSettings :=
  { keyedSettings with baseUrl := "/".toList }

/-- The answer to the request where it cannot be sent. -/
def lateComplaint : AssistAnswer :=
  { lateAnswer with
    text := [], ok := false, configError := true
    statusText := "AI base URL or model is not configured.".toList }

/-- An answer that blames the settings is announced and noted although it is stale. -/
theorem late_complaint_announced :
    (editedSession rootlessSettings (Chat.complete fun _ => .timedOut)).results =
        [lateComplaint] ∧
      lateComplaint.token ≠ (editedSession rootlessSettings
        (Chat.complete fun _ => .timedOut)).latest lateComplaint.editor ∧
      ((editedSession rootlessSettings (Chat.complete fun _ => .timedOut)).step .drain).2 =
        [.configError lateComplaint.statusText] ∧
      (editedSession rootlessSettings (Chat.complete fun _ => .timedOut)).reported = [] ∧
      ((editedSession rootlessSettings
        (Chat.complete fun _ => .timedOut)).next .drain).reported =
          [lateComplaint.statusText] := by
  exact ⟨by decide +kernel, by decide +kernel, rfl, by decide +kernel, by decide +kernel⟩

end AssistSession

end SchemaDesk
