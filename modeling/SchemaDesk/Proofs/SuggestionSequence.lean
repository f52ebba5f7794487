import Mathlib.Data.Multiset.Basic
import SchemaDesk.Proofs.AssistUnderway
import SchemaDesk.Proofs.Run

/-!
# The sequence of suggestions

A suggestion is announced only while the number of its request is the latest one of its
editor, so nothing that makes requests stale can have happened in between; it is
announced once; and whatever is not stale and not blank is announced, and then kept.
-/

namespace SchemaDesk

/-- What tells requests apart: the editor and the number. -/
def AssistJob.name (job : AssistJob) : Text × Int :=
  (job.editor, job.token)

/-- The request that an answer belongs to. -/
def AssistAnswer.name (answer : AssistAnswer) : Text × Int :=
  (answer.editor, answer.token)

/-- The suggestion that is announced; an empty one only takes back what was suggested. -/
def AssistNotice.suggested? : AssistNotice → Option Fields
  | .suggestion payload =>
    if (payload.get "text").lenientText.isEmpty then none else some payload
  | _ => none

namespace AssistSession

@[simp]
theorem name_answerOf (job : AssistJob) (result : Except ChatError ChatResult) :
    (answerOf job result).name = job.name := by
  cases result with
  | error e => rfl
  | ok result =>
      unfold answerOf
      dsimp only
      split <;> rfl

/-- The session after an event. -/
def next (session : AssistSession) (event : AssistEvent) : AssistSession :=
  (session.step event).1

/-- The suggestions that an event brings. -/
def suggestions (session : AssistSession) (event : AssistEvent) : List Fields :=
  (session.step event).2.filterMap AssistNotice.suggested?

/-- Is an answer announced when it is looked at? -/
def announces (session : AssistSession) (answer : AssistAnswer) : Bool :=
  !answer.editor.isEmpty && decide (0 < answer.token) && answer.ok &&
    answer.token == session.latest answer.editor && !Text.allBlank answer.text

/-- The answers that an event announces. -/
def announced (session : AssistSession) : AssistEvent → List AssistAnswer
  | .drain => if session.watching then session.results.filter session.announces else []
  | _ => []

theorem announces_congr {before after : AssistSession}
    (hlatest : ∀ editor, after.latest editor = before.latest editor) :
    after.announces = before.announces := by
  funext answer
  simp only [announces, hlatest]

theorem suggested?_eq_none {notices : List AssistNotice}
    (hnotices : ∀ payload, AssistNotice.suggestion payload ∉ notices) :
    notices.filterMap AssistNotice.suggested? = [] := by
  rw [List.filterMap_eq_nil_iff]
  intro notice hnotice
  cases notice with
  | suggestion payload => exact absurd hnotice (hnotices payload)
  | configError message => rfl
  | status message => rfl

theorem suggested?_toFields {answer : AssistAnswer} (htext : Text.allBlank answer.text = false) :
    AssistNotice.suggested? (.suggestion answer.toFields) = some answer.toFields := by
  have hfield : answer.toFields.get "text" = .str answer.text := rfl
  have hnonempty : answer.text ≠ [] := by
    intro hempty
    simp [hempty, Text.allBlank] at htext
  simp [AssistNotice.suggested?, hfield, hnonempty]

/-- A cache accepts what is announced. -/
theorem announces_iff (session : AssistSession) (answer : AssistAnswer) :
    session.announces answer = true ↔
      (answer.editor ≠ [] ∧ 0 < answer.token ∧ answer.ok = true) ∧
        (session.cacheOf answer.editor).accepts answer.token answer.text = true := by
  simp [announces, SuggestionCache.accepts, SuggestionCache.isCurrent, latest, and_assoc]

theorem name_of_announces {session : AssistSession} {answer : AssistAnswer}
    (hannounced : session.announces answer = true) :
    answer.name = (answer.editor, (session.latest answer.editor : Int)) := by
  have haccepts := ((session.announces_iff answer).mp hannounced).2
  exact congrArg (Prod.mk answer.editor) ((SuggestionCache.accepts_iff ..).mp haccepts).1

theorem suggestions_settle (session : AssistSession) (answer : AssistAnswer) :
    (session.settle answer answer.toFields).2.filterMap AssistNotice.suggested? =
      if session.announces answer then [answer.toFields] else [] := by
  have hiff := session.announces_iff answer
  unfold settle
  split
  next hnothing =>
    have hrefused : ¬ session.announces answer = true := by
      rw [hiff]
      rintro ⟨⟨heditor, htoken, -⟩, -⟩
      simp only [Bool.or_eq_true, List.isEmpty_iff, decide_eq_true_eq] at hnothing
      rcases hnothing with hempty | hnone
      · exact heditor hempty
      · omega
    rw [if_neg hrefused]
    rfl
  next hsomething =>
    split
    next hok =>
      dsimp only
      cases haccepts : (session.cacheOf answer.editor).accepts answer.token answer.text with
      | true =>
          have hannounced : session.announces answer = true := by
            rw [hiff]
            simp only [Bool.or_eq_true, List.isEmpty_iff, decide_eq_true_eq, not_or] at hsomething
            exact ⟨⟨hsomething.1, by omega, hok⟩, haccepts⟩
          have htext := ((SuggestionCache.accepts_iff ..).mp haccepts).2
          simp [SuggestionCache.offer?, haccepts, hannounced, suggested?_toFields htext]
      | false =>
          have hrefused : ¬ session.announces answer = true := by
            rw [hiff, haccepts]
            simp
          simp [SuggestionCache.offer?, haccepts, hrefused]
    next hfailed =>
      have hrefused : ¬ session.announces answer = true := by
        rw [hiff]
        exact fun hannounced => hfailed hannounced.1.2.2
      rw [if_neg hrefused]
      split
      · exact suggested?_eq_none (suggestion_not_mem_complain session _)
      · rfl

theorem suggestions_settleEach (session : AssistSession) (answers : List AssistAnswer) :
    (session.settleEach answers).2.filterMap AssistNotice.suggested? =
      (answers.filter session.announces).map AssistAnswer.toFields := by
  induction answers generalizing session with
  | nil => rfl
  | cons answer rest ih =>
      have hsame := announces_congr (session.latest_settle answer answer.toFields)
      unfold settleEach
      rw [List.filterMap_append, suggestions_settle, ih, hsame, List.filter_cons]
      split <;> rfl

/-- What is announced are the answers that are not stale when they are looked at. -/
theorem suggestions_eq (session : AssistSession) (event : AssistEvent) :
    session.suggestions event = (session.announced event).map AssistAnswer.toFields := by
  by_cases hdrain : event = .drain
  · subst hdrain
    simp only [suggestions, step, announced, drain?]
    split
    · exact suggestions_settleEach _ _
    · rfl
  · have hnone : session.announced event = [] := by
      cases event <;> first | rfl | exact absurd rfl hdrain
    rw [hnone]
    refine List.filterMap_eq_nil_iff.mpr fun notice hnotice => ?_
    cases notice with
    | suggestion payload =>
        rcases suggestion_mem_step hnotice with hevent | ⟨key, token, rfl⟩
        · exact absurd hevent hdrain
        · rfl
    | configError message => rfl
    | status message => rfl

/-! ## Requests of a run -/

/-- A request carries the next number of its editor, which is then the latest one. -/
theorem request?_eq_some {session : AssistSession} {event : AssistEvent} {job : AssistJob}
    (hjob : session.request? event = some job) :
    job.editor ≠ [] ∧ editorKey job.editor = job.editor ∧
      job.token = session.latest job.editor + 1 ∧
      (session.next event).latest job.editor = job.token := by
  cases event with
  | request trigger editor source line column =>
      rcases session.step_request_cases trigger editor source line column with
        ⟨hnone, -⟩ | ⟨excerpt, -, hkey, hsome, hstep⟩
      · rw [hnone] at hjob
        cases hjob
      · cases Option.some.inj (hsome.symm.trans hjob)
        refine ⟨hkey, editorKey_editorKey editor, rfl, ?_⟩
        rw [next, hstep, latest_congr (caches_enqueue ..), latest_withCache_succ _ _ _ rfl,
          if_pos (by simp [asked, editorKey_editorKey])]
        rfl
  | _ => cases hjob

/-- The request was made in a run. -/
def Requested (start : AssistSession) (events : List AssistEvent) (job : AssistJob) : Prop :=
  ∃ before request since, events = before ++ request :: since ∧
    (Run.after next start before).request? request = some job

theorem Requested.concat {start : AssistSession} {events : List AssistEvent} {job : AssistJob}
    (hrequested : Requested start events job) (event : AssistEvent) :
    Requested start (events ++ [event]) job := by
  obtain ⟨before, request, since, rfl, hjob⟩ := hrequested
  exact ⟨before, request, since ++ [event], by simp, hjob⟩

theorem latest_le_after (session : AssistSession) (events : List AssistEvent) (key : Text) :
    session.latest key ≤ (Run.after next session events).latest key := by
  induction events using List.reverseRecOn with
  | nil => exact Nat.le_refl _
  | append_singleton events event ih =>
      rw [Run.after_concat]
      exact Nat.le_trans ih (latest_le_step _ event key)

theorem Requested.name {start : AssistSession} {events : List AssistEvent} {job : AssistJob}
    (hrequested : Requested start events job) :
    job.editor ≠ [] ∧ editorKey job.editor = job.editor ∧ 0 < job.token := by
  obtain ⟨before, request, since, -, hjob⟩ := hrequested
  obtain ⟨heditor, hstripped, htoken, -⟩ := request?_eq_some hjob
  exact ⟨heditor, hstripped, by omega⟩

/-- Nothing has made a request stale whose number is the latest one. -/
theorem not_renews_of_latest {start : AssistSession} {before since : List AssistEvent}
    {request : AssistEvent} {job : AssistJob}
    (hjob : (Run.after next start before).request? request = some job)
    (hlatest : (Run.after next start (before ++ request :: since)).latest job.editor = job.token)
    {earlier later : List AssistEvent} {event : AssistEvent}
    (hsince : since = earlier ++ event :: later) :
    ¬ (Run.after next start (before ++ request :: earlier)).Renews job.editor event := by
  intro hrenews
  obtain ⟨heditor, hstripped, htoken, hfirst⟩ := request?_eq_some hjob
  have hmade : job.token ≤
      (Run.after next start (before ++ request :: earlier)).latest job.editor := by
    have hlater := latest_le_after (Run.after next start (before ++ [request])) earlier job.editor
    rw [← Run.after_append, Run.after_concat, hfirst] at hlater
    simpa using hlater
  -- The event has taken a number beyond that of the request, and none is taken back.
  have hgrown := latest_lt_step heditor hstripped (by omega) hrenews
  have hend := latest_le_after
    (Run.after next start (before ++ request :: earlier ++ [event])) later job.editor
  rw [← Run.after_append, Run.after_concat] at hend
  have hevents : before ++ request :: earlier ++ [event] ++ later = before ++ request :: since := by
    simp [hsince]
  rw [hevents, hlatest] at hend
  have hlt := Nat.lt_of_lt_of_le hgrown hend
  omega

/-! ## What a run keeps -/

/-- The requests that are under way or whose answers wait to be looked at. -/
def names (session : AssistSession) : Multiset (Text × Int) :=
  (session.results.map (·.name) : List (Text × Int)) + session.underway.map (·.name)

theorem names_le_of_grows {made : Multiset AssistJob} {before after : AssistSession}
    (hgrows : Grows made before after) :
    after.names ≤ before.names + made.map (·.name) := by
  unfold names
  rw [hgrows.results, Multiset.add_assoc, ← Multiset.map_add]
  exact Multiset.add_le_add_left (Multiset.map_le_map hgrows.underway)

/-- No request has been announced twice or is still under way once it has been, all
numbers have been given out, and what is under way goes back to requests of the run. -/
structure Sequenced (start : AssistSession) (events : List AssistEvent)
    (announced : List AssistAnswer) (session : AssistSession) : Prop where
  distinct : ((announced.map (·.name) : List (Text × Int)) + session.names).Nodup
  le_latest : ∀ name ∈ (announced.map (·.name) : List (Text × Int)) + session.names,
    name.2 ≤ session.latest name.1
  requested : ∀ job ∈ session.underway, Requested start events job
  answered : ∀ answer ∈ session.results, ∃ job result,
    Requested start events job ∧ answer = answerOf job result

namespace Sequenced

variable {start session after : AssistSession} {events : List AssistEvent}
  {announced : List AssistAnswer}

/-- What only drops requests, while numbers grow. -/
theorem of_le {later : List AssistAnswer} (hsequenced : Sequenced start events announced session)
    (event : AssistEvent)
    (hnames : (later.map (·.name) : List (Text × Int)) + after.names ≤
      (announced.map (·.name) : List (Text × Int)) + session.names)
    (hlatest : ∀ key, session.latest key ≤ after.latest key)
    (hrequested : ∀ job ∈ after.underway, Requested start events job)
    (hanswered : ∀ answer ∈ after.results, ∃ job result,
      Requested start events job ∧ answer = answerOf job result) :
    Sequenced start (events ++ [event]) later after where
  distinct := Multiset.nodup_of_le hnames hsequenced.distinct
  le_latest name hname := by
    have hearlier := hsequenced.le_latest name (Multiset.mem_of_le hnames hname)
    have hgrown := hlatest name.1
    omega
  requested job hjob := (hrequested job hjob).concat event
  answered answer hanswer := by
    obtain ⟨job, result, hjob, rfl⟩ := hanswered answer hanswer
    exact ⟨job, result, hjob.concat event, rfl⟩

/-- A request that has just been made has a name that no other one has. -/
theorem of_request (hsequenced : Sequenced start events announced session)
    {event : AssistEvent} {job : AssistJob} (hjob : session.request? event = some job)
    (hgrows : Grows {job} session (session.next event))
    (hmade : Requested start (events ++ [event]) job) :
    Sequenced start (events ++ [event]) announced (session.next event) := by
  obtain ⟨-, -, htoken, hlatest⟩ := request?_eq_some hjob
  have hnames : (announced.map (·.name) : List (Text × Int)) + (session.next event).names ≤
      job.name ::ₘ ((announced.map (·.name) : List (Text × Int)) + session.names) := by
    have hmore := names_le_of_grows hgrows
    rw [Multiset.map_singleton, Multiset.add_comm session.names, Multiset.singleton_add] at hmore
    exact (Multiset.add_le_add_left hmore).trans (Multiset.add_cons _ _ _).le
  -- No name so far has a number beyond the latest one, and the new one has.
  have hfresh : job.name ∉ (announced.map (·.name) : List (Text × Int)) + session.names := by
    intro hmem
    have hle := hsequenced.le_latest job.name hmem
    simp only [AssistJob.name] at hle
    omega
  refine ⟨?_, ?_, ?_, ?_⟩
  · exact Multiset.nodup_of_le hnames (Multiset.nodup_cons.mpr ⟨hfresh, hsequenced.distinct⟩)
  · intro name hname
    rcases Multiset.mem_cons.mp (Multiset.mem_of_le hnames hname) with rfl | hearlier
    · simp only [AssistJob.name]
      omega
    · have hle := hsequenced.le_latest name hearlier
      have hgrown : session.latest name.1 ≤ (session.next event).latest name.1 :=
        latest_le_step session event name.1
      omega
  · intro other hother
    rcases Multiset.mem_add.mp (Multiset.mem_of_le hgrows.underway hother) with hearlier | hnew
    · exact (hsequenced.requested other hearlier).concat event
    · rwa [Multiset.mem_singleton.mp hnew]
  · intro answer hanswer
    rw [hgrows.results] at hanswer
    obtain ⟨other, result, hother, rfl⟩ := hsequenced.answered answer hanswer
    exact ⟨other, result, hother.concat event, rfl⟩

/-- Where nothing is asked for, no job ends and no answer is looked at. -/
theorem of_grows (hsequenced : Sequenced start events announced session) {event : AssistEvent}
    (hgrows : Grows 0 session (session.next event)) :
    Sequenced start (events ++ [event]) announced (session.next event) := by
  have hunderway := hgrows.underway
  have hnames := names_le_of_grows hgrows
  rw [Multiset.add_zero] at hunderway
  rw [Multiset.map_zero, Multiset.add_zero] at hnames
  refine hsequenced.of_le event (Multiset.add_le_add_left hnames) (latest_le_step session event)
    (fun job hjob => hsequenced.requested job (Multiset.mem_of_le hunderway hjob)) ?_
  rw [hgrows.results]
  exact hsequenced.answered

theorem finish (hsequenced : Sequenced start events announced session) (number : Nat)
    (provider : ChatProvider) :
    Sequenced start (events ++ [.finish number provider]) announced
      (session.next (.finish number provider)) := by
  cases hfinish : session.finishJob? number provider with
  | none =>
      have hsame : session.next (.finish number provider) = session := by
        simp [next, step, hfinish]
      rw [hsame]
      exact hsequenced.of_le _ (le_refl _) (fun _ => Nat.le_refl _) hsequenced.requested
        hsequenced.answered
  | some finished =>
      obtain ⟨job, result, hresults, hunderway⟩ := finishJob?_eq_some hfinish
      have hafter : session.next (.finish number provider) = finished.1 := by
        simp [next, step, hfinish]
      have hjob := hsequenced.requested job (by rw [hunderway]; simp)
      have hnames : finished.1.names = session.names := by
        unfold names
        rw [hresults, hunderway, List.map_append, ← Multiset.coe_add, Multiset.map_add,
          Multiset.map_singleton]
        simp only [List.map_cons, List.map_nil, name_answerOf, Multiset.coe_singleton]
        rw [Multiset.add_assoc, Multiset.add_comm {job.name}]
      refine hsequenced.of_le _ ?_ (latest_le_step session _) ?_ ?_ <;> rw [hafter]
      · rw [hnames]
      · intro other hother
        refine hsequenced.requested other ?_
        rw [hunderway]
        exact Multiset.mem_add.mpr (.inl hother)
      · intro answer hanswer
        rw [hresults, List.mem_append, List.mem_singleton] at hanswer
        rcases hanswer with hearlier | rfl
        · exact hsequenced.answered answer hearlier
        · exact ⟨job, result, hjob, rfl⟩

theorem drain (hsequenced : Sequenced start events announced session) :
    Sequenced start (events ++ [.drain]) (announced ++ session.announced .drain)
      (session.next .drain) := by
  by_cases hwatching : session.watching = true
  · have hafter : session.next .drain =
        ({ session with results := [] }.settleEach session.results).1 := by
      simp [next, step, drain?, hwatching]
    have hgrows := grows_settleEach { session with results := [] } session.results
    rw [← hafter] at hgrows
    have hnames := names_le_of_grows hgrows
    have hunderway := hgrows.underway
    rw [Multiset.add_zero] at hunderway
    have hfiltered : (((session.announced .drain).map (·.name) : List (Text × Int)) :
        Multiset (Text × Int)) ≤ (session.results.map (·.name) : List (Text × Int)) := by
      simp only [AssistSession.announced, hwatching, if_true]
      exact Multiset.coe_le.mpr (List.filter_sublist.map _).subperm
    -- What is announced was an answer that waited; the other answers are dropped.
    refine hsequenced.of_le _ ?_ (latest_le_step session _) ?_ ?_
    · rw [List.map_append, ← Multiset.coe_add, Multiset.add_assoc]
      refine Multiset.add_le_add_left ?_
      refine (Multiset.add_le_add_left hnames).trans ?_
      rw [Multiset.map_zero, Multiset.add_zero]
      exact (Multiset.add_le_add_right hfiltered).trans (by simp [names, underway])
    · intro job hjob
      exact hsequenced.requested job (Multiset.mem_of_le hunderway hjob)
    · rw [hgrows.results]
      intro answer hanswer
      cases hanswer
  · have hsame : session.next .drain = session := by simp [next, step, drain?, hwatching]
    have hnone : session.announced .drain = [] := by simp [AssistSession.announced, hwatching]
    rw [hsame, hnone, List.append_nil]
    exact hsequenced.of_le _ (le_refl _) (fun _ => Nat.le_refl _) hsequenced.requested
      hsequenced.answered

end Sequenced

theorem sequenced_after (settings : AssistantSettings) (events : List AssistEvent) :
    Sequenced { settings } events (Run.outputs next announced { settings } events)
      (Run.after next { settings } events) := by
  induction events using List.reverseRecOn with
  | nil =>
      have hunderway : underway { settings } = 0 := rfl
      have hnames : names { settings } = 0 := rfl
      exact ⟨by simp [Run.outputs, hnames], by simp [Run.outputs, hnames],
        by simp [hunderway], nofun⟩
  | append_singleton events event ih =>
      rw [Run.after_concat, Run.outputs_concat]
      by_cases hdrain : event = .drain
      · subst hdrain
        exact ih.drain
      have hnone : (Run.after next { settings } events).announced event = [] := by
        cases event <;> first | rfl | exact absurd rfl hdrain
      rw [hnone, List.append_nil]
      -- An ending job turns a request into an answer; all else leaves the answers alone.
      by_cases hfinish : ∃ number provider, event = .finish number provider
      · obtain ⟨number, provider, rfl⟩ := hfinish
        exact ih.finish number provider
      · have hgrows := grows_step (Run.after next { settings } events) hdrain
          fun number provider hevent => hfinish ⟨number, provider, hevent⟩
        cases hjob : (Run.after next { settings } events).request? event with
        | none =>
            rw [hjob] at hgrows
            exact ih.of_grows hgrows
        | some job =>
            rw [hjob] at hgrows
            exact ih.of_request hjob hgrows ⟨events, event, [], rfl, hjob⟩

/-! ## What is kept -/

theorem cacheOf_withCache (session : AssistSession) (editor other : Text)
    (cache : SuggestionCache) :
    (session.withCache editor cache).cacheOf other =
      if editorKey other = editorKey editor then cache else session.cacheOf other := by
  unfold cacheOf withCache
  split
  next hkey => simp [hkey]
  next hkey => rw [Keyed.get?_set_of_ne _ _ hkey]

theorem cacheOf_withCache_cacheOf (session : AssistSession) (editor other : Text) :
    (session.withCache editor (session.cacheOf editor)).cacheOf other =
      session.cacheOf other := by
  rw [cacheOf_withCache]
  split
  next hkey =>
    unfold cacheOf
    rw [hkey]
  next => rfl

/-- An answer that is announced is the newest suggestion that its editor keeps. -/
theorem current?_settle {session : AssistSession} {answer : AssistAnswer}
    (hannounced : session.announces answer = true) (payload : Fields) :
    ((session.settle answer payload).1.cacheOf answer.editor).current? =
      some { sequence := session.latest answer.editor, text := answer.text
             line := answer.line, column := answer.column } := by
  obtain ⟨⟨heditor, htoken, hok⟩, haccepts⟩ := (session.announces_iff answer).mp hannounced
  have hsomething : ¬ (answer.editor.isEmpty || decide (answer.token ≤ 0)) = true := by
    simpa using ⟨heditor, htoken⟩
  have hroom := (session.cacheOf answer.editor).room_pos
  simp only [settle, if_neg hsomething, hok, if_true, SuggestionCache.offer?, haccepts]
  rw [cacheOf_withCache, if_pos rfl]
  simp [SuggestionCache.current?, SuggestionCache.keep, List.head?_take, Nat.ne_of_gt hroom,
    latest]

/-- Any other answer leaves what the editor keeps. -/
theorem cacheOf_settle {session : AssistSession} {answer : AssistAnswer} {editor : Text}
    (hother : ¬ (session.announces answer = true ∧ editorKey answer.editor = editorKey editor))
    (payload : Fields) :
    (session.settle answer payload).1.cacheOf editor = session.cacheOf editor := by
  rw [announces_iff] at hother
  unfold settle
  split
  next => rfl
  next hsomething =>
    simp only [Bool.or_eq_true, List.isEmpty_iff, decide_eq_true_eq, not_or] at hsomething
    split
    next hok =>
      dsimp only
      cases haccepts : (session.cacheOf answer.editor).accepts answer.token answer.text with
      | true =>
          have hkey : ¬ editorKey editor = editorKey answer.editor := fun hkey =>
            hother ⟨⟨⟨hsomething.1, by omega, hok⟩, haccepts⟩, hkey.symm⟩
          simp only [SuggestionCache.offer?, haccepts, if_true]
          rw [cacheOf_withCache, if_neg hkey]
      | false =>
          simp only [SuggestionCache.offer?, haccepts, Bool.false_eq_true, if_false]
          exact cacheOf_withCache_cacheOf ..
    next =>
      split
      · rw [complain_fst]
        rfl
      · rfl

theorem cacheOf_settleEach {session : AssistSession} {answers : List AssistAnswer}
    {editor : Text} (hothers : ∀ answer ∈ answers,
      ¬ (session.announces answer = true ∧ editorKey answer.editor = editorKey editor)) :
    (session.settleEach answers).1.cacheOf editor = session.cacheOf editor := by
  induction answers generalizing session with
  | nil => rfl
  | cons answer rest ih =>
      have hsame := announces_congr (session.latest_settle answer answer.toFields)
      have hrest : ∀ other ∈ rest, ¬ ((session.settle answer answer.toFields).1.announces other =
          true ∧ editorKey other.editor = editorKey editor) := by
        rw [hsame]
        exact fun other hmem => hothers other (List.mem_cons_of_mem _ hmem)
      unfold settleEach
      dsimp only
      rw [ih hrest, cacheOf_settle (hothers answer List.mem_cons_self)]

/-- Of several answers that are looked at, the one that is announced for an editor is the
suggestion that it keeps then. -/
theorem current?_settleEach {session : AssistSession} {answers : List AssistAnswer}
    {answer : AssistAnswer} (hanswer : answer ∈ answers)
    (hannounced : session.announces answer = true)
    (hdistinct : (answers.map (·.name)).Nodup)
    (hstripped : ∀ other ∈ answers, editorKey other.editor = other.editor) :
    ((session.settleEach answers).1.cacheOf answer.editor).current? =
      some { sequence := session.latest answer.editor, text := answer.text
             line := answer.line, column := answer.column } := by
  induction answers generalizing session with
  | nil => cases hanswer
  | cons first rest ih =>
      have hlatest := session.latest_settle first first.toFields
      have hsame := announces_congr hlatest
      rw [List.map_cons, List.nodup_cons] at hdistinct
      unfold settleEach
      dsimp only
      rcases List.mem_cons.mp hanswer with rfl | hrest
      · rw [cacheOf_settleEach, current?_settle hannounced]
        -- A later answer that is announced for this editor would have the same name.
        rintro other hother ⟨hstale, hkey⟩
        rw [hsame] at hstale
        rw [hstripped other (List.mem_cons_of_mem _ hother),
          hstripped answer List.mem_cons_self] at hkey
        refine hdistinct.1 (List.mem_map.mpr ⟨other, hother, ?_⟩)
        rw [name_of_announces hstale, name_of_announces hannounced, hkey]
      · rw [ih hrest (by rw [hsame]; exact hannounced) hdistinct.2
          fun other hother => hstripped other (List.mem_cons_of_mem _ hother), hlatest]

/-! ## Main result -/

/-- An answer that is announced is the successful answer to its request. -/
theorem toFields_of_announces {session : AssistSession} {job : AssistJob}
    {result : Except ChatError ChatResult}
    (hannounced : session.announces (answerOf job result) = true) :
    (answerOf job result).toFields.get "editor_id" = .str job.editor ∧
      (answerOf job result).toFields.get "token" = .int job.token ∧
      (answerOf job result).toFields.get "line" = .int job.excerpt.line ∧
      (answerOf job result).toFields.get "column" = .int job.excerpt.column ∧
      session.latest job.editor = job.token := by
  have hname := name_of_announces hannounced
  have hok := ((session.announces_iff _).mp hannounced).1.2.2
  rw [name_answerOf, AssistJob.name, Prod.mk.injEq] at hname
  obtain ⟨heditor, htoken⟩ := hname
  cases result with
  | error e => cases hok
  | ok result =>
      cases hsuccess : result.ok with
      | false => simp [answerOf, hsuccess] at hok
      | true =>
          simp only [answerOf, hsuccess, if_true] at htoken ⊢
          exact ⟨rfl, rfl, rfl, rfl, (Int.ofNat.inj htoken).symm⟩

theorem map_suggestions (session : AssistSession) (event : AssistEvent) :
    (session.suggestions event).map
        (fun payload => (payload.get "editor_id", payload.get "token")) =
      (session.announced event).map fun answer => (.str answer.editor, .int answer.token) := by
  rw [suggestions_eq, List.map_map]
  rfl

theorem mem_announced {session : AssistSession} {event : AssistEvent} {answer : AssistAnswer}
    (hanswer : answer ∈ session.announced event) :
    event = .drain ∧ answer ∈ session.results ∧ session.announces answer = true := by
  cases event with
  | drain =>
      by_cases hwatching : session.watching = true
      · simp only [announced, hwatching, if_true] at hanswer
        exact ⟨rfl, List.mem_filter.mp hanswer⟩
      · simp [announced, hwatching] at hanswer
  | _ => cases hanswer

theorem latest_next_drain (session : AssistSession) (editor : Text) :
    (session.next .drain).latest editor = session.latest editor := by
  simp only [next, step, drain?]
  split
  · exact latest_settleEach ..
  · rfl

/-- Where a suggestion comes from: a request of the run, whose number is the latest one of
its editor still, so that nothing has made it stale since. -/
structure Fresh (start : AssistSession) (events : List AssistEvent) (event : AssistEvent)
    (payload : Fields) (job : AssistJob) (before : List AssistEvent) (request : AssistEvent)
    (since : List AssistEvent) : Prop where
  run : events = before ++ request :: since
  made : (Run.after next start before).request? request = some job
  editor : payload.get "editor_id" = .str job.editor
  token : payload.get "token" = .int job.token
  line : payload.get "line" = .int job.excerpt.line
  column : payload.get "column" = .int job.excerpt.column
  latest : (Run.after next start events).latest job.editor = job.token
  latest_after : ((Run.after next start events).next event).latest job.editor = job.token
  not_renews : ∀ earlier other later, since = earlier ++ other :: later →
    ¬ (Run.after next start (before ++ request :: earlier)).Renews job.editor other

namespace Sequenced

variable {start session : AssistSession} {events : List AssistEvent}
  {announced : List AssistAnswer}

theorem results_distinct (hsequenced : Sequenced start events announced session) :
    (session.results.map (·.name)).Nodup := by
  refine Multiset.coe_nodup.mp (Multiset.nodup_of_le ?_ hsequenced.distinct)
  exact (Multiset.le_add_right _ _).trans (Multiset.le_add_left _ _)

theorem results_named (hsequenced : Sequenced start events announced session)
    {answer : AssistAnswer} (hanswer : answer ∈ session.results) :
    answer.editor ≠ [] ∧ editorKey answer.editor = answer.editor ∧ 0 < answer.token := by
  obtain ⟨job, result, hrequested, rfl⟩ := hsequenced.answered answer hanswer
  obtain ⟨heditor, hstripped, htoken⟩ := hrequested.name
  obtain ⟨hsame, hnumber⟩ := Prod.mk.inj (name_answerOf job result)
  rw [hsame, hnumber]
  exact ⟨heditor, hstripped, Int.natCast_pos.mpr htoken⟩

/-- Every suggestion that is announced is fresh. -/
theorem fresh (hsequenced : Sequenced start events announced (Run.after next start events))
    {event : AssistEvent} {payload : Fields}
    (hpayload : payload ∈ (Run.after next start events).suggestions event) :
    ∃ job before request since, Fresh start events event payload job before request since := by
  rw [suggestions_eq] at hpayload
  obtain ⟨answer, hanswer, rfl⟩ := List.mem_map.mp hpayload
  obtain ⟨rfl, hresult, hannounced⟩ := mem_announced hanswer
  obtain ⟨job, result, ⟨before, request, since, hevents, hmade⟩, rfl⟩ :=
    hsequenced.answered answer hresult
  obtain ⟨heditor, htoken, hline, hcolumn, hlatest⟩ := toFields_of_announces hannounced
  refine ⟨job, before, request, since, hevents, hmade, heditor, htoken, hline, hcolumn,
    hlatest, by rw [latest_next_drain, hlatest], ?_⟩
  intro earlier other later hsince
  rw [hevents] at hlatest
  exact not_renews_of_latest hmade hlatest hsince

/-- A successful answer that is neither stale nor blank is announced and kept. -/
theorem kept (hsequenced : Sequenced start events announced session) {job : AssistJob}
    {result : ChatResult} (hresult : answerOf job (.ok result) ∈ session.results)
    (hwatching : session.watching = true) (hok : result.ok = true)
    (hlatest : session.latest job.editor = job.token)
    (htext : Text.allBlank (Answer.clean job.excerpt.current result.text) = false) :
    (answerOf job (.ok result)).toFields ∈ session.suggestions .drain ∧
      ((session.next .drain).cacheOf job.editor).current? =
        some { sequence := job.token, text := Answer.clean job.excerpt.current result.text
               line := job.excerpt.line, column := job.excerpt.column } := by
  have hanswer : answerOf job (.ok result) =
      { editor := job.editor, token := job.token, trigger := job.trigger
        line := job.excerpt.line, column := job.excerpt.column
        text := Answer.clean job.excerpt.current result.text, ok := true
        statusText := result.statusText } := by
    simp [answerOf, hok]
  have hannounced : session.announces (answerOf job (.ok result)) = true := by
    obtain ⟨heditor, -, htoken⟩ := hsequenced.results_named hresult
    rw [hanswer] at heditor htoken ⊢
    rw [announces_iff]
    refine ⟨⟨heditor, htoken, rfl⟩, (SuggestionCache.accepts_iff ..).mpr ⟨?_, htext⟩⟩
    exact congrArg Int.ofNat hlatest.symm
  have hafter : session.next .drain =
      ({ session with results := [] }.settleEach session.results).1 := by
    simp [next, step, drain?, hwatching]
  have hemptied : { session with results := [] }.announces (answerOf job (.ok result)) = true :=
    hannounced
  have hcurrent := current?_settleEach hresult hemptied hsequenced.results_distinct
    fun other hother => (hsequenced.results_named hother).2.1
  refine ⟨?_, ?_⟩
  · rw [suggestions_eq]
    refine List.mem_map_of_mem ?_
    simp only [AssistSession.announced, hwatching, if_true]
    exact List.mem_filter.mpr ⟨hresult, hannounced⟩
  · rw [hanswer] at hcurrent
    rw [hafter, ← hlatest]
    exact hcurrent

end Sequenced

/-- In every run of a session, each request is announced at most once; every suggestion
that is announced is fresh; and an answer that is successful, not blank and not stale when
it is looked at is announced and is the suggestion that its editor keeps then. -/
theorem suggestions_in_sequence (settings : AssistantSettings) (events : List AssistEvent) :
    ((Run.outputs next suggestions { settings } events).map
      fun payload => (payload.get "editor_id", payload.get "token")).Nodup ∧
    (∀ event, ∀ payload ∈ (Run.after next { settings } events).suggestions event,
      ∃ job before request since,
        Fresh { settings } events event payload job before request since) ∧
    (∀ job result, answerOf job (.ok result) ∈ (Run.after next { settings } events).results →
      (Run.after next { settings } events).watching = true → result.ok = true →
      (Run.after next { settings } events).latest job.editor = job.token →
      Text.allBlank (Answer.clean job.excerpt.current result.text) = false →
        (answerOf job (.ok result)).toFields ∈
            (Run.after next { settings } events).suggestions .drain ∧
          (((Run.after next { settings } events).next .drain).cacheOf job.editor).current? =
            some { sequence := job.token, text := Answer.clean job.excerpt.current result.text
                   line := job.excerpt.line, column := job.excerpt.column }) := by
  have hsequenced := sequenced_after settings events
  refine ⟨?_, fun _ _ hpayload => hsequenced.fresh hpayload,
    fun _ _ hresult hwatching hok hlatest htext =>
      hsequenced.kept hresult hwatching hok hlatest htext⟩
  rw [Run.outputs_map_congr next _ map_suggestions]
  have hnames : ((Run.outputs next announced { settings } events).map (·.name)).Nodup :=
    Multiset.coe_nodup.mp (Multiset.nodup_of_le (Multiset.le_add_right _ _) hsequenced.distinct)
  have hfields := hnames.map (f := fun name => (Json.str name.1, Json.int name.2)) (by
    rintro ⟨editor, token⟩ ⟨other, number⟩ hsame
    simpa using hsame)
  rwa [List.map_map] at hfields

/-- Settings that let the assistant be asked. -/
def keyedSettings : AssistantSettings where
  enabled := true
  baseUrl := "http://localhost".toList
  apiKey := "key".toList
  model := "m".toList
  language := "prisma".toList
  debounce := 40
  timeout := 1000
  maxTokens := 16
  cacheSize := 2

/-- Two editors ask one after the other, and the second one is answered first. -/
def crossedRun : List AssistEvent :=
  [.request .manual "a".toList "model A \x7b".toList (.int 1) (.int 10),
    .request .manual "b".toList "enum B \x7b".toList (.int 1) (.int 9), .begin, .begin,
    .finish 1 fun _ => { result := .ok { ok := true, statusText := [], text := "X".toList } },
    .finish 0 fun _ => { result := .ok { ok := true, statusText := [], text := "id".toList } }]

theorem crossed_answers_announced :
    ∃ payload job before request since,
      payload ∈ (Run.after next { settings := keyedSettings } crossedRun).suggestions .drain ∧
      (payload.get "text").lenientText = "id".toList ∧
      Fresh { settings := keyedSettings } crossedRun .drain payload job before request since := by
  have hannounced : ∃ payload ∈
      (Run.after next { settings := keyedSettings } crossedRun).suggestions .drain,
      (payload.get "text").lenientText = "id".toList := by decide +kernel
  obtain ⟨payload, hpayload, htext⟩ := hannounced
  obtain ⟨-, hfresh, -⟩ := suggestions_in_sequence keyedSettings crossedRun
  obtain ⟨job, before, request, since, hjob⟩ := hfresh .drain payload hpayload
  exact ⟨payload, job, before, request, since, hpayload, htext, hjob⟩

end AssistSession

end SchemaDesk
