import SchemaDesk.Proofs.SilencedSession

/-!
# Clocks of editors

A request that typing asks for waits under the name of its editor while the clock of the editor
runs. Of the events of a session one takes such a request up, one lets it start when the clock
goes off, one starts another in its place; all others leave it waiting, or drop it.
-/

namespace SchemaDesk

namespace Keyed

variable {κ α : Type} [DecidableEq κ]

theorem erase_sublist (entries : Keyed κ α) (key : κ) : (entries.erase key).Sublist entries := by
  induction entries with
  | nil => exact List.Sublist.refl _
  | cons entry rest ih =>
      unfold erase
      split
      · exact ih.cons entry
      · exact ih.cons_cons entry

theorem erase_of_get?_eq_none {entries : Keyed κ α} {key : κ} (hnone : entries.get? key = none) :
    entries.erase key = entries := by
  induction entries with
  | nil => rfl
  | cons entry rest ih =>
      by_cases hkey : entry.1 = key
      · simp [get?, hkey] at hnone
      · simp only [get?, hkey, if_false] at hnone
        simp [erase, hkey, ih hnone]

/-- What is left has another key. -/
theorem get?_erase_eq_some {entries : Keyed κ α} {key other : κ} {value : α}
    (hvalue : (entries.erase key).get? other = some value) :
    other ≠ key ∧ entries.get? other = some value := by
  by_cases hkey : other = key
  · simp [hkey] at hvalue
  · exact ⟨hkey, by rwa [get?_erase_of_ne _ hkey] at hvalue⟩

end Keyed

namespace JobQueue

variable {α : Type} {jobs next : JobQueue α}

/-- The work of the jobs that wait and were given a number from `number` on. -/
def workSince (jobs : JobQueue α) (number : Nat) : List α :=
  (jobs.waiting.filter fun job => decide (number ≤ job.number)).map (·.work)

theorem closed_begin? (hbegin : jobs.begin? = some next) : next.closed = jobs.closed := by
  unfold begin? at hbegin
  split at hbegin <;> cases hbegin
  rfl

theorem closed_finishJob? {number : Nat} {job : Job α}
    (hfinish : jobs.finishJob? number = some (job, next)) : next.closed = jobs.closed := by
  obtain ⟨found, -, hfinished⟩ := Option.map_eq_some_iff.mp hfinish
  cases hfinished
  rfl

theorem Numbered.filter_waiting (hnumbered : jobs.Numbered) {waiting : List (Job α)}
    (hwaiting : waiting ⊆ jobs.waiting) :
    waiting.filter (fun job => decide (jobs.submitted ≤ job.number)) = [] := by
  refine List.filter_eq_nil_iff.mpr fun job hjob => ?_
  have hnumber : job.number ∈ jobs.numbers :=
    Multiset.mem_add.mpr (.inr (List.mem_map_of_mem (hwaiting hjob)))
  simpa using hnumbered.given _ hnumber

/-- Where no job has come to wait, none was given a number. -/
theorem Numbered.workSince_eq_nil (hnumbered : jobs.Numbered)
    (hwaiting : next.waiting ⊆ jobs.waiting) : next.workSince jobs.submitted = [] := by
  rw [workSince, hnumbered.filter_waiting hwaiting, List.map_nil]

/-- One job has come to wait, under the next number. -/
theorem Numbered.workSince_eq_singleton (hnumbered : jobs.Numbered) {waiting : List (Job α)}
    (hwaiting : waiting ⊆ jobs.waiting) {work : α}
    (hnext : next.waiting = waiting ++ [⟨jobs.submitted, work⟩]) :
    next.workSince jobs.submitted = [work] := by
  rw [workSince, hnext, List.filter_append, hnumbered.filter_waiting hwaiting]
  simp

end JobQueue

/-- A clock goes off for an editor, in time or late. -/
def AssistEvent.Expires (key : Text) : AssistEvent → Prop
  | .fire other | .flush other => other = key
  | _ => False

namespace AssistSession

/-- The requests that an event starts: those whose job has been given a number. -/
def started (session : AssistSession) (event : AssistEvent) : List AssistJob :=
  (session.next event).jobs.workSince session.jobs.submitted

/-! ## What operations change -/

/-- Cancelling what an editor waits for neither opens nor closes the queue. -/
theorem cancelInflight_eq (session : AssistSession) (key : Text) :
    ∃ jobs inflight, session.cancelInflight key = { session with jobs, inflight } ∧
      jobs.closed = session.jobs.closed ∧ jobs.submitted = session.jobs.submitted ∧
      jobs.waiting ⊆ session.jobs.waiting := by
  rcases session.cancelInflight_cases key with ⟨-, hsame⟩ | ⟨number, inflight, -, -, hsame⟩
  · exact ⟨session.jobs, session.inflight, hsame, rfl, rfl, List.Subset.refl _⟩
  · exact ⟨_, inflight, hsame, rfl, rfl, List.filter_sublist.subset⟩

/-- Starting a request of an open session gives its job the next number. -/
theorem start_eq (session : AssistSession) (hopen : session.jobs.closed = false)
    (job : AssistJob) :
    ∃ jobs inflight waiting, (session.start job).1 = { session with jobs, inflight } ∧
      jobs.closed = false ∧ waiting ⊆ session.jobs.waiting ∧
      jobs.waiting = waiting ++ [⟨session.jobs.submitted, job⟩] := by
  obtain ⟨jobs, inflight, hcancel, hclosed, hsubmitted, hwaiting⟩ :=
    session.cancelInflight_eq job.editor
  have hstart : (session.start job).1 =
      { session with
        jobs := { jobs with
          waiting := jobs.waiting ++ [⟨jobs.submitted, job⟩], submitted := jobs.submitted + 1 }
        inflight := inflight.set job.editor jobs.submitted } := by
    simp [start, hcancel, JobQueue.submit?, hclosed, hopen]
  exact ⟨_, _, jobs.waiting, hstart, hclosed.trans hopen, hwaiting, by rw [hsubmitted]⟩

/-- Stopping a clock leaves those of other editors alone. -/
theorem stopTimer_eq (session : AssistSession) (key : Text) :
    ∃ timers, session.stopTimer key = { session with timers } ∧
      ∀ other, other ≠ key → timers.get? other = session.timers.get? other := by
  unfold stopTimer
  split
  · exact ⟨session.timers, rfl, fun _ _ => rfl⟩
  · exact ⟨_, rfl, fun other hother => Keyed.get?_set_of_ne _ _ hother⟩

/-- The request that waits for an editor to rest starts if it carries the latest number of its
editor, and waits no longer in any case. -/
theorem flush_cases (session : AssistSession) (key : Text) :
    ((∃ job, session.pending.get? key = some job ∧ session.latest key = job.token ∧
        (session.flush key).1 =
          (start { session with pending := session.pending.erase key } job).1) ∨
      ((∀ job, session.pending.get? key = some job → session.latest key ≠ job.token) ∧
        (session.flush key).1 = { session with pending := session.pending.erase key })) := by
  cases hjob : session.pending.get? key with
  | none =>
      refine .inr ⟨nofun, ?_⟩
      simp [flush, hjob, Keyed.erase_of_get?_eq_none hjob]
  | some job =>
      have hcurrent : (cacheOf { session with pending := session.pending.erase key } key).isCurrent
          job.token = true ↔ session.latest key = job.token := by
        rw [SuggestionCache.isCurrent_iff, Int.natCast_inj, eq_comm]
        rfl
      by_cases hlatest : session.latest key = job.token
      · refine .inl ⟨job, rfl, hlatest, ?_⟩
        simp [flush, hjob, hcurrent.mpr hlatest]
      · refine .inr ⟨?_, ?_⟩
        · rintro _ ⟨⟩
          exact hlatest
        · simp [flush, hjob, mt hcurrent.mp hlatest]

/-! ## Clocks -/

/-- From one session to a later one: no request comes to wait, and the clocks of those that
wait still go on as they did. -/
structure Unwinds (before after : AssistSession) : Prop where
  closed : after.jobs.closed = before.jobs.closed
  pending : after.pending.Sublist before.pending
  kept : ∀ key job, after.pending.get? key = some job →
    before.pending.get? key = some job ∧ after.timers.get? key = before.timers.get? key

namespace Unwinds

variable {first second third : AssistSession}

theorem of_eq (hclosed : second.jobs.closed = first.jobs.closed)
    (hpending : second.pending = first.pending) (htimers : second.timers = first.timers) :
    Unwinds first second :=
  ⟨hclosed, by rw [hpending], fun key job hjob => ⟨hpending ▸ hjob, by rw [htimers]⟩⟩

theorem refl (session : AssistSession) : Unwinds session session :=
  .of_eq rfl rfl rfl

theorem trans (hfirst : Unwinds first second) (hsecond : Unwinds second third) :
    Unwinds first third where
  closed := hsecond.closed.trans hfirst.closed
  pending := hsecond.pending.trans hfirst.pending
  kept key job hjob := by
    obtain ⟨hmiddle, htimers⟩ := hsecond.kept key job hjob
    obtain ⟨hbefore, hearlier⟩ := hfirst.kept key job hmiddle
    exact ⟨hbefore, htimers.trans hearlier⟩

/-- The clock of an editor may be stopped if its request waits no longer. -/
theorem of_erase (key : Text) (hclosed : second.jobs.closed = first.jobs.closed)
    (hpending : second.pending = first.pending.erase key)
    (htimers : ∀ other, other ≠ key → second.timers.get? other = first.timers.get? other) :
    Unwinds first second := by
  refine ⟨hclosed, hpending ▸ Keyed.erase_sublist _ key, ?_⟩
  intro other job hjob
  rw [hpending] at hjob
  obtain ⟨hother, hbefore⟩ := Keyed.get?_erase_eq_some hjob
  exact ⟨hbefore, htimers other hother⟩

end Unwinds

/-- What waits for an editor to rest is a passive request, and the clock of the editor runs. -/
structure Clocked (session : AssistSession) : Prop where
  going : session.jobs.closed = false
  distinct : session.pending.keys.Nodup
  rests : ∀ key job, session.pending.get? key = some job →
    job.trigger = .passive ∧
      ∃ timer, session.timers.get? key = some timer ∧ timer.active = true

theorem Clocked.unwind {session after : AssistSession} (hclocked : session.Clocked)
    (hunwinds : Unwinds session after) : after.Clocked where
  going := hunwinds.closed.trans hclocked.going
  distinct := hclocked.distinct.sublist (hunwinds.pending.map _)
  rests key job hjob := by
    obtain ⟨hbefore, htimers⟩ := hunwinds.kept key job hjob
    rw [htimers]
    exact hclocked.rests key job hbefore

theorem unwinds_noteEdit (session : AssistSession) (editor : Text) :
    Unwinds session (session.noteEdit editor) := by
  unfold noteEdit
  split
  · exact .refl session
  · exact .of_eq rfl rfl rfl

theorem unwinds_quieted (session : AssistSession) (key : Text) :
    Unwinds session (session.quieted key) := by
  refine .of_erase key (calms_quieted session key).closed (by simp) ?_
  intro other hother
  obtain ⟨timers, hstopped, htimers⟩ :=
    stopTimer_eq { session with pending := session.pending.erase key } key
  obtain ⟨jobs, inflight, hcancelled, -⟩ :=
    cancelInflight_eq { session with pending := session.pending.erase key, timers } key
  rw [quieted, hstopped, hcancelled]
  exact htimers other hother

theorem unwinds_cancelFor (session : AssistSession) (editor : Text) (clear : Bool) :
    Unwinds session (session.cancelFor editor clear).1 := by
  rcases session.cancelFor_cases editor clear with ⟨-, hsame⟩ | ⟨-, caches, hsame⟩ <;> rw [hsame]
  · exact .refl session
  · exact (unwinds_quieted session (editorKey editor)).trans (.of_eq rfl rfl rfl)

theorem unwinds_cancelEach (session : AssistSession) (clear : Bool) (keys : List Text) :
    Unwinds session (session.cancelEach clear keys).1 := by
  induction keys generalizing session with
  | nil => exact .refl session
  | cons key rest ih => exact (unwinds_cancelFor session key clear).trans (ih _)

theorem unwinds_settle (session : AssistSession) (answer : AssistAnswer) (payload : Fields) :
    Unwinds session (session.settle answer payload).1 := by
  unfold settle
  split
  · exact .refl session
  · split
    · dsimp only
      split <;> exact .of_eq rfl rfl rfl
    · split
      · rw [complain_fst]
        exact .of_eq rfl rfl rfl
      · exact .refl session

theorem unwinds_settleEach (session : AssistSession) (answers : List AssistAnswer) :
    Unwinds session (session.settleEach answers).1 := by
  induction answers generalizing session with
  | nil => exact .refl session
  | cons answer rest ih => exact (unwinds_settle session answer _).trans (ih _)

/-! ## What one event does -/

/-- What an event does to the requests that wait for their editors to rest. It drops some of
them at most; or a clock goes off for one that carries the latest number, which starts; or a
request is made, which starts at once or comes to wait. -/
inductive Turn (session : AssistSession) (event : AssistEvent) : Prop
  | still (hstale : ∀ key job, event.Expires key → session.pending.get? key = some job →
        session.latest key ≠ job.token)
      (hrequest : session.request? event = none) (hstarted : session.started event = [])
      (hunwinds : Unwinds session (session.next event))
  | start {key : Text} {job : AssistJob} (hexpires : event.Expires key)
      (hjob : session.pending.get? key = some job) (hlatest : session.latest key = job.token)
      (hstarted : session.started event = [job])
      (hpending : (session.next event).pending = session.pending.erase key)
      (hunwinds : Unwinds session (session.next event))
  | manual {job : AssistJob} (hrequest : session.request? event = some job)
      (htrigger : job.trigger = .manual) (hstarted : session.started event = [job])
      (hunwinds : Unwinds session (session.next event))
  | passive {job : AssistJob} (hrequest : session.request? event = some job)
      (htrigger : job.trigger = .passive) (hstarted : session.started event = [])
      (hgoing : (session.next event).jobs.closed = session.jobs.closed)
      (hpending : (session.next event).pending = session.pending.set job.editor job)
      (htimers : (session.next event).timers =
        session.timers.set job.editor { active := true, interval := job.settings.debounce })

/-- What brings no job to wait and is no request. -/
theorem turn_of_unwinds {session : AssistSession} (htracked : session.Tracked)
    {event : AssistEvent} (hrequest : session.request? event = none)
    (hstale : ∀ key job, event.Expires key → session.pending.get? key = some job →
      session.latest key ≠ job.token)
    (hwaiting : (session.next event).jobs.waiting ⊆ session.jobs.waiting)
    (hunwinds : Unwinds session (session.next event)) : Turn session event :=
  .still hstale hrequest (htracked.numbered.workSince_eq_nil hwaiting) hunwinds

theorem turn_of_flush {session : AssistSession} (hclocked : session.Clocked)
    (htracked : session.Tracked) {event : AssistEvent} {key : Text}
    (hexpires : ∀ other, event.Expires other ↔ other = key)
    (hrequest : session.request? event = none) {timers : Keyed Text RestTimer}
    (htimers : ∀ other, other ≠ key → timers.get? other = session.timers.get? other)
    (hnext : session.next event = (flush { session with timers } key).1) :
    Turn session event := by
  rcases flush_cases { session with timers } key with
    ⟨job, hjob, hlatest, hflush⟩ | ⟨hstale, hflush⟩
  · obtain ⟨jobs, inflight, waiting, hstart, hclosed, hwaiting, hjobs⟩ :=
      start_eq { session with timers, pending := session.pending.erase key } hclocked.going job
    have hafter := hnext.trans (hflush.trans hstart)
    refine .start ((hexpires key).mpr rfl) hjob hlatest ?_ (by rw [hafter]) ?_
    · rw [started, hafter]
      exact htracked.numbered.workSince_eq_singleton hwaiting hjobs
    · rw [hafter]
      exact .of_erase key (hclosed.trans hclocked.going.symm) rfl htimers
  · have hafter := hnext.trans hflush
    refine turn_of_unwinds htracked hrequest ?_ ?_ ?_
    · intro other job hother hjob
      obtain rfl := (hexpires other).mp hother
      exact hstale job hjob
    · rw [hafter]
      exact List.Subset.refl _
    · rw [hafter]
      exact .of_erase key rfl rfl htimers

theorem turn_of_fire {session : AssistSession} (hclocked : session.Clocked)
    (htracked : session.Tracked) (key : Text) : Turn session (.fire key) := by
  -- A clock that does not run has no request that waits for it.
  have hidle (hrests : ∀ timer, session.timers.get? key = some timer → timer.active = false)
      (hafter : session.next (.fire key) = session) : Turn session (.fire key) := by
    refine turn_of_unwinds htracked rfl ?_ ?_ ?_
    · rintro other job rfl hjob
      obtain ⟨-, timer, htimer, hactive⟩ := hclocked.rests key job hjob
      rw [hrests timer htimer] at hactive
      cases hactive
    · rw [hafter]
      exact List.Subset.refl _
    · rw [hafter]
      exact .refl session
  cases htimer : session.timers.get? key with
  | none => exact hidle (by simp [htimer]) (by simp [next, step, fire?, htimer])
  | some timer =>
      by_cases hactive : timer.active = true
      · obtain ⟨timers, hstopped, htimers⟩ := session.stopTimer_eq key
        have hafter : session.next (.fire key) = ((session.stopTimer key).flush key).1 := by
          simp [next, step, fire?, htimer, hactive]
        rw [hstopped] at hafter
        exact turn_of_flush hclocked htracked (fun _ => eq_comm) rfl htimers hafter
      · exact hidle (by simp [htimer, hactive]) (by simp [next, step, fire?, htimer, hactive])

theorem turn_of_request {session : AssistSession} (hclocked : session.Clocked)
    (htracked : session.Tracked) (trigger : AssistTrigger) (editor source : Text)
    (line column : Json) : Turn session (.request trigger editor source line column) := by
  rcases session.step_request_cases trigger editor source line column with
    ⟨hnone, reported, notices, -, hstep⟩ | ⟨excerpt, -, -, hsome, hstep⟩
  · have hafter := congrArg Prod.fst hstep
    refine turn_of_unwinds htracked hnone (fun _ _ => False.elim) ?_ ?_
    · rw [next, hafter]
      exact List.Subset.refl _
    · rw [next, hafter]
      exact .of_eq rfl rfl rfl
  · cases trigger with
    | manual =>
        obtain ⟨timers, hstopped, htimers⟩ := stopTimer_eq
          { session.withCache (editorKey editor) (session.cacheOf (editorKey editor)).advance with
            pending := session.pending.erase (editorKey editor) } (editorKey editor)
        obtain ⟨jobs, inflight, waiting, hstart, hclosed, hwaiting, hjobs⟩ := start_eq
          { session.withCache (editorKey editor) (session.cacheOf (editorKey editor)).advance with
            pending := session.pending.erase (editorKey editor), timers }
          hclocked.going (session.asked .manual editor excerpt)
        have hafter : session.next (.request .manual editor source line column) = _ :=
          (congrArg Prod.fst hstep).trans
            ((congrArg (fun quiet => (start quiet _).1) hstopped).trans hstart)
        refine .manual hsome rfl ?_ ?_
        · rw [started, hafter]
          exact htracked.numbered.workSince_eq_singleton hwaiting hjobs
        · rw [hafter]
          exact .of_erase (editorKey editor) (hclosed.trans hclocked.going.symm) rfl htimers
    | passive =>
        have hafter := congrArg Prod.fst hstep
        refine .passive hsome rfl ?_ ?_ ?_ ?_
        · rw [started, next, hafter]
          exact htracked.numbered.workSince_eq_nil (List.Subset.refl _)
        all_goals
          rw [next, hafter]
          rfl

theorem turn_of_begin {session : AssistSession} (htracked : session.Tracked) :
    Turn session .begin := by
  cases hbegin : session.jobs.begin? with
  | none =>
      have hafter : session.next .begin = session := by simp [next, step, begin?, hbegin]
      refine turn_of_unwinds htracked rfl (fun _ _ => False.elim) ?_ ?_ <;> rw [hafter]
      · exact List.Subset.refl _
      · exact .refl session
  | some jobs =>
      have hafter : session.next .begin = { session with jobs } := by
        simp [next, step, begin?, hbegin]
      obtain ⟨job, hwaiting, -⟩ := JobQueue.begin?_eq_some hbegin
      refine turn_of_unwinds htracked rfl (fun _ _ => False.elim) ?_ ?_ <;> rw [hafter]
      · rw [hwaiting]
        exact List.subset_cons_self ..
      · exact .of_eq (JobQueue.closed_begin? hbegin) rfl rfl

theorem turn_of_finish {session : AssistSession} (htracked : session.Tracked) (number : Nat)
    (provider : ChatProvider) : Turn session (.finish number provider) := by
  cases hfinish : session.jobs.finishJob? number with
  | none =>
      have hafter : session.next (.finish number provider) = session := by
        simp [next, step, finishJob?, hfinish]
      refine turn_of_unwinds htracked rfl (fun _ _ => False.elim) ?_ ?_ <;> rw [hafter]
      · exact List.Subset.refl _
      · exact .refl session
  | some finished =>
      obtain ⟨job, jobs⟩ := finished
      obtain ⟨inflight, result, hconclude⟩ := session.conclude_eq provider job jobs
      have hafter : session.next (.finish number provider) =
          (session.conclude provider job jobs).1 := by
        simp [next, step, finishJob?, hfinish]
      refine turn_of_unwinds htracked rfl (fun _ _ => False.elim) ?_ ?_ <;> rw [hafter, hconclude]
      · rw [(JobQueue.finishJob?_eq_some hfinish).2]
        exact List.Subset.refl _
      · exact .of_eq (JobQueue.closed_finishJob? hfinish) rfl rfl

theorem turn_of_drain {session : AssistSession} (htracked : session.Tracked) :
    Turn session .drain := by
  by_cases hwatching : session.watching = true
  · have hafter : session.next .drain =
        ({ session with results := [] }.settleEach session.results).1 := by
      simp [next, step, drain?, hwatching]
    refine turn_of_unwinds htracked rfl (fun _ _ => False.elim) ?_ ?_ <;> rw [hafter]
    · exact (calms_settleEach { session with results := [] } session.results).waiting
    · have hread : Unwinds session { session with results := [] } := .of_eq rfl rfl rfl
      exact hread.trans (unwinds_settleEach _ _)
  · have hafter : session.next .drain = session := by simp [next, step, drain?, hwatching]
    refine turn_of_unwinds htracked rfl (fun _ _ => False.elim) ?_ ?_ <;> rw [hafter]
    · exact List.Subset.refl _
    · exact .refl session

theorem turn_of_updateSettings {session : AssistSession} (htracked : session.Tracked)
    (settings : AssistantSettings) : Turn session (.updateSettings settings) := by
  have hunder : Unwinds session (session.under settings) := .of_eq rfl rfl rfl
  refine turn_of_unwinds htracked rfl (fun _ _ => False.elim) ?_ ?_ <;>
    rw [next, step, updateSettings_eq] <;> split
  · exact List.Subset.refl _
  · exact (calms_cancelEach (session.under settings) true _).waiting
  · exact hunder
  · exact hunder.trans (unwinds_cancelEach ..)

/-- Every event takes one of these turns, as long as the session goes on. -/
theorem turn {session : AssistSession} (hclocked : session.Clocked) (htracked : session.Tracked)
    {event : AssistEvent} (hgoing : event ≠ .shutdown) : Turn session event := by
  cases event with
  | edit editor =>
      refine turn_of_unwinds htracked rfl (fun _ _ => False.elim) ?_ ?_
      · exact (calms_noteEdit session editor).waiting
      · exact unwinds_noteEdit session editor
  | request trigger editor source line column =>
      exact turn_of_request hclocked htracked trigger editor source line column
  | fire key => exact turn_of_fire hclocked htracked key
  | flush key =>
      exact turn_of_flush hclocked htracked (fun _ => eq_comm) rfl (fun _ _ => rfl) rfl
  | begin => exact turn_of_begin htracked
  | finish number provider => exact turn_of_finish htracked number provider
  | drain => exact turn_of_drain htracked
  | cancel editor clear =>
      refine turn_of_unwinds htracked rfl (fun _ _ => False.elim) ?_ ?_
      · exact (calms_cancelFor session editor clear).waiting
      · exact unwinds_cancelFor session editor clear
  | cancelAll clear =>
      refine turn_of_unwinds htracked rfl (fun _ _ => False.elim) ?_ ?_
      · exact (calms_cancelEach session clear session.editors).waiting
      · exact unwinds_cancelEach session clear session.editors
  | updateSettings settings => exact turn_of_updateSettings htracked settings
  | shutdown => exact absurd rfl hgoing

theorem Clocked.step {session : AssistSession} (hclocked : session.Clocked)
    (htracked : session.Tracked) {event : AssistEvent} (hgoing : event ≠ .shutdown) :
    (session.next event).Clocked := by
  cases turn hclocked htracked hgoing with
  | still _ _ _ hunwinds | start _ _ _ _ _ hunwinds | manual _ _ _ hunwinds =>
      exact hclocked.unwind hunwinds
  | @passive job _ htrigger _ hclosed hpending htimers =>
      refine ⟨hclosed.trans hclocked.going, ?_, ?_⟩
      · rw [hpending]
        exact Keyed.nodup_keys_set hclocked.distinct _ _
      · rw [hpending, htimers]
        intro key other hother
        by_cases hkey : key = job.editor
        · subst hkey
          rw [Keyed.get?_set_self, Option.some.injEq] at hother
          subst hother
          exact ⟨htrigger, _, Keyed.get?_set_self .., rfl⟩
        · rw [Keyed.get?_set_of_ne _ _ hkey] at hother ⊢
          exact hclocked.rests key other hother

end AssistSession

end SchemaDesk
