import Mathlib.Data.Multiset.AddSub
import Mathlib.Data.Multiset.MapFold
import SchemaDesk.Proofs.AssistEvents

/-!
# Requests that are under way

A request is under way from the moment it is made, while it waits for its editor to
rest, while its job waits and while it runs. An event makes one request at most, and
what becomes of those that are under way is that they are dropped, or that they go on
to the next station; none is ever doubled.
-/

namespace SchemaDesk

namespace Keyed

variable {κ α : Type}

/-- The values, whatever their keys. -/
def values (entries : Keyed κ α) : Multiset α :=
  (entries.map (·.2) : List α)

theorem values_cons (entry : κ × α) (rest : Keyed κ α) :
    values (entry :: rest) = entry.2 ::ₘ values rest := rfl

variable [DecidableEq κ]

theorem values_erase_le (entries : Keyed κ α) (key : κ) :
    (entries.erase key).values ≤ entries.values := by
  induction entries with
  | nil => exact le_refl _
  | cons entry rest ih =>
      unfold erase
      split
      · exact ih.trans (Multiset.le_cons_self _ _)
      · exact Multiset.cons_le_cons _ ih

theorem values_erase_add_le {entries : Keyed κ α} {key : κ} {value : α}
    (hvalue : entries.get? key = some value) :
    (entries.erase key).values + {value} ≤ entries.values := by
  induction entries with
  | nil => cases hvalue
  | cons entry rest ih =>
      unfold get? at hvalue
      unfold erase
      split
      next hkey =>
        rw [if_pos hkey, Option.some.injEq] at hvalue
        rw [← hvalue, Multiset.add_comm, Multiset.singleton_add]
        exact Multiset.cons_le_cons _ (values_erase_le rest key)
      next hkey =>
        rw [if_neg hkey] at hvalue
        exact (Multiset.cons_add entry.2 _ _).le.trans (Multiset.cons_le_cons _ (ih hvalue))

theorem values_set_le (entries : Keyed κ α) (key : κ) (value : α) :
    (entries.set key value).values ≤ entries.values + {value} := by
  induction entries with
  | nil => exact le_refl _
  | cons entry rest ih =>
      unfold set
      split
      · rw [Multiset.add_comm, Multiset.singleton_add, values_cons, values_cons]
        exact Multiset.cons_le_cons _ (Multiset.le_cons_self _ _)
      · exact (Multiset.cons_le_cons _ ih).trans (Multiset.cons_add entry.2 _ _).ge

end Keyed

namespace AssistSession

/-- The requests that are under way. -/
def underway (session : AssistSession) : Multiset AssistJob :=
  (session.jobs.running.map (·.work) : List AssistJob) +
    (session.jobs.waiting.map (·.work) : List AssistJob) + session.pending.values

/-- From one session to a later one: answers stay as they are, and at most the requests
that have been made in between are under way besides. -/
structure Grows (made : Multiset AssistJob) (before after : AssistSession) : Prop where
  results : after.results = before.results
  underway : after.underway ≤ before.underway + made

namespace Grows

theorem refl (session : AssistSession) : Grows 0 session session :=
  ⟨rfl, (Multiset.add_zero _).ge⟩

theorem trans {made more : Multiset AssistJob} {first second third : AssistSession}
    (hfirst : Grows made first second) (hsecond : Grows more second third) :
    Grows (made + more) first third where
  results := hsecond.results.trans hfirst.results
  underway := by
    rw [← Multiset.add_assoc]
    exact hsecond.underway.trans (Multiset.add_le_add_right hfirst.underway)

/-- A request may also be made and dropped at once. -/
theorem mono {made more : Multiset AssistJob} {before after : AssistSession}
    (hgrows : Grows made before after) (hmore : made ≤ more) : Grows more before after :=
  ⟨hgrows.results, hgrows.underway.trans (Multiset.add_le_add_left hmore)⟩

/-- What only drops requests that wait. -/
theorem of_le {before after : AssistSession} (hresults : after.results = before.results)
    (hrunning : after.jobs.running = before.jobs.running)
    (hwaiting : after.jobs.waiting.Sublist before.jobs.waiting)
    (hpending : after.pending.values ≤ before.pending.values) : Grows 0 before after := by
  refine ⟨hresults, ?_⟩
  rw [Multiset.add_zero, AssistSession.underway, hrunning]
  refine (Multiset.add_le_add_right (Multiset.add_le_add_left ?_)).trans
    (Multiset.add_le_add_left hpending)
  exact Multiset.coe_le.mpr (hwaiting.map _).subperm

/-- What changes neither the jobs nor what waits nor the answers. -/
theorem of_eq {before after : AssistSession} (hresults : after.results = before.results)
    (hjobs : after.jobs = before.jobs) (hpending : after.pending = before.pending) :
    Grows 0 before after :=
  of_le hresults (by rw [hjobs]) (by rw [hjobs]) (by rw [hpending])

theorem trans_zero {made : Multiset AssistJob} {first second third : AssistSession}
    (hfirst : Grows made first second) (hsecond : Grows 0 second third) :
    Grows made first third := by
  simpa using hfirst.trans hsecond

theorem zero_trans {made : Multiset AssistJob} {first second third : AssistSession}
    (hfirst : Grows 0 first second) (hsecond : Grows made second third) :
    Grows made first third := by
  simpa using hfirst.trans hsecond

end Grows

theorem grows_stopTimer (session : AssistSession) (key : Text) :
    Grows 0 session (session.stopTimer key) := by
  unfold stopTimer
  split
  · exact .refl session
  · exact .of_eq rfl rfl rfl

/-- Releasing a job only changes which one its editor waits for. -/
theorem release_eq (session : AssistSession) (key : Text) (number : Nat) :
    session.release key number =
      { session with inflight := (session.release key number).inflight } := by
  unfold release
  split <;> rfl

theorem grows_release (session : AssistSession) (key : Text) (number : Nat) :
    Grows 0 session (session.release key number) := by
  rw [release_eq]
  exact .of_eq rfl rfl rfl

theorem grows_cancelInflight (session : AssistSession) (key : Text) :
    Grows 0 session (session.cancelInflight key) := by
  unfold cancelInflight
  split
  next => exact .refl session
  next number _ =>
    have hcancel : Grows 0 session { session with jobs := session.jobs.cancel number } :=
      .of_le rfl rfl List.filter_sublist (le_refl _)
    dsimp only
    split
    · exact hcancel.trans_zero (grows_release _ key number)
    · exact hcancel

theorem grows_start (session : AssistSession) (job : AssistJob) :
    Grows {job} session (session.start job).1 := by
  have hcancel := session.grows_cancelInflight job.editor
  unfold start
  dsimp only
  split
  next => exact hcancel.mono (Multiset.zero_le _)
  next number jobs hsubmit =>
    obtain ⟨hrunning, hwaiting⟩ := JobQueue.submit?_eq_some hsubmit
    refine hcancel.zero_trans ⟨rfl, ?_⟩
    simp only [underway, hrunning, hwaiting, List.map_append, List.map_cons, List.map_nil,
      ← Multiset.coe_add, Multiset.coe_singleton]
    rw [← Multiset.add_assoc, Multiset.add_assoc _ {job}, Multiset.add_comm {job},
      ← Multiset.add_assoc]

theorem grows_flush (session : AssistSession) (key : Text) :
    Grows 0 session (session.flush key).1 := by
  unfold flush
  split
  next => exact .refl session
  next job hjob =>
    dsimp only
    split
    -- What is started has just been taken out of what waits, so it is counted once.
    · obtain ⟨hresults, hunderway⟩ := grows_start
        { session with pending := session.pending.erase key } job
      refine ⟨hresults, hunderway.trans ?_⟩
      rw [underway, Multiset.add_assoc, Multiset.add_zero]
      exact Multiset.add_le_add_left (Keyed.values_erase_add_le hjob)
    · exact .of_le rfl rfl (List.Sublist.refl _) (Keyed.values_erase_le _ _)

theorem grows_enqueue (session : AssistSession) (job : AssistJob) :
    Grows {job} session (session.enqueue job).1 := by
  unfold enqueue
  split
  · have herase : Grows 0 session { session with pending := session.pending.erase job.editor } :=
      .of_le rfl rfl (List.Sublist.refl _) (Keyed.values_erase_le _ _)
    exact (herase.trans_zero (grows_stopTimer _ job.editor)).zero_trans (grows_start _ job)
  · refine ⟨rfl, ?_⟩
    -- A request of the same editor that waited is overwritten.
    unfold underway
    rw [Multiset.add_assoc _ session.pending.values]
    exact Multiset.add_le_add_left (Keyed.values_set_le session.pending job.editor job)

theorem grows_cancelFor (session : AssistSession) (editor : Text) (clear : Bool) :
    Grows 0 session (session.cancelFor editor clear).1 := by
  unfold cancelFor
  dsimp only
  split
  · exact .refl session
  · have herase : Grows 0 session
        { session with pending := session.pending.erase (editorKey editor) } :=
      .of_le rfl rfl (List.Sublist.refl _) (Keyed.values_erase_le _ _)
    have hcancel := (herase.trans_zero (grows_stopTimer _ (editorKey editor))).trans_zero
      (grows_cancelInflight _ (editorKey editor))
    split <;> exact hcancel.trans_zero (.of_eq rfl rfl rfl)

theorem grows_cancelEach (session : AssistSession) (clear : Bool) (keys : List Text) :
    Grows 0 session (session.cancelEach clear keys).1 := by
  induction keys generalizing session with
  | nil => exact .refl session
  | cons key rest ih => exact (grows_cancelFor session key clear).trans_zero (ih _)

theorem grows_cancelAll (session : AssistSession) (clear : Bool) :
    Grows 0 session (session.cancelAll clear).1 :=
  grows_cancelEach session clear session.editors

theorem grows_updateSettings (session : AssistSession) (settings : AssistantSettings) :
    Grows 0 session (session.updateSettings settings).1 := by
  unfold updateSettings
  dsimp only
  split
  · exact .of_eq rfl rfl rfl
  · refine Grows.trans_zero ?_ (grows_cancelAll _ true)
    exact .of_eq rfl rfl rfl

theorem grows_shutdown (session : AssistSession) : Grows 0 session session.shutdown := by
  refine (grows_cancelAll session false).trans_zero ?_
  exact .of_le rfl rfl (List.nil_sublist _) (Multiset.zero_le _)

theorem grows_begin? (session : AssistSession) :
    Grows 0 session (session.begin?.getD session) := by
  unfold begin?
  cases hjobs : session.jobs.begin? with
  | none => exact .refl session
  | some jobs =>
      obtain ⟨job, hwaiting, hrunning⟩ := JobQueue.begin?_eq_some hjobs
      refine ⟨rfl, ?_⟩
      simp only [underway, Option.map_some, Option.getD_some, hwaiting, hrunning, List.map_append,
        List.map_cons, List.map_nil, Multiset.add_zero, Multiset.coe_add]
      rw [List.append_assoc]
      rfl

/-- A job that is over is no longer under way, and its answer waits to be looked at. -/
theorem finishJob?_eq_some {session next : AssistSession} {number : Nat}
    {provider : ChatProvider} {asked : Asked}
    (hnext : session.finishJob? number provider = some (next, asked)) :
    ∃ job result, next.results = session.results ++ [answerOf job result] ∧
      session.underway = next.underway + {job} := by
  unfold finishJob? at hnext
  cases hfinished : session.jobs.finishJob? number with
  | none => simp [hfinished] at hnext
  | some finished =>
      obtain ⟨job, jobs⟩ := finished
      obtain ⟨hrunning, hwaiting⟩ := JobQueue.finishJob?_eq_some hfinished
      rw [hfinished] at hnext
      cases hnext
      refine ⟨job.work, (provider (chatRequest job.work)).result, ?_, ?_⟩
      · rw [release_eq]
      · have hrunning' : (session.jobs.running.map (·.work) : Multiset AssistJob) =
            job.work ::ₘ (jobs.running.map (·.work) : List AssistJob) :=
          Multiset.coe_eq_coe.mpr (hrunning.map _)
        rw [release_eq, underway, underway, hrunning', hwaiting, Multiset.cons_add,
          Multiset.cons_add, ← Multiset.singleton_add, Multiset.add_comm]

theorem grows_settle (session : AssistSession) (answer : AssistAnswer) (payload : Fields) :
    Grows 0 session (session.settle answer payload).1 := by
  unfold settle
  split
  · exact .refl session
  · split
    · dsimp only
      split <;> exact .of_eq rfl rfl rfl
    · split
      · rw [complain_fst]
        exact .of_eq rfl rfl rfl
      · exact .refl session

theorem grows_settleEach (session : AssistSession) (answers : List AssistAnswer) :
    Grows 0 session (session.settleEach answers).1 := by
  induction answers generalizing session with
  | nil => exact .refl session
  | cons answer rest ih => exact (grows_settle session answer _).trans_zero (ih _)

/-- Where no job ends and no answer is looked at, at most the request that is made is
under way besides. -/
theorem grows_step (session : AssistSession) {event : AssistEvent} (hdrain : event ≠ .drain)
    (hfinish : ∀ number provider, event ≠ .finish number provider) :
    Grows (session.request? event).toList session (session.step event).1 := by
  cases event with
  | edit editor =>
      simp only [step, noteEdit]
      split
      · exact .refl session
      · exact .of_eq rfl rfl rfl
  | request trigger editor source line column =>
      rcases session.step_request_cases trigger editor source line column with
        ⟨hnone, reported, notices, -, hstep⟩ | ⟨excerpt, -, -, hsome, hstep⟩
      · rw [hstep, hnone]
        exact .of_eq rfl rfl rfl
      · rw [hstep, hsome]
        refine Grows.zero_trans ?_ (grows_enqueue _ _)
        exact .of_eq rfl rfl rfl
  | fire key =>
      rcases session.step_fire_cases key with hstep | hstep
      · rw [hstep]
        exact .refl session
      · rw [hstep]
        exact (grows_stopTimer session key).trans_zero (grows_flush _ key)
  | flush key => exact grows_flush session key
  | begin => exact grows_begin? session
  | finish number provider => exact absurd rfl (hfinish number provider)
  | drain => exact absurd rfl hdrain
  | cancel editor clear => exact grows_cancelFor session editor clear
  | cancelAll clear => exact grows_cancelAll session clear
  | updateSettings settings => exact grows_updateSettings session settings
  | shutdown => exact grows_shutdown session

end AssistSession

end SchemaDesk
