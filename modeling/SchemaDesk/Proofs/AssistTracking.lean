import SchemaDesk.Proofs.AssistUnderway
import SchemaDesk.Proofs.Run

/-!
# Jobs that can still be cancelled

A job that has not begun is the one that its editor is known to wait for, and a request
that waits for its editor to rest stands under that editor. So whoever cancels what an
editor waits for leaves nothing of it that could still begin.
-/

namespace SchemaDesk

namespace JobQueue

variable {α : Type}

/-- The numbers of the jobs that wait or run. -/
def numbers (jobs : JobQueue α) : Multiset Nat :=
  (jobs.running.map (·.number) : List Nat) + (jobs.waiting.map (·.number) : List Nat)

/-- Each job has a number of its own, which has been given out. -/
structure Numbered (jobs : JobQueue α) : Prop where
  distinct : jobs.numbers.Nodup
  given : ∀ number ∈ jobs.numbers, number < jobs.submitted

namespace Numbered

variable {jobs next : JobQueue α}

theorem of_le (hnumbered : jobs.Numbered) (hnumbers : next.numbers ≤ jobs.numbers)
    (hsubmitted : next.submitted = jobs.submitted) : next.Numbered where
  distinct := Multiset.nodup_of_le hnumbers hnumbered.distinct
  given number hnumber := by
    rw [hsubmitted]
    exact hnumbered.given number (Multiset.mem_of_le hnumbers hnumber)

theorem submit (hnumbered : jobs.Numbered) {work : α} {number : Nat}
    (hsubmit : jobs.submit? work = some (number, next)) : next.Numbered := by
  unfold submit? at hsubmit
  split at hsubmit
  · cases hsubmit
  · cases hsubmit
    have hnumbers : numbers { jobs with
        waiting := jobs.waiting ++ [{ number := jobs.submitted, work }]
        submitted := jobs.submitted + 1 } = jobs.submitted ::ₘ jobs.numbers := by
      simp only [numbers, List.map_append, List.map_cons, List.map_nil, ← Multiset.coe_add,
        Multiset.coe_singleton]
      rw [← Multiset.add_assoc, Multiset.add_comm _ {jobs.submitted}, Multiset.singleton_add]
    -- All numbers so far are smaller than the one that is given out.
    refine ⟨?_, ?_⟩ <;> rw [hnumbers]
    · refine Multiset.nodup_cons.mpr ⟨?_, hnumbered.distinct⟩
      intro hmem
      exact Nat.lt_irrefl _ (hnumbered.given _ hmem)
    · intro other hother
      rcases Multiset.mem_cons.mp hother with rfl | hearlier
      · exact Nat.lt_succ_self _
      · exact Nat.lt_succ_of_lt (hnumbered.given other hearlier)

theorem cancel (hnumbered : jobs.Numbered) (number : Nat) : (jobs.cancel number).Numbered := by
  refine hnumbered.of_le ?_ rfl
  exact Multiset.add_le_add_left
    (Multiset.coe_le.mpr (List.filter_sublist.map _).subperm)

theorem begin (hnumbered : jobs.Numbered) (hbegin : jobs.begin? = some next) :
    next.Numbered := by
  unfold begin? at hbegin
  split at hbegin
  · cases hbegin
  next job rest hwaiting =>
    cases hbegin
    refine hnumbered.of_le ?_ rfl
    simp [numbers, hwaiting]

theorem finishJob (hnumbered : jobs.Numbered) {number : Nat} {job : Job α}
    (hfinish : jobs.finishJob? number = some (job, next)) :
    next.Numbered ∧ job.number ∉ next.numbers := by
  have hnumbers : jobs.numbers = job.number ::ₘ next.numbers := by
    obtain ⟨hrunning, hwaiting⟩ := finishJob?_eq_some hfinish
    have hperm : (jobs.running.map (·.number) : Multiset Nat) =
        job.number ::ₘ (next.running.map (·.number) : List Nat) :=
      Multiset.coe_eq_coe.mpr (hrunning.map _)
    rw [numbers, numbers, hperm, hwaiting, Multiset.cons_add]
  have hsubmitted : next.submitted = jobs.submitted := by
    obtain ⟨found, -, hfinished⟩ := Option.map_eq_some_iff.mp hfinish
    cases hfinished
    rfl
  refine ⟨hnumbered.of_le ?_ hsubmitted, ?_⟩
  · rw [hnumbers]
    exact Multiset.le_cons_self _ _
  · have hdistinct := hnumbered.distinct
    rw [hnumbers] at hdistinct
    exact (Multiset.nodup_cons.mp hdistinct).1

theorem close (hnumbered : jobs.Numbered) : jobs.close.Numbered :=
  hnumbered.of_le (Multiset.add_le_add_left (Multiset.zero_le _)) rfl

end Numbered

end JobQueue

namespace AssistSession

/-- Cancelling what an editor waits for changes the jobs and what is known of them, and
nothing else. -/
theorem cancelInflight_cases (session : AssistSession) (key : Text) :
    (session.inflight.get? key = none ∧ session.cancelInflight key = session) ∨
      ∃ number inflight, session.inflight.get? key = some number ∧
        (inflight = session.inflight ∨ inflight = session.inflight.erase key) ∧
        session.cancelInflight key =
          { session with jobs := session.jobs.cancel number, inflight } := by
  unfold cancelInflight
  split
  next hnone => exact .inl ⟨hnone, rfl⟩
  next number hnumber =>
    dsimp only
    split
    · refine .inr ⟨number, session.inflight.erase key, hnumber, .inr rfl, ?_⟩
      simp [release, hnumber]
    · exact .inr ⟨number, session.inflight, hnumber, .inl rfl, rfl⟩

/-- The session without what an editor waits for, as far as it has not begun. -/
def quieted (session : AssistSession) (key : Text) : AssistSession :=
  (({ session with pending := session.pending.erase key }).stopTimer key).cancelInflight key

@[simp]
theorem pending_quieted (session : AssistSession) (key : Text) :
    (session.quieted key).pending = session.pending.erase key := by
  have htimer (quiet : AssistSession) : (quiet.stopTimer key).pending = quiet.pending := by
    unfold stopTimer
    split <;> rfl
  unfold quieted
  rcases cancelInflight_cases (({ session with
    pending := session.pending.erase key }).stopTimer key) key with ⟨-, hsame⟩ | ⟨_, _, -, -, hsame⟩
  all_goals
    rw [hsame]
    exact htimer _

/-- Cancelling for an editor forgets what it waits for and changes its cache. -/
theorem cancelFor_cases (session : AssistSession) (editor : Text) (clear : Bool) :
    (editorKey editor = [] ∧ (session.cancelFor editor clear).1 = session) ∨
      (editorKey editor ≠ [] ∧ ∃ caches, (session.cancelFor editor clear).1 =
        { session.quieted (editorKey editor) with
          caches
          inflight :=
            (session.quieted (editorKey editor)).inflight.erase (editorKey editor) }) := by
  unfold cancelFor
  dsimp only
  split
  next hempty => exact .inl ⟨List.isEmpty_iff.mp hempty, rfl⟩
  next hempty =>
    refine .inr ⟨mt List.isEmpty_iff.mpr hempty, ?_⟩
    split <;> exact ⟨_, rfl⟩

/-- What has not begun is found by the name of its editor. -/
structure Tracked (session : AssistSession) : Prop where
  numbered : session.jobs.Numbered
  waiting : ∀ job ∈ session.jobs.waiting,
    session.inflight.get? job.work.editor = some job.number
  pending : ∀ entry ∈ session.pending, entry.1 = entry.2.editor

namespace Tracked

variable {session after : AssistSession}

theorem of_eq (htracked : session.Tracked) (hjobs : after.jobs = session.jobs)
    (hinflight : after.inflight = session.inflight) (hpending : after.pending = session.pending) :
    after.Tracked where
  numbered := hjobs ▸ htracked.numbered
  waiting := hjobs ▸ hinflight ▸ htracked.waiting
  pending := hpending ▸ htracked.pending

theorem erasePending (htracked : session.Tracked) (key : Text) :
    Tracked { session with pending := session.pending.erase key } where
  numbered := htracked.numbered
  waiting := htracked.waiting
  pending entry hentry := htracked.pending entry (Keyed.mem_erase hentry).1

theorem stopTimer (htracked : session.Tracked) (key : Text) : (session.stopTimer key).Tracked := by
  unfold AssistSession.stopTimer
  split
  · exact htracked
  · exact htracked.of_eq rfl rfl rfl

/-- What is known of an editor may be forgotten where none of its jobs waits. -/
theorem forget (htracked : session.Tracked) {key : Text}
    (hnone : ∀ job ∈ session.jobs.waiting, job.work.editor ≠ key) :
    Tracked { session with inflight := session.inflight.erase key } where
  numbered := htracked.numbered
  waiting job hjob := by
    rw [Keyed.get?_erase_of_ne _ (hnone job hjob)]
    exact htracked.waiting job hjob
  pending := htracked.pending

/-- Once an editor has been cancelled what it waits for, none of its jobs waits. -/
theorem editor_ne_of_cancel (htracked : session.Tracked) {key : Text} {number : Nat}
    (hnumber : session.inflight.get? key = some number) {job : Job AssistJob}
    (hjob : job ∈ (session.jobs.cancel number).waiting) :
    job ∈ session.jobs.waiting ∧ job.work.editor ≠ key := by
  obtain ⟨hwaiting, hother⟩ := List.mem_filter.mp hjob
  refine ⟨hwaiting, ?_⟩
  rintro rfl
  have hknown := htracked.waiting job hwaiting
  rw [hnumber, Option.some.injEq] at hknown
  simp [hknown] at hother

theorem waiting_cancelInflight (htracked : session.Tracked) {key : Text} {job : Job AssistJob}
    (hjob : job ∈ (session.cancelInflight key).jobs.waiting) :
    job ∈ session.jobs.waiting ∧ job.work.editor ≠ key := by
  rcases session.cancelInflight_cases key with
    ⟨hnone, hsame⟩ | ⟨number, inflight, hnumber, -, hsame⟩
  · rw [hsame] at hjob
    refine ⟨hjob, ?_⟩
    rintro rfl
    have hknown := htracked.waiting job hjob
    rw [hnone] at hknown
    cases hknown
  · rw [hsame] at hjob
    exact htracked.editor_ne_of_cancel hnumber hjob

theorem cancelInflight (htracked : session.Tracked) (key : Text) :
    (session.cancelInflight key).Tracked := by
  rcases session.cancelInflight_cases key with
    ⟨-, hsame⟩ | ⟨number, inflight, hnumber, hinflight, hsame⟩
  · rwa [hsame]
  · rw [hsame]
    have hcancelled : Tracked { session with jobs := session.jobs.cancel number } :=
      ⟨htracked.numbered.cancel number, fun job hjob =>
        htracked.waiting job (htracked.editor_ne_of_cancel hnumber hjob).1, htracked.pending⟩
    rcases hinflight with rfl | rfl
    · exact hcancelled
    · exact hcancelled.forget fun job hjob => (htracked.editor_ne_of_cancel hnumber hjob).2

/-- A job that is started is the one that its editor waits for from then on: none that it
waited for before is left. -/
theorem start (htracked : session.Tracked) (job : AssistJob) : (session.start job).1.Tracked := by
  have hcancelled := htracked.cancelInflight job.editor
  unfold AssistSession.start
  dsimp only
  split
  next => exact hcancelled
  next number jobs hsubmit =>
    refine ⟨hcancelled.numbered.submit hsubmit, ?_, hcancelled.pending⟩
    intro other hother
    rw [(JobQueue.submit?_eq_some hsubmit).2, List.mem_append, List.mem_singleton] at hother
    rcases hother with hearlier | rfl
    · have hne := (htracked.waiting_cancelInflight hearlier).2
      rw [Keyed.get?_set_of_ne _ _ hne]
      exact hcancelled.waiting other hearlier
    · exact Keyed.get?_set_self ..

theorem flush (htracked : session.Tracked) (key : Text) : (session.flush key).1.Tracked := by
  unfold AssistSession.flush
  split
  · exact htracked
  · dsimp only
    split
    · exact (htracked.erasePending key).start _
    · exact htracked.erasePending key

theorem enqueue (htracked : session.Tracked) (job : AssistJob) :
    (session.enqueue job).1.Tracked := by
  unfold AssistSession.enqueue
  split
  · exact ((htracked.erasePending job.editor).stopTimer job.editor).start job
  · refine ⟨htracked.numbered, htracked.waiting, ?_⟩
    intro entry hentry
    rcases Keyed.mem_set hentry with rfl | hearlier
    · rfl
    · exact htracked.pending entry hearlier

theorem quieted (htracked : session.Tracked) (key : Text) : (session.quieted key).Tracked :=
  ((htracked.erasePending key).stopTimer key).cancelInflight key

theorem waiting_quieted (htracked : session.Tracked) {key : Text} {job : Job AssistJob}
    (hjob : job ∈ (session.quieted key).jobs.waiting) : job.work.editor ≠ key :=
  (((htracked.erasePending key).stopTimer key).waiting_cancelInflight hjob).2

theorem cancelFor (htracked : session.Tracked) (editor : Text) (clear : Bool) :
    (session.cancelFor editor clear).1.Tracked := by
  rcases session.cancelFor_cases editor clear with ⟨-, hsame⟩ | ⟨-, caches, hsame⟩ <;> rw [hsame]
  · exact htracked
  · have hforgotten := (htracked.quieted (editorKey editor)).forget fun job hjob =>
      htracked.waiting_quieted hjob
    exact hforgotten.of_eq rfl rfl rfl

theorem cancelEach (htracked : session.Tracked) (clear : Bool) (keys : List Text) :
    (session.cancelEach clear keys).1.Tracked := by
  induction keys generalizing session with
  | nil => exact htracked
  | cons key rest ih => exact ih (htracked.cancelFor key clear)

theorem cancelAll (htracked : session.Tracked) (clear : Bool) :
    (session.cancelAll clear).1.Tracked :=
  htracked.cancelEach clear session.editors

theorem updateSettings (htracked : session.Tracked) (settings : AssistantSettings) :
    (session.updateSettings settings).1.Tracked := by
  unfold AssistSession.updateSettings
  dsimp only
  split
  · exact htracked.of_eq rfl rfl rfl
  · refine cancelAll ?_ true
    exact htracked.of_eq rfl rfl rfl

theorem shutdown (htracked : session.Tracked) : session.shutdown.Tracked := by
  refine ⟨(htracked.cancelAll false).numbered.close, ?_, ?_⟩
  · intro job hjob
    exact absurd hjob List.not_mem_nil
  · intro entry hentry
    exact absurd hentry List.not_mem_nil

theorem begin (htracked : session.Tracked) : (session.begin?.getD session).Tracked := by
  unfold AssistSession.begin?
  cases hbegin : session.jobs.begin? with
  | none => exact htracked
  | some jobs =>
      obtain ⟨first, hwaiting, -⟩ := JobQueue.begin?_eq_some hbegin
      refine ⟨htracked.numbered.begin hbegin, ?_, htracked.pending⟩
      intro job hjob
      exact htracked.waiting job (by rw [hwaiting]; exact List.mem_cons_of_mem _ hjob)

/-- A job that is over is no other one's, so what is known of jobs that wait stays. -/
theorem release (htracked : session.Tracked) {number : Nat}
    (hnumber : number ∉ session.jobs.numbers) (key : Text) :
    (session.release key number).Tracked := by
  unfold AssistSession.release
  split
  next hknown =>
    refine htracked.forget fun job hjob => ?_
    rintro rfl
    have hsame := htracked.waiting job hjob
    rw [hknown, Option.some.injEq] at hsame
    exact hnumber (hsame ▸ Multiset.mem_add.mpr (.inr (List.mem_map_of_mem hjob)))
  next => exact htracked

theorem finish (htracked : session.Tracked) (number : Nat) (provider : ChatProvider) :
    (((session.finishJob? number provider).map (·.1)).getD session).Tracked := by
  unfold AssistSession.finishJob?
  cases hfinish : session.jobs.finishJob? number with
  | none => exact htracked
  | some finished =>
      obtain ⟨job, jobs⟩ := finished
      obtain ⟨hnumbered, hover⟩ := htracked.numbered.finishJob hfinish
      have hleft : Tracked { session with jobs } := by
        refine ⟨hnumbered, ?_, htracked.pending⟩
        rw [(JobQueue.finishJob?_eq_some hfinish).2]
        exact htracked.waiting
      exact (hleft.release hover job.work.editor).of_eq rfl rfl rfl

theorem settle (htracked : session.Tracked) (answer : AssistAnswer) (payload : Fields) :
    (session.settle answer payload).1.Tracked := by
  unfold AssistSession.settle
  split
  · exact htracked
  · split
    · dsimp only
      split <;> exact htracked.of_eq rfl rfl rfl
    · split
      · rw [complain_fst]
        exact htracked.of_eq rfl rfl rfl
      · exact htracked

theorem settleEach (htracked : session.Tracked) (answers : List AssistAnswer) :
    (session.settleEach answers).1.Tracked := by
  induction answers generalizing session with
  | nil => exact htracked
  | cons answer rest ih => exact ih (htracked.settle answer _)

/-- Every event keeps track of what has not begun. -/
theorem step (htracked : session.Tracked) (event : AssistEvent) :
    (session.step event).1.Tracked := by
  cases event with
  | edit editor =>
      simp only [AssistSession.step, noteEdit]
      split
      · exact htracked
      · exact htracked.of_eq rfl rfl rfl
  | request trigger editor source line column =>
      rcases session.step_request_cases trigger editor source line column with
        ⟨-, reported, notices, -, hstep⟩ | ⟨excerpt, -, -, -, hstep⟩ <;> rw [hstep]
      · exact htracked.of_eq rfl rfl rfl
      · refine enqueue ?_ _
        exact htracked.of_eq rfl rfl rfl
  | fire key =>
      rcases session.step_fire_cases key with hstep | hstep <;> rw [hstep]
      · exact htracked
      · exact (htracked.stopTimer key).flush key
  | flush key => exact htracked.flush key
  | begin => exact htracked.begin
  | finish number provider => exact htracked.finish number provider
  | drain =>
      simp only [AssistSession.step, drain?]
      split
      · refine settleEach ?_ _
        exact htracked.of_eq rfl rfl rfl
      · exact htracked
  | cancel editor clear => exact htracked.cancelFor editor clear
  | cancelAll clear => exact htracked.cancelAll clear
  | updateSettings settings => exact htracked.updateSettings settings
  | shutdown => exact htracked.shutdown

end Tracked

end AssistSession

end SchemaDesk
