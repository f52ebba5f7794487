import SchemaDesk.Proofs.AssistTracking
import SchemaDesk.Proofs.SuggestionSequence

/-!
# Silencing the assistant

Ending a session, or letting settings hold that switch the assistant off, cancels all that
has not begun and takes a number for every editor. From then on no job begins, whatever
waited or is asked for, and what was running when the session was silenced is stale by the
time it is answered.
-/

namespace SchemaDesk

namespace AssistEvent

/-- Does an event end the session or switch the assistant off? -/
def Silences : AssistEvent → Prop
  | .shutdown => True
  | .updateSettings settings => settings.enabled = false
  | _ => False

/-- Does an event switch the assistant on? -/
def Enables : AssistEvent → Prop
  | .updateSettings settings => settings.enabled = true
  | _ => False

end AssistEvent

namespace AssistSession

/-- From one session to a later one: no job begins or ends, nothing comes to wait, and no
number is taken back. -/
structure Calms (before after : AssistSession) : Prop where
  settings : after.settings = before.settings
  results : after.results = before.results
  running : after.jobs.running = before.jobs.running
  closed : after.jobs.closed = before.jobs.closed
  waiting : after.jobs.waiting ⊆ before.jobs.waiting
  pending : after.pending ⊆ before.pending
  latest : ∀ key, before.latest key ≤ after.latest key

namespace Calms

variable {first second third : AssistSession}

theorem refl (session : AssistSession) : Calms session session :=
  ⟨rfl, rfl, rfl, rfl, fun _ h => h, fun _ h => h, fun _ => Nat.le_refl _⟩

theorem trans (hfirst : Calms first second) (hsecond : Calms second third) :
    Calms first third where
  settings := hsecond.settings.trans hfirst.settings
  results := hsecond.results.trans hfirst.results
  running := hsecond.running.trans hfirst.running
  closed := hsecond.closed.trans hfirst.closed
  waiting := List.Subset.trans hsecond.waiting hfirst.waiting
  pending := List.Subset.trans hsecond.pending hfirst.pending
  latest key := (hfirst.latest key).trans (hsecond.latest key)

/-- What changes nothing but the numbers, the clocks and what has been complained of. -/
theorem of_eq (hsettings : second.settings = first.settings)
    (hresults : second.results = first.results) (hjobs : second.jobs = first.jobs)
    (hpending : second.pending = first.pending)
    (hlatest : ∀ key, first.latest key ≤ second.latest key) : Calms first second :=
  ⟨hsettings, hresults, by rw [hjobs], by rw [hjobs], by rw [hjobs]; exact fun _ h => h,
    by rw [hpending]; exact fun _ h => h, hlatest⟩

end Calms

theorem calms_withCache (session : AssistSession) (editor : Text) {cache : SuggestionCache}
    (hcache : session.latest editor ≤ cache.latest) :
    Calms session (session.withCache editor cache) := by
  refine .of_eq rfl rfl rfl rfl fun key => ?_
  rw [latest_withCache]
  split
  next hkey => rwa [← latest_editorKey session key, hkey, latest_editorKey]
  next => exact Nat.le_refl _

theorem calms_noteEdit (session : AssistSession) (editor : Text) :
    Calms session (session.noteEdit editor) := by
  unfold noteEdit
  split
  · exact .refl session
  · exact calms_withCache _ _ (Nat.le_succ _)

theorem calms_stopTimer (session : AssistSession) (key : Text) :
    Calms session (session.stopTimer key) := by
  unfold stopTimer
  split
  · exact .refl session
  · exact .of_eq rfl rfl rfl rfl fun _ => Nat.le_refl _

theorem calms_erasePending (session : AssistSession) (key : Text) :
    Calms session { session with pending := session.pending.erase key } :=
  ⟨rfl, rfl, rfl, rfl, fun _ h => h, fun _ hentry => (Keyed.mem_erase hentry).1,
    fun _ => Nat.le_refl _⟩

theorem calms_cancelInflight (session : AssistSession) (key : Text) :
    Calms session (session.cancelInflight key) := by
  rcases session.cancelInflight_cases key with ⟨-, hsame⟩ | ⟨number, inflight, -, -, hsame⟩ <;>
    rw [hsame]
  · exact .refl session
  · exact ⟨rfl, rfl, rfl, rfl, fun _ hjob => (List.mem_filter.mp hjob).1, fun _ h => h,
      fun _ => Nat.le_refl _⟩

theorem calms_quieted (session : AssistSession) (key : Text) :
    Calms session (session.quieted key) :=
  ((calms_erasePending session key).trans (calms_stopTimer _ key)).trans
    (calms_cancelInflight _ key)

theorem calms_cancelFor (session : AssistSession) (editor : Text) (clear : Bool) :
    Calms session (session.cancelFor editor clear).1 := by
  have hlatest := fun key => session.latest_le_cancelFor editor key clear
  rcases session.cancelFor_cases editor clear with ⟨-, hsame⟩ | ⟨-, caches, hsame⟩ <;>
    rw [hsame] at hlatest ⊢
  · exact .refl session
  · exact { session.calms_quieted (editorKey editor) with latest := hlatest }

theorem calms_cancelEach (session : AssistSession) (clear : Bool) (keys : List Text) :
    Calms session (session.cancelEach clear keys).1 := by
  induction keys generalizing session with
  | nil => exact .refl session
  | cons key rest ih => exact (calms_cancelFor session key clear).trans (ih _)

/-- A closed queue takes no job, so starting one only cancels an earlier one. -/
theorem calms_start {session : AssistSession} (hclosed : session.jobs.closed = true)
    (job : AssistJob) : Calms session (session.start job).1 := by
  have hcancel := session.calms_cancelInflight job.editor
  have hrefused : (session.cancelInflight job.editor).jobs.submit? job = none := by
    rw [JobQueue.submit?, if_pos (hcancel.closed.trans hclosed)]
  unfold start
  dsimp only
  rw [hrefused]
  exact hcancel

theorem calms_settle (session : AssistSession) (answer : AssistAnswer) (payload : Fields) :
    Calms session (session.settle answer payload).1 := by
  unfold settle
  split
  · exact .refl session
  · split
    · dsimp only
      split
      next cache hcache =>
        refine calms_withCache _ _ (Nat.le_of_eq ?_)
        exact (SuggestionCache.latest_offer? hcache).symm
      next => exact calms_withCache _ _ (Nat.le_refl _)
    · split
      · rw [complain_fst]
        exact .of_eq rfl rfl rfl rfl fun _ => Nat.le_refl _
      · exact .refl session

theorem calms_settleEach (session : AssistSession) (answers : List AssistAnswer) :
    Calms session (session.settleEach answers).1 := by
  induction answers generalizing session with
  | nil => exact .refl session
  | cons answer rest ih => exact (calms_settle session answer _).trans (ih _)

/-! ## What cancelling leaves -/

namespace Tracked

variable {session : AssistSession}

theorem waiting_cancelFor (htracked : session.Tracked) {key : Text} {clear : Bool}
    {job : Job AssistJob} (hjob : job ∈ (session.cancelFor key clear).1.jobs.waiting)
    (hempty : job.work.editor ≠ []) (hstripped : editorKey job.work.editor = job.work.editor) :
    job.work.editor ≠ key := by
  rintro rfl
  rcases session.cancelFor_cases job.work.editor clear with ⟨hnone, -⟩ | ⟨-, caches, hsame⟩
  · exact hempty (hstripped ▸ hnone)
  · rw [hsame, hstripped] at hjob
    exact htracked.waiting_quieted hjob rfl

theorem waiting_cancelEach (htracked : session.Tracked) {clear : Bool} {keys : List Text}
    {job : Job AssistJob} (hjob : job ∈ (session.cancelEach clear keys).1.jobs.waiting)
    (hempty : job.work.editor ≠ []) (hstripped : editorKey job.work.editor = job.work.editor) :
    job.work.editor ∉ keys := by
  induction keys generalizing session with
  | nil => exact List.not_mem_nil
  | cons key rest ih =>
      have hlater := (calms_cancelEach (session.cancelFor key clear).1 clear rest).waiting hjob
      have hne := htracked.waiting_cancelFor hlater hempty hstripped
      exact List.not_mem_cons_of_ne_of_not_mem hne (ih (htracked.cancelFor key clear) hjob)

end Tracked

theorem pending_cancelFor {session : AssistSession} {key : Text} {clear : Bool}
    {entry : Text × AssistJob} (hentry : entry ∈ (session.cancelFor key clear).1.pending)
    (hempty : entry.1 ≠ []) (hstripped : editorKey entry.1 = entry.1) : entry.1 ≠ key := by
  rintro rfl
  rcases session.cancelFor_cases entry.1 clear with ⟨hnone, -⟩ | ⟨-, caches, hsame⟩
  · exact hempty (hstripped ▸ hnone)
  · rw [hsame, hstripped] at hentry
    exact (Keyed.mem_erase (session.pending_quieted entry.1 ▸ hentry)).2 rfl

theorem pending_cancelEach {session : AssistSession} {clear : Bool} {keys : List Text}
    {entry : Text × AssistJob} (hentry : entry ∈ (session.cancelEach clear keys).1.pending)
    (hempty : entry.1 ≠ []) (hstripped : editorKey entry.1 = entry.1) : entry.1 ∉ keys := by
  induction keys generalizing session with
  | nil => exact List.not_mem_nil
  | cons key rest ih =>
      have hlater := (calms_cancelEach (session.cancelFor key clear).1 clear rest).pending hentry
      exact List.not_mem_cons_of_ne_of_not_mem (pending_cancelFor hlater hempty hstripped)
        (ih hentry)

/-! ## Silence -/

/-- The requests that run or whose answers wait to be looked at. -/
def begunNames (session : AssistSession) : List (Text × Int) :=
  session.results.map (·.name) ++ session.jobs.running.map (·.work.name)

/-- Nothing waits to begin and nothing can come to wait, and whatever has begun is stale.
`ended` says that other settings make no difference any more, and `begun` are the jobs that
ran when this came about. -/
structure Silent (ended : Prop) (begun : List (Job AssistJob)) (session : AssistSession) :
    Prop where
  waiting : session.jobs.waiting = []
  barred : session.jobs.closed = true ∨
    (¬ ended ∧ session.settings.enabled = false ∧ session.pending = [])
  running : session.jobs.running.Sublist begun
  stale : ∀ name ∈ session.begunNames, name.2 < session.latest name.1

theorem mem_names_of_begun {session : AssistSession} {name : Text × Int}
    (hname : name ∈ session.begunNames) : name ∈ session.names := by
  unfold begunNames at hname
  unfold names underway
  rcases List.mem_append.mp hname with hresult | hrunning
  · exact Multiset.mem_add.mpr (.inl hresult)
  · obtain ⟨job, hjob, rfl⟩ := List.mem_map.mp hrunning
    refine Multiset.mem_add.mpr (.inr (Multiset.mem_map_of_mem _ ?_))
    rw [Multiset.add_assoc]
    exact Multiset.mem_add.mpr (.inl (List.mem_map_of_mem hjob))

namespace Sequenced

variable {start session : AssistSession} {events : List AssistEvent}
  {announced : List AssistAnswer}

theorem named (hsequenced : Sequenced start events announced session) {name : Text × Int}
    (hname : name ∈ session.names) :
    name.1 ≠ [] ∧ editorKey name.1 = name.1 ∧ 0 < name.2 ∧ name.2 ≤ session.latest name.1 := by
  have hle := hsequenced.le_latest name (Multiset.mem_add.mpr (.inr hname))
  rcases Multiset.mem_add.mp hname with hresult | hunderway
  · obtain ⟨answer, hanswer, rfl⟩ := List.mem_map.mp hresult
    obtain ⟨hempty, hstripped, htoken⟩ := hsequenced.results_named hanswer
    exact ⟨hempty, hstripped, htoken, hle⟩
  · obtain ⟨job, hjob, rfl⟩ := Multiset.mem_map.mp hunderway
    obtain ⟨hempty, hstripped, htoken⟩ := (hsequenced.requested job hjob).name
    exact ⟨hempty, hstripped, Int.natCast_pos.mpr htoken, hle⟩

theorem mem_editors (hsequenced : Sequenced start events announced session)
    {name : Text × Int} (hname : name ∈ session.names) : name.1 ∈ session.editors := by
  obtain ⟨-, hstripped, hpos, hle⟩ := hsequenced.named hname
  exact mem_editors_of_latest_pos hstripped (by omega)

/-- Cancelling all makes stale whatever has begun. -/
theorem stale_cancelAll (hsequenced : Sequenced start events announced session) (clear : Bool)
    {name : Text × Int} (hname : name ∈ session.names) :
    name.2 < (session.cancelAll clear).1.latest name.1 := by
  obtain ⟨hempty, hstripped, hpos, hle⟩ := hsequenced.named hname
  have hgrown := latest_lt_cancelAll clear hempty hstripped
    (show 0 < session.latest name.1 by omega)
  omega

theorem waiting_cancelAll (hsequenced : Sequenced start events announced session)
    (htracked : session.Tracked) (clear : Bool) :
    (session.cancelAll clear).1.jobs.waiting = [] := by
  refine List.eq_nil_iff_forall_not_mem.mpr fun job hjob => ?_
  have hwaited := (calms_cancelEach session clear session.editors).waiting hjob
  have hname : job.work.name ∈ session.names := by
    refine Multiset.mem_add.mpr (.inr (Multiset.mem_map_of_mem _ ?_))
    exact Multiset.mem_add.mpr (.inl (Multiset.mem_add.mpr (.inr (List.mem_map_of_mem hwaited))))
  obtain ⟨hempty, hstripped, -⟩ := hsequenced.named hname
  exact htracked.waiting_cancelEach hjob hempty hstripped (hsequenced.mem_editors hname)

theorem pending_cancelAll (hsequenced : Sequenced start events announced session)
    (htracked : session.Tracked) (clear : Bool) : (session.cancelAll clear).1.pending = [] := by
  refine List.eq_nil_iff_forall_not_mem.mpr fun entry hentry => ?_
  have hwaited := (calms_cancelEach session clear session.editors).pending hentry
  have hname : entry.2.name ∈ session.names := by
    refine Multiset.mem_add.mpr (.inr (Multiset.mem_map_of_mem _ ?_))
    exact Multiset.mem_add.mpr (.inr (List.mem_map_of_mem hwaited))
  obtain ⟨hempty, hstripped, -⟩ := hsequenced.named hname
  have hkey : entry.1 = entry.2.name.1 := htracked.pending entry hwaited
  rw [← hkey] at hempty hstripped
  exact pending_cancelEach hentry hempty hstripped (hkey ▸ hsequenced.mem_editors hname)

end Sequenced

/-- The session under other settings, before anything is cancelled. -/
def under (session : AssistSession) (settings : AssistantSettings) : AssistSession :=
  { session with
    settings, reported := []
    caches := session.caches.map fun (key, cache) => (key, cache.resize settings.cacheSize) }

theorem updateSettings_eq (session : AssistSession) (settings : AssistantSettings) :
    session.updateSettings settings =
      if settings.enabled then (session.under settings, [])
      else (session.under settings).cancelAll true := rfl

@[simp]
theorem latest_under (session : AssistSession) (settings : AssistantSettings) (editor : Text) :
    (session.under settings).latest editor = session.latest editor :=
  latest_resized session settings [] settings.cacheSize editor

theorem Sequenced.under {start session : AssistSession} {events : List AssistEvent}
    {announced : List AssistAnswer} (hsequenced : Sequenced start events announced session)
    (settings : AssistantSettings) :
    Sequenced start events announced (session.under settings) where
  distinct := hsequenced.distinct
  le_latest name hname := by
    rw [latest_under]
    exact hsequenced.le_latest name hname
  requested := hsequenced.requested
  answered := hsequenced.answered

/-- An event that silences the assistant leaves nothing that could begin. -/
theorem silent_next {start session : AssistSession} {events : List AssistEvent}
    {announced : List AssistAnswer} (hsequenced : Sequenced start events announced session)
    (htracked : session.Tracked) {event : AssistEvent} (hsilences : event.Silences) :
    Silent (event = .shutdown) session.jobs.running (session.next event) := by
  -- What has begun stays as it was, and loses its number.
  have hstale {quiet next : AssistSession} {clear : Bool}
      (hquiet : Sequenced start events announced quiet)
      (hnext : Calms (quiet.cancelAll clear).1 next) (name : Text × Int)
      (hname : name ∈ next.begunNames) : name.2 < next.latest name.1 := by
    have hcalms := (calms_cancelEach quiet clear quiet.editors).trans hnext
    rw [begunNames, hcalms.results, hcalms.running] at hname
    have hgrown := hquiet.stale_cancelAll clear (mem_names_of_begun hname)
    have hlatest := hnext.latest name.1
    omega
  cases event with
  | shutdown =>
      have hcalms := calms_cancelEach session false session.editors
      refine ⟨rfl, .inl rfl, hcalms.running ▸ List.Sublist.refl _, ?_⟩
      intro name hname
      have hbegun : name ∈ (session.cancelAll false).1.begunNames := hname
      exact hstale hsequenced (.refl _) name hbegun
  | updateSettings settings =>
      have hdisabled : settings.enabled = false := hsilences
      have hunder := hsequenced.under settings
      have htracks : (session.under settings).Tracked := htracked.of_eq rfl rfl rfl
      have hcalms := calms_cancelEach (session.under settings) true (session.under settings).editors
      rw [next, step, updateSettings_eq, hdisabled]
      have hgoing : ¬AssistEvent.updateSettings settings = .shutdown := by simp
      refine ⟨hunder.waiting_cancelAll htracks true, ?_, hcalms.running ▸ List.Sublist.refl _,
        hstale hunder (.refl _)⟩
      refine .inr ⟨hgoing, ?_, hunder.pending_cancelAll htracks true⟩
      exact hcalms.settings ▸ hdisabled
  | _ => exact hsilences.elim

/-- A job that is over leaves an answer behind. -/
theorem conclude_eq (session : AssistSession) (provider : ChatProvider) (job : Job AssistJob)
    (jobs : JobQueue AssistJob) :
    ∃ inflight result, (session.conclude provider job jobs).1 =
      { session with jobs, inflight, results := session.results ++ [answerOf job.work result] } :=
  ⟨_, _, by rw [conclude, release_eq]⟩

/-- Nothing is asked for while the assistant is switched off. -/
theorem request?_of_disabled {session : AssistSession}
    (hdisabled : session.settings.enabled = false) (event : AssistEvent) :
    session.request? event = none := by
  cases event with
  | request trigger editor source line column =>
      have hprepare : session.prepare trigger editor source line column =
          .ok (session, [], none) := by
        simp [prepare, hdisabled, pure, Except.pure]
      rw [request?, hprepare]
      rfl
  | _ => rfl

namespace Silent

variable {ended : Prop} {begun : List (Job AssistJob)} {session after : AssistSession}

theorem calm (hsilent : Silent ended begun session) (hcalms : Calms session after) :
    Silent ended begun after where
  waiting := List.subset_nil.mp (hsilent.waiting ▸ hcalms.waiting)
  barred := by
    rw [hcalms.closed, hcalms.settings]
    refine hsilent.barred.imp_right ?_
    rintro ⟨hgoing, hdisabled, hpending⟩
    exact ⟨hgoing, hdisabled, List.subset_nil.mp (hpending ▸ hcalms.pending)⟩
  running := hcalms.running ▸ hsilent.running
  stale name hname := by
    rw [begunNames, hcalms.results, hcalms.running] at hname
    have hstale := hsilent.stale name hname
    have hlatest := hcalms.latest name.1
    omega

/-- What only drops jobs that run and answers that wait. -/
theorem of_subset (hsilent : Silent ended begun session)
    (hwaiting : after.jobs.waiting = session.jobs.waiting)
    (hclosed : after.jobs.closed = session.jobs.closed)
    (hsettings : after.settings = session.settings) (hpending : after.pending = session.pending)
    (hrunning : after.jobs.running.Sublist session.jobs.running)
    (hnames : after.begunNames ⊆ session.begunNames)
    (hlatest : ∀ key, after.latest key = session.latest key) : Silent ended begun after where
  waiting := hwaiting.trans hsilent.waiting
  barred := by rw [hclosed, hsettings, hpending]; exact hsilent.barred
  running := hrunning.trans hsilent.running
  stale name hname := by rw [hlatest]; exact hsilent.stale name (hnames hname)

theorem flush (hsilent : Silent ended begun session) (key : Text) :
    Silent ended begun (session.flush key).1 := by
  have herased := hsilent.calm (calms_erasePending session key)
  unfold AssistSession.flush
  split
  next => exact hsilent
  next job hjob =>
    rcases hsilent.barred with hclosed | ⟨-, -, hpending⟩
    · dsimp only
      split
      · refine herased.calm (calms_start ?_ job)
        exact hclosed
      · exact herased
    · rw [hpending] at hjob
      cases hjob

theorem enqueue (hsilent : Silent ended begun session) (hclosed : session.jobs.closed = true)
    (job : AssistJob) : Silent ended begun (session.enqueue job).1 := by
  unfold AssistSession.enqueue
  split
  · have hcalms := (calms_erasePending session job.editor).trans (calms_stopTimer _ job.editor)
    exact (hsilent.calm hcalms).calm (calms_start (hcalms.closed.trans hclosed) job)
  -- A request may come to rest, but when its time has come the queue takes no job.
  · exact ⟨hsilent.waiting, .inl hclosed, hsilent.running, hsilent.stale⟩

theorem under (hsilent : Silent ended begun session) {settings : AssistantSettings}
    (hkept : ended ∨ settings.enabled = false) :
    Silent ended begun (session.under settings) where
  waiting := hsilent.waiting
  barred := by
    refine hsilent.barred.imp_right ?_
    rintro ⟨hgoing, -, hpending⟩
    exact ⟨hgoing, hkept.resolve_left hgoing, hpending⟩
  running := hsilent.running
  stale name hname := by
    rw [latest_under]
    exact hsilent.stale name hname

theorem updateSettings (hsilent : Silent ended begun session) {settings : AssistantSettings}
    (hkept : ended ∨ settings.enabled = false) :
    Silent ended begun (session.updateSettings settings).1 := by
  rw [updateSettings_eq]
  split
  · exact hsilent.under hkept
  · exact (hsilent.under hkept).calm (calms_cancelEach _ true _)

theorem shutdown (hsilent : Silent ended begun session) :
    Silent ended begun session.shutdown := by
  have hcalmed := hsilent.calm (calms_cancelEach session false session.editors)
  exact ⟨rfl, .inl rfl, hcalmed.running, hcalmed.stale⟩

theorem begin?_eq_none (hsilent : Silent ended begun session) : session.begin? = none := by
  rw [AssistSession.begin?, JobQueue.begin?, hsilent.waiting]
  rfl

theorem finish (hsilent : Silent ended begun session) (number : Nat) (provider : ChatProvider) :
    Silent ended begun (((session.finishJob? number provider).map (·.1)).getD session) := by
  unfold AssistSession.finishJob?
  cases hfinish : session.jobs.finishJob? number with
  | none => exact hsilent
  | some finished =>
      obtain ⟨job, jobs⟩ := finished
      obtain ⟨hrunning, hwaiting⟩ := JobQueue.finishJob?_eq_some hfinish
      obtain ⟨inflight, result, hconclude⟩ := session.conclude_eq provider job jobs
      obtain ⟨found, -, hfinished⟩ := Option.map_eq_some_iff.mp hfinish
      cases hfinished
      simp only [Option.map_some, Option.getD_some]
      rw [hconclude]
      refine hsilent.of_subset rfl rfl rfl rfl List.eraseP_sublist ?_ fun _ => rfl
      -- The job takes its name along to its answer.
      intro name hname
      simp only [begunNames, List.map_append, List.map_cons, List.map_nil, name_answerOf,
        List.mem_append, List.mem_singleton] at hname ⊢
      rcases hname with (hearlier | rfl) | hleft
      · exact .inl hearlier
      · exact .inr (List.mem_map_of_mem (hrunning.mem_iff.mpr List.mem_cons_self))
      · exact .inr ((List.eraseP_sublist.map _).subset hleft)

theorem drain (hsilent : Silent ended begun session) :
    Silent ended begun (session.next .drain) := by
  simp only [next, AssistSession.step, drain?]
  split
  · refine calm ?_ (calms_settleEach _ _)
    exact hsilent.of_subset rfl rfl rfl rfl (List.Sublist.refl _)
      (List.subset_append_right ..) fun _ => rfl
  · exact hsilent

theorem request (hsilent : Silent ended begun session) (trigger : AssistTrigger)
    (editor source : Text) (line column : Json) :
    Silent ended begun (session.next (.request trigger editor source line column)) := by
  rcases session.step_request_cases trigger editor source line column with
    ⟨-, reported, notices, -, hstep⟩ | ⟨excerpt, -, -, hsome, hstep⟩ <;> rw [next, hstep]
  · exact hsilent.calm (.of_eq rfl rfl rfl rfl fun _ => Nat.le_refl _)
  · rcases hsilent.barred with hclosed | ⟨-, hdisabled, -⟩
    · have hcalms : Calms session (session.withCache (editorKey editor)
          (session.cacheOf (editorKey editor)).advance) := calms_withCache _ _ (Nat.le_succ _)
      exact (hsilent.calm hcalms).enqueue (hcalms.closed.trans hclosed) _
    · rw [request?_of_disabled hdisabled] at hsome
      cases hsome

/-- Silence lasts until an event switches the assistant on again, and for ever once the
session has ended. -/
theorem step (hsilent : Silent ended begun session) {event : AssistEvent}
    (hkept : ended ∨ ¬ event.Enables) : Silent ended begun (session.next event) := by
  cases event with
  | edit editor => exact hsilent.calm (calms_noteEdit session editor)
  | request trigger editor source line column => exact hsilent.request _ _ _ _ _
  | fire key =>
      rcases session.step_fire_cases key with hstep | hstep <;> rw [next, hstep]
      · exact hsilent
      · exact (hsilent.calm (calms_stopTimer session key)).flush key
  | flush key => exact hsilent.flush key
  | begin =>
      simp only [next, AssistSession.step, hsilent.begin?_eq_none]
      exact hsilent
  | finish number provider => exact hsilent.finish number provider
  | drain => exact hsilent.drain
  | cancel editor clear => exact hsilent.calm (calms_cancelFor session editor clear)
  | cancelAll clear => exact hsilent.calm (calms_cancelEach session clear session.editors)
  | updateSettings settings =>
      exact hsilent.updateSettings (hkept.imp_right Bool.eq_false_iff.mpr)
  | shutdown => exact hsilent.shutdown

theorem suggestions_eq_nil (hsilent : Silent ended begun session) (event : AssistEvent) :
    session.suggestions event = [] := by
  rw [suggestions_eq, List.map_eq_nil_iff, List.eq_nil_iff_forall_not_mem]
  intro answer hanswer
  obtain ⟨-, hresult, hannounced⟩ := mem_announced hanswer
  have hstale := hsilent.stale answer.name
    (List.mem_append_left _ (List.mem_map_of_mem hresult))
  rw [name_of_announces hannounced] at hstale
  exact Int.lt_irrefl _ hstale

/-- Silence lasts through a run. -/
theorem run (hsilent : Silent ended begun session) {events : List AssistEvent}
    (hkept : ended ∨ ∀ event ∈ events, ¬ event.Enables) :
    Silent ended begun (Run.after next session events) ∧
      Run.outputs next suggestions session events = [] := by
  induction events generalizing session with
  | nil => exact ⟨hsilent, rfl⟩
  | cons event rest ih =>
      have hnext := hsilent.step (hkept.imp_right fun h => h event List.mem_cons_self)
      obtain ⟨hafter, hnothing⟩ := ih hnext
        (hkept.imp_right fun h other hother => h other (List.mem_cons_of_mem _ hother))
      refine ⟨hafter, ?_⟩
      rw [Run.outputs, hsilent.suggestions_eq_nil, hnothing]
      rfl

end Silent

theorem tracked_new (settings : AssistantSettings) : Tracked { settings } where
  numbered := ⟨Multiset.nodup_zero, fun number hnumber =>
    absurd hnumber (Multiset.notMem_zero number)⟩
  waiting _ hjob := absurd hjob List.not_mem_nil
  pending _ hentry := absurd hentry List.not_mem_nil

theorem tracked_after (settings : AssistantSettings) (events : List AssistEvent) :
    Tracked (Run.after next { settings } events) := by
  refine Run.after_induction next { settings } (fun _ session => session.Tracked) ?_ ?_ events
  · exact tracked_new settings
  · exact fun _ event htracked => htracked.step event

/-- The event that silences the assistant announces no suggestion itself. -/
theorem suggestions_of_silences (session : AssistSession) {event : AssistEvent}
    (hsilences : event.Silences) : session.suggestions event = [] := by
  rw [suggestions_eq, List.map_eq_nil_iff, List.eq_nil_iff_forall_not_mem]
  intro answer hanswer
  rw [(mem_announced hanswer).1] at hsilences
  exact hsilences

/-- From the moment on that a session is ended, or that the assistant is switched off and as
long as it is not switched on again, no job begins: none waits to begin, and whatever runs
ran already. And no suggestion is announced, whoever is answered. -/
theorem silent_until_enabled (settings : AssistantSettings) (before : List AssistEvent)
    (event : AssistEvent) (since : List AssistEvent) (hsilences : event.Silences)
    (huntil : event = .shutdown ∨ ∀ later ∈ since, ¬ later.Enables) :
    (Run.after next { settings } (before ++ event :: since)).begin? = none ∧
      (Run.after next { settings } (before ++ event :: since)).jobs.running.Sublist
        (Run.after next { settings } before).jobs.running ∧
      Run.outputs next suggestions (Run.after next { settings } before) (event :: since) = [] := by
  have hsilent := silent_next (sequenced_after settings before) (tracked_after settings before)
    hsilences
  obtain ⟨hafter, hnothing⟩ := hsilent.run huntil
  rw [Run.after_append]
  refine ⟨hafter.begin?_eq_none, hafter.running, ?_⟩
  rw [Run.outputs, suggestions_of_silences _ hsilences, hnothing]
  rfl

/-- One editor is answered, one waits for its job to begin, and one has yet to rest. -/
def busyRun : List AssistEvent :=
  [.request .manual "a".toList "model A \x7b".toList (.int 1) (.int 10), .begin,
    .request .manual "b".toList "enum B \x7b".toList (.int 1) (.int 9),
    .request .passive "c".toList "view C \x7b".toList (.int 1) (.int 9)]

/-- All of them go on as if nothing had happened. -/
def goingOn : List AssistEvent :=
  [.fire "c".toList, .begin, .request .manual "b".toList [] (.int 1) (.int 1), .begin,
    .finish 0 fun _ => { result := .ok { ok := true, statusText := [], text := "X".toList } },
    .drain]

/-- The event that switches the assistant off. -/
def switchedOff : AssistEvent :=
  .updateSettings { keyedSettings with enabled := false }

theorem silent_while_busy :
    (Run.after next { settings := keyedSettings } busyRun).begin?.isSome = true ∧
      (Run.after next { settings := keyedSettings } busyRun).pending.keys = ["c".toList] ∧
      switchedOff.Silences ∧ (∀ later ∈ goingOn, ¬ later.Enables) ∧
      (Run.after next { settings := keyedSettings }
        (busyRun ++ switchedOff :: goingOn)).begin? = none ∧
      (Run.after next { settings := keyedSettings }
        (busyRun ++ switchedOff :: goingOn)).jobs.running.Sublist
        (Run.after next { settings := keyedSettings } busyRun).jobs.running ∧
      Run.outputs next suggestions (Run.after next { settings := keyedSettings } busyRun)
        (switchedOff :: goingOn) = [] := by
  have huntil : ∀ later ∈ goingOn, ¬ later.Enables := by
    intro later hlater
    simp only [goingOn, List.mem_cons, List.not_mem_nil, or_false] at hlater
    rcases hlater with rfl | rfl | rfl | rfl | rfl | rfl <;> exact id
  exact ⟨by decide +kernel, by decide +kernel, rfl, huntil,
    silent_until_enabled keyedSettings busyRun switchedOff goingOn rfl (.inr huntil)⟩

end AssistSession

end SchemaDesk
