import SchemaDesk.Proofs.EditorClocks

/-!
# Requests that wait for their editor to rest

When the clock of an editor goes off, in time or late or once more, the request that waits for
it starts exactly if nothing has happened in the editor since it was made. So no request starts
twice, and none starts that is no longer wanted.
-/

namespace SchemaDesk

namespace AssistSession

/-! ## Clocks that go off -/

theorem not_expires_of_request? {session : AssistSession} {event : AssistEvent} {job : AssistJob}
    (hrequest : session.request? event = some job) (key : Text) : ¬ event.Expires key := by
  cases event with
  | request => exact id
  | _ => cases hrequest

theorem eq_of_expires {event : AssistEvent} {key other : Text} (hkey : event.Expires key)
    (hother : event.Expires other) : key = other := by
  cases event with
  | fire | flush => exact hkey.symm.trans hother
  | _ => exact hkey.elim

/-- Clocks take no numbers. -/
theorem latest_of_expires {session : AssistSession} {event : AssistEvent} {key : Text}
    (hexpires : event.Expires key) (other : Text) :
    (session.next event).latest other = session.latest other := by
  have hrenews : ¬ session.Renews (editorKey other) event := by
    cases event with
    | fire | flush => exact id
    | _ => exact hexpires.elim
  simpa [next] using latest_step_of_not_renews (editorKey_editorKey other) hrenews

theorem Tracked.editor_of_pending {session : AssistSession} (htracked : session.Tracked)
    {key : Text} {job : AssistJob} (hjob : session.pending.get? key = some job) :
    job.editor = key :=
  (htracked.pending _ (Keyed.mem_of_get? hjob)).symm

/-- A clock that goes off starts the request that waits for it, if that carries the latest
number of its editor, and nothing else. -/
theorem mem_started_of_expires {session : AssistSession} (hclocked : session.Clocked)
    (htracked : session.Tracked) {event : AssistEvent} {key : Text}
    (hexpires : event.Expires key) (job : AssistJob) :
    job ∈ session.started event ↔
      session.pending.get? key = some job ∧ session.latest key = job.token := by
  have hgoing : event ≠ .shutdown := by
    rintro rfl
    exact hexpires
  cases turn hclocked htracked hgoing with
  | still hstale _ hstarted =>
      rw [hstarted]
      refine iff_of_false List.not_mem_nil ?_
      rintro ⟨hjob, hlatest⟩
      exact hstale key job hexpires hjob hlatest
  | @start other found hother hjob hlatest hstarted =>
      obtain rfl := eq_of_expires hexpires hother
      rw [hstarted, List.mem_singleton, hjob, Option.some.injEq]
      refine ⟨?_, fun h => h.1.symm⟩
      rintro rfl
      exact ⟨rfl, hlatest⟩
  | manual hrequest | passive hrequest =>
      exact absurd hexpires (not_expires_of_request? hrequest key)

theorem ne_shutdown_of_mem_started {session : AssistSession} {event : AssistEvent}
    {job : AssistJob} (hjob : job ∈ session.started event) : event ≠ .shutdown := by
  rintro rfl
  exact absurd hjob List.not_mem_nil

/-- What starts carries the latest number of its editor, also once it has started. -/
theorem latest_of_mem_started {session : AssistSession} (hclocked : session.Clocked)
    (htracked : session.Tracked) {event : AssistEvent} {job : AssistJob}
    (hjob : job ∈ session.started event) :
    (session.next event).latest job.editor = job.token := by
  cases turn hclocked htracked (ne_shutdown_of_mem_started hjob) with
  | still _ _ hstarted | passive _ _ hstarted =>
      rw [hstarted] at hjob
      cases hjob
  | @start key found hexpires hfound hlatest hstarted =>
      rw [hstarted, List.mem_singleton] at hjob
      subst hjob
      rw [htracked.editor_of_pending hfound, latest_of_expires hexpires]
      exact hlatest
  | manual hrequest _ hstarted =>
      rw [hstarted, List.mem_singleton] at hjob
      subst hjob
      exact (request?_eq_some hrequest).2.2.2

/-- What starts was waiting or has just been asked for, and waits no longer. -/
theorem started_add_pending_le {session : AssistSession} (hclocked : session.Clocked)
    (htracked : session.Tracked) {event : AssistEvent} (hgoing : event ≠ .shutdown) :
    ((session.started event : List AssistJob) : Multiset AssistJob) +
        (session.next event).pending.values ≤
      session.pending.values + (session.request? event).toList := by
  have hdropped {after : AssistSession} (hunwinds : Unwinds session after) :
      after.pending.values ≤ session.pending.values :=
    Multiset.coe_le.mpr (hunwinds.pending.map _).subperm
  cases turn hclocked htracked hgoing with
  | still _ hrequest hstarted hunwinds =>
      simpa [hrequest, hstarted] using hdropped hunwinds
  | start _ hjob _ hstarted hpending hunwinds =>
      rw [hstarted, hpending, Multiset.coe_singleton, Multiset.add_comm]
      exact (Keyed.values_erase_add_le hjob).trans (Multiset.le_add_right _ _)
  | manual hrequest _ hstarted hunwinds =>
      rw [hstarted, hrequest, Multiset.add_comm]
      exact Multiset.add_le_add_right (hdropped hunwinds)
  | passive hrequest _ hstarted _ hpending =>
      rw [hstarted, hrequest, hpending, Multiset.coe_nil, Multiset.zero_add]
      exact Keyed.values_set_le ..

/-! ## Whole runs -/

/-- The requests that have been started and those that wait still have names of their own,
whose numbers have been given out. -/
structure Accounted (begun : List AssistJob) (session : AssistSession) : Prop where
  distinct : (((begun : Multiset AssistJob) + session.pending.values).map (·.name)).Nodup
  le_latest : ∀ job ∈ (begun : Multiset AssistJob) + session.pending.values,
    job.token ≤ session.latest job.editor

theorem Accounted.step {begun : List AssistJob} {session : AssistSession}
    (haccounted : Accounted begun session) (hclocked : session.Clocked)
    (htracked : session.Tracked) {event : AssistEvent} (hgoing : event ≠ .shutdown) :
    Accounted (begun ++ session.started event) (session.next event) := by
  have hflow : ((begun ++ session.started event : List AssistJob) : Multiset AssistJob) +
      (session.next event).pending.values ≤
        ((begun : Multiset AssistJob) + session.pending.values) +
          (session.request? event).toList := by
    rw [← Multiset.coe_add, Multiset.add_assoc, Multiset.add_assoc]
    exact Multiset.add_le_add_left (started_add_pending_le hclocked htracked hgoing)
  have hgrown (key : Text) := latest_le_step session event key
  cases hrequest : session.request? event with
  | none =>
      rw [hrequest, Option.toList_none, Multiset.coe_nil, Multiset.add_zero] at hflow
      refine ⟨Multiset.nodup_of_le (Multiset.map_le_map hflow) haccounted.distinct, ?_⟩
      intro job hjob
      exact (haccounted.le_latest job (Multiset.mem_of_le hflow hjob)).trans (hgrown _)
  | some made =>
      obtain ⟨-, -, htoken, hlatest⟩ := request?_eq_some hrequest
      rw [hrequest, Option.toList_some, Multiset.coe_singleton] at hflow
      -- Every number so far is at most the latest one, which the new request goes beyond.
      have hfresh : made.name ∉
          ((begun : Multiset AssistJob) + session.pending.values).map (·.name) := by
        intro hmem
        obtain ⟨job, hjob, hname⟩ := Multiset.mem_map.mp hmem
        have hle := haccounted.le_latest job hjob
        obtain ⟨heditor, hnumber⟩ := Prod.mk.inj hname
        rw [heditor] at hle
        have hsame := Int.ofNat.inj hnumber
        omega
      refine ⟨Multiset.nodup_of_le (Multiset.map_le_map hflow) ?_, ?_⟩
      · rw [Multiset.map_add, Multiset.map_singleton, Multiset.add_comm, Multiset.singleton_add]
        exact Multiset.nodup_cons.mpr ⟨hfresh, haccounted.distinct⟩
      · intro job hjob
        rcases Multiset.mem_add.mp (Multiset.mem_of_le hflow hjob) with hearlier | hnew
        · exact (haccounted.le_latest job hearlier).trans (hgrown _)
        · rw [Multiset.mem_singleton.mp hnew]
          exact hlatest.ge

theorem clocked_after (settings : AssistantSettings) {events : List AssistEvent}
    (hgoing : AssistEvent.shutdown ∉ events) :
    (Run.after next { settings } events).Clocked ∧
      Accounted (Run.outputs next started { settings } events)
        (Run.after next { settings } events) := by
  induction events using List.reverseRecOn with
  | nil =>
      refine ⟨⟨rfl, List.nodup_nil, nofun⟩, ⟨Multiset.nodup_zero, ?_⟩⟩
      exact fun job hjob => absurd hjob (Multiset.notMem_zero job)
  | append_singleton events event ih =>
      obtain ⟨hearlier, hevent⟩ : AssistEvent.shutdown ∉ events ∧ AssistEvent.shutdown ≠ event := by
        simpa using hgoing
      obtain ⟨hclocked, haccounted⟩ := ih hearlier
      have htracked := tracked_after settings events
      rw [Run.after_concat, Run.outputs_concat]
      exact ⟨hclocked.step htracked hevent.symm, haccounted.step hclocked htracked hevent.symm⟩

/-- A request of a run waits for its editor to rest, and since it was made there has been no
edit, request or cancel of its editor. -/
structure Wanted (start : AssistSession) (events : List AssistEvent) (job : AssistJob) :
    Prop where
  waits : (Run.after next start events).pending.get? job.editor = some job
  unrenewed : ∃ before request since, events = before ++ request :: since ∧
    (Run.after next start before).request? request = some job ∧
    ∀ earlier other later, since = earlier ++ other :: later →
      ¬ (Run.after next start (before ++ request :: earlier)).Renews job.editor other

/-- A request keeps the latest number of its editor as long as nothing renews it. -/
theorem latest_of_not_renews {start : AssistSession} {before since : List AssistEvent}
    {request : AssistEvent} {job : AssistJob}
    (hjob : (Run.after next start before).request? request = some job)
    (hquiet : ∀ earlier other later, since = earlier ++ other :: later →
      ¬ (Run.after next start (before ++ request :: earlier)).Renews job.editor other) :
    (Run.after next start (before ++ request :: since)).latest job.editor = job.token := by
  obtain ⟨-, hstripped, -, hfirst⟩ := request?_eq_some hjob
  induction since using List.reverseRecOn with
  | nil => rw [Run.after_concat, hfirst]
  | append_singleton earlier event ih =>
      have hevent := hquiet earlier event [] rfl
      have hevents : before ++ request :: (earlier ++ [event]) =
          before ++ request :: earlier ++ [event] := by simp
      rw [hevents, Run.after_concat, next, latest_step_of_not_renews hstripped hevent]
      refine ih fun first other later hsince => ?_
      exact hquiet first other (later ++ [event]) (by simp [hsince])

/-- What waits is wanted as long as it carries the latest number. -/
theorem wanted_iff (settings : AssistantSettings) (events : List AssistEvent) (job : AssistJob) :
    Wanted { settings } events job ↔
      (Run.after next { settings } events).pending.get? job.editor = some job ∧
        (Run.after next { settings } events).latest job.editor = job.token := by
  constructor
  · rintro ⟨hwaits, before, request, since, rfl, hjob, hquiet⟩
    exact ⟨hwaits, latest_of_not_renews hjob hquiet⟩
  · rintro ⟨hwaits, hlatest⟩
    have hvalue : job ∈ (Run.after next { settings } events).pending.values :=
      List.mem_map.mpr ⟨_, Keyed.mem_of_get? hwaits, rfl⟩
    have hunderway : job ∈ (Run.after next { settings } events).underway :=
      Multiset.mem_add.mpr (.inr hvalue)
    obtain ⟨before, request, since, rfl, hjob⟩ :=
      (sequenced_after settings events).requested job hunderway
    exact ⟨hwaits, before, request, since, rfl, hjob, fun _ _ _ =>
      not_renews_of_latest hjob hlatest⟩

theorem nodup_editors_pending {session : AssistSession} (hclocked : session.Clocked)
    (htracked : session.Tracked) : (session.pending.values.map (·.editor)).Nodup := by
  have hkeys : session.pending.values.map (·.editor) = (session.pending.keys : List Text) := by
    rw [Keyed.values, Multiset.map_coe, List.map_map, Keyed.keys]
    refine congrArg _ (List.map_congr_left fun entry hentry => ?_)
    exact (htracked.pending entry hentry).symm
  rw [hkeys]
  exact Multiset.coe_nodup.mpr hclocked.distinct

/-- What was made to wait starts only when a clock goes off for its editor. -/
theorem expires_of_mem_started {session : AssistSession} (hclocked : session.Clocked)
    (htracked : session.Tracked) {event : AssistEvent} {job : AssistJob}
    (hjob : job ∈ session.started event) (htrigger : job.trigger = .passive) :
    event.Expires job.editor := by
  cases turn hclocked htracked (ne_shutdown_of_mem_started hjob) with
  | still _ _ hstarted | passive _ _ hstarted =>
      rw [hstarted] at hjob
      cases hjob
  | start hexpires hfound _ hstarted =>
      rw [hstarted, List.mem_singleton] at hjob
      subst hjob
      rwa [htracked.editor_of_pending hfound]
  | manual _ hmanual hstarted =>
      rw [hstarted, List.mem_singleton] at hjob
      subst hjob
      rw [hmanual] at htrigger
      cases htrigger

/-- What has been asked for before another request of its editor does not start any more. -/
theorem name_ne_of_mem_started {start : AssistSession} {before between since : List AssistEvent}
    {first second : AssistEvent} {job other late : AssistJob}
    (hjob : (Run.after next start before).request? first = some job)
    (hother : (Run.after next start (before ++ first :: between)).request? second = some other)
    (heditor : other.editor = job.editor)
    (hclocked : (Run.after next start (before ++ first :: between ++ second :: since)).Clocked)
    (htracked : (Run.after next start (before ++ first :: between ++ second :: since)).Tracked)
    {event : AssistEvent}
    (hlate : late ∈
      (Run.after next start (before ++ first :: between ++ second :: since)).started event) :
    late.name ≠ job.name := by
  intro hname
  obtain ⟨hsame, hnumber⟩ := Prod.mk.inj hname
  have htoken : late.token = job.token := Int.ofNat.inj hnumber
  -- Numbers grow from the request to the other one and on to the one that starts.
  have hearlier : job.token ≤
      (Run.after next start (before ++ first :: between)).latest job.editor := by
    have hgrown := latest_le_after (Run.after next start (before ++ [first])) between job.editor
    rw [← Run.after_append, Run.after_concat, (request?_eq_some hjob).2.2.2] at hgrown
    simpa using hgrown
  have hlater : other.token ≤ (Run.after next start
      (before ++ first :: between ++ second :: since)).latest job.editor := by
    have hgrown := latest_le_after
      (Run.after next start (before ++ first :: between ++ [second])) since other.editor
    rw [← Run.after_append, Run.after_concat, (request?_eq_some hother).2.2.2, heditor] at hgrown
    simpa using hgrown
  have hlast := latest_le_step _ event job.editor |>.trans_eq
    (hsame ▸ latest_of_mem_started hclocked htracked hlate)
  have hnext := (request?_eq_some hother).2.2.1
  rw [heditor] at hnext
  omega

/-- As long as a session goes on, one request waits for each editor at most. A clock that goes
off starts a request exactly if it is the one that waits for the editor and there has been no
edit, request or cancel of the editor since it was made, and only so does a request start that
was made to wait. No request starts twice, and none that was made to wait starts after one that
started at once has been made for its editor. -/
theorem waiting_starts_while_wanted (settings : AssistantSettings) (events : List AssistEvent)
    (hgoing : AssistEvent.shutdown ∉ events) :
    ((Run.after next { settings } events).pending.values.map (·.editor)).Nodup ∧
    (∀ key event, event.Expires key → ∀ job,
      job ∈ (Run.after next { settings } events).started event ↔
        job.editor = key ∧ Wanted { settings } events job) ∧
    (∀ event, ∀ job ∈ (Run.after next { settings } events).started event,
      job.trigger = .passive → event.Expires job.editor) ∧
    ((Run.outputs next started { settings } events).map (·.name)).Nodup ∧
    (∀ before first between second since job manual,
      events = before ++ first :: between ++ second :: since →
      (Run.after next { settings } before).request? first = some job → job.trigger = .passive →
      (Run.after next { settings } (before ++ first :: between)).request? second = some manual →
      manual.trigger = .manual → manual.editor = job.editor →
      ∀ event, ∀ late ∈ (Run.after next { settings } events).started event,
        late.name ≠ job.name) := by
  obtain ⟨hclocked, haccounted⟩ := clocked_after settings hgoing
  have htracked := tracked_after settings events
  refine ⟨nodup_editors_pending hclocked htracked, ?_, ?_, ?_, ?_⟩
  · intro key event hexpires job
    rw [mem_started_of_expires hclocked htracked hexpires, wanted_iff]
    constructor
    · rintro ⟨hjob, hlatest⟩
      obtain rfl := htracked.editor_of_pending hjob
      exact ⟨rfl, hjob, hlatest⟩
    · rintro ⟨rfl, hjob, hlatest⟩
      exact ⟨hjob, hlatest⟩
  · exact fun event job hjob => expires_of_mem_started hclocked htracked hjob
  · refine Multiset.coe_nodup.mp (Multiset.nodup_of_le ?_ haccounted.distinct)
    rw [Multiset.map_add]
    exact Multiset.le_add_right _ _
  · rintro before first between second since job manual rfl hjob - hmanual - heditor event late
    exact name_ne_of_mem_started hjob hmanual heditor hclocked htracked

/-- One editor is edited before it asks again; another one asks at once while it is waiting. -/
def restingRun : List AssistEvent :=
  [.request .passive "a".toList "model A \x7b".toList (.int 1) (.int 10), .edit "a".toList,
    .request .passive "a".toList "model B \x7b".toList (.int 1) (.int 10),
    .request .passive "b".toList "enum C \x7b".toList (.int 1) (.int 9),
    .request .manual "b".toList "enum C \x7b".toList (.int 1) (.int 9)]

theorem rested_request_starts : AssistEvent.shutdown ∉ restingRun ∧
    (∃ job ∈ (Run.after next { settings := keyedSettings } restingRun).started (.fire "a".toList),
      job.token = 3 ∧ Wanted { settings := keyedSettings } restingRun job) ∧
    (Run.after next { settings := keyedSettings } restingRun).started (.fire "b".toList) = [] := by
  have hgoing : AssistEvent.shutdown ∉ restingRun := by simp [restingRun]
  obtain ⟨-, hstarts, -⟩ := waiting_starts_while_wanted keyedSettings restingRun hgoing
  have hjob : ∃ job ∈ (Run.after next { settings := keyedSettings } restingRun).started
      (.fire "a".toList), job.token = 3 := by
    decide +kernel
  obtain ⟨job, hjob, htoken⟩ := hjob
  have hwanted := ((hstarts "a".toList (.fire "a".toList) rfl job).mp hjob).2
  exact ⟨hgoing, ⟨job, hjob, htoken, hwanted⟩, by decide +kernel⟩

end AssistSession

end SchemaDesk
