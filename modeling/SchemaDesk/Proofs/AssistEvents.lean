import SchemaDesk.Assistant.Session
import SchemaDesk.Proofs.TextForms

/-!
# Events of an assistant session

Everything that happens to a session of the assistant, in any order and for any
number of editors: edits, requests, clocks that go off, jobs that begin and end,
looking at the answers, cancelling, and other settings. The number of an editor
only ever grows, and whatever makes an earlier request stale makes it grow.
-/

namespace SchemaDesk

/-- What happens to a session. Jobs may end in any order, each with any answer. -/
inductive AssistEvent where
  | edit (editor : Text)
  | request (trigger : AssistTrigger) (editor source : Text) (line column : Json)
  | fire (key : Text)
  | flush (key : Text)
  | begin
  | finish (number : Nat) (provider : ChatProvider)
  | drain
  | cancel (editor : Text) (clear : Bool)
  | cancelAll (clear : Bool)
  | updateSettings (settings : AssistantSettings)
  | shutdown

namespace SuggestionCache

@[simp]
theorem latest_resize (cache : SuggestionCache) (size : Int) :
    (cache.resize size).latest = cache.latest := by
  unfold resize
  dsimp only
  split <;> rfl

theorem latest_offer? {cache next : SuggestionCache} {sequence : Int} {text : Text}
    {line column : Int} (hnext : cache.offer? sequence text line column = some next) :
    next.latest = cache.latest := by
  unfold offer? at hnext
  split at hnext
  · rw [← Option.some.inj hnext]
    rfl
  · cases hnext

end SuggestionCache

namespace AssistSession

/-- The session after an event, and what it announces. A request whose place is no
number changes nothing. -/
def step (session : AssistSession) : AssistEvent → AssistSession × List AssistNotice
  | .edit editor => (session.noteEdit editor, [])
  | .request .manual editor source line column =>
    (session.requestManual editor source line column).toOption.getD (session, [])
  | .request .passive editor source line column =>
    (session.requestPassive editor source line column).toOption.getD (session, [])
  | .fire key =>
    ((session.fire? key).map fun (next, notices, _) => (next, notices)).getD (session, [])
  | .flush key => session.flush key
  | .begin => (session.begin?.getD session, [])
  | .finish number provider => (((session.finishJob? number provider).map (·.1)).getD session, [])
  | .drain => session.drain?.getD (session, [])
  | .cancel editor clear => session.cancelFor editor clear
  | .cancelAll clear => session.cancelAll clear
  | .updateSettings settings => session.updateSettings settings
  | .shutdown => (session.shutdown, [])

/-- The latest number of an editor. -/
def latest (session : AssistSession) (editor : Text) : Nat :=
  (session.cacheOf editor).latest

/-- The request that an event makes, if it makes one. -/
def request? (session : AssistSession) : AssistEvent → Option AssistJob
  | .request trigger editor source line column =>
    (session.prepare trigger editor source line column).toOption.bind (·.2.2)
  | _ => none

/-- Does an event make what was asked for an editor before stale? -/
def Renews (session : AssistSession) (key : Text) : AssistEvent → Prop
  | .edit editor | .cancel editor _ => editorKey editor = key
  | .request trigger editor source line column =>
    ∃ job ∈ session.request? (.request trigger editor source line column), job.editor = key
  | .cancelAll _ | .shutdown => True
  | .updateSettings settings => settings.enabled = false
  | .fire _ | .flush _ | .begin | .finish .. | .drain => False

/-! ## Numbers -/

theorem editorKey_editorKey (editor : Text) : editorKey (editorKey editor) = editorKey editor :=
  Text.strip_strip editor

@[simp]
theorem latest_editorKey (session : AssistSession) (editor : Text) :
    session.latest (editorKey editor) = session.latest editor := by
  unfold latest cacheOf
  rw [editorKey_editorKey]

/-- Numbers stand in the caches; an editor without a cache has none yet. -/
theorem latest_eq (session : AssistSession) (editor : Text) :
    session.latest editor =
      ((session.caches.get? (editorKey editor)).map (·.latest)).getD 0 := by
  unfold latest cacheOf
  cases session.caches.get? (editorKey editor) <;> rfl

theorem latest_congr {before after : AssistSession} (hcaches : after.caches = before.caches)
    (editor : Text) : after.latest editor = before.latest editor := by
  rw [latest_eq, latest_eq, hcaches]

theorem latest_withCache (session : AssistSession) (editor other : Text)
    (cache : SuggestionCache) :
    (session.withCache editor cache).latest other =
      if editorKey other = editorKey editor then cache.latest else session.latest other := by
  rw [latest_eq, latest_eq]
  unfold withCache
  split
  next hkey => simp [hkey]
  next hkey => rw [Keyed.get?_set_of_ne _ _ hkey]

/-- Taking the next number for an editor. -/
theorem latest_withCache_succ (session : AssistSession) (editor other : Text)
    {cache : SuggestionCache} (hcache : cache.latest = session.latest editor + 1) :
    (session.withCache editor cache).latest other =
      session.latest other + if editorKey other = editorKey editor then 1 else 0 := by
  rw [latest_withCache]
  split
  next hkey => rw [hcache, ← latest_editorKey session other, hkey, latest_editorKey]
  next => rfl

theorem latest_noteEdit (session : AssistSession) (editor other : Text) :
    (session.noteEdit editor).latest other =
      session.latest other +
        if editorKey editor ≠ [] ∧ editorKey other = editorKey editor then 1 else 0 := by
  unfold noteEdit
  split
  next hempty => simp [List.isEmpty_iff.mp hempty]
  next hempty =>
    rw [latest_withCache_succ _ _ _ rfl]
    simp [mt List.isEmpty_iff.mpr hempty]

@[simp]
theorem caches_stopTimer (session : AssistSession) (key : Text) :
    (session.stopTimer key).caches = session.caches := by
  unfold stopTimer
  split <;> rfl

@[simp]
theorem caches_release (session : AssistSession) (key : Text) (number : Nat) :
    (session.release key number).caches = session.caches := by
  unfold release
  split <;> rfl

@[simp]
theorem caches_cancelInflight (session : AssistSession) (key : Text) :
    (session.cancelInflight key).caches = session.caches := by
  unfold cancelInflight
  split
  · rfl
  · dsimp only
    split <;> simp

@[simp]
theorem caches_start (session : AssistSession) (job : AssistJob) :
    (session.start job).1.caches = session.caches := by
  unfold start
  dsimp only
  split <;> simp

@[simp]
theorem caches_flush (session : AssistSession) (key : Text) :
    (session.flush key).1.caches = session.caches := by
  unfold flush
  split
  · rfl
  · dsimp only
    split <;> simp

/-- A complaint is noted, and nothing else. -/
theorem complain_fst (session : AssistSession) (message : Text) :
    (session.complain message).1 =
      { session with reported := (session.complain message).1.reported } := by
  unfold complain
  generalize Text.strip message = t
  dsimp only
  split <;> split <;> rfl

theorem suggestion_not_mem_complain (session : AssistSession) (message : Text)
    (payload : Fields) : AssistNotice.suggestion payload ∉ (session.complain message).2 := by
  unfold complain
  generalize Text.strip message = t
  dsimp only
  split <;> split <;> simp

theorem latest_cancelFor (session : AssistSession) (editor other : Text) (clear : Bool) :
    (session.cancelFor editor clear).1.latest other =
      session.latest other +
        if editorKey editor ≠ [] ∧ editorKey other = editorKey editor then 1 else 0 := by
  unfold cancelFor
  dsimp only
  split
  next hempty => simp [List.isEmpty_iff.mp hempty]
  next hempty =>
    have hcaches (quiet : AssistSession) (hquiet : quiet.caches = session.caches)
        (cache : SuggestionCache) (hcache : cache.latest = quiet.latest (editorKey editor) + 1) :
        (quiet.withCache (editorKey editor) cache).latest other =
          session.latest other + if editorKey other = editorKey editor then 1 else 0 := by
      rw [latest_withCache_succ _ _ _ hcache, editorKey_editorKey, latest_congr hquiet]
    simp only [mt List.isEmpty_iff.mpr hempty, ne_eq, not_false_eq_true, true_and]
    split <;> exact hcaches _ (by simp) _ rfl

theorem latest_le_cancelFor (session : AssistSession) (editor other : Text) (clear : Bool) :
    session.latest other ≤ (session.cancelFor editor clear).1.latest other := by
  rw [latest_cancelFor]
  omega

theorem latest_le_cancelEach (session : AssistSession) (clear : Bool) (keys : List Text)
    (other : Text) : session.latest other ≤ (session.cancelEach clear keys).1.latest other := by
  induction keys generalizing session with
  | nil => exact Nat.le_refl _
  | cons key rest ih => exact Nat.le_trans (latest_le_cancelFor ..) (ih _)

theorem latest_lt_cancelEach {session : AssistSession} (clear : Bool) {keys : List Text}
    {key : Text} (hkey : key ∈ keys) (hempty : key ≠ []) (hstripped : editorKey key = key) :
    session.latest key < (session.cancelEach clear keys).1.latest key := by
  induction keys generalizing session with
  | nil => cases hkey
  | cons first rest ih =>
      unfold cancelEach
      dsimp only
      -- The number grows when it is the turn of the key, and no other turn takes it back.
      rcases List.mem_cons.mp hkey with rfl | hrest
      · refine Nat.lt_of_lt_of_le ?_ (latest_le_cancelEach ..)
        rw [latest_cancelFor, hstripped, if_pos ⟨hempty, rfl⟩]
        exact Nat.lt_succ_self _
      · exact Nat.lt_of_le_of_lt (latest_le_cancelFor ..) (ih hrest)

theorem mem_editors_of_latest_pos {session : AssistSession} {key : Text}
    (hstripped : editorKey key = key) (hpos : 0 < session.latest key) :
    key ∈ session.editors := by
  rw [latest_eq, hstripped] at hpos
  have hkey : key ∈ session.caches.keys := by
    cases hcache : session.caches.get? key with
    | none => simp [hcache] at hpos
    | some cache => exact Keyed.mem_keys_of_get? hcache
  simp [editors, hkey]

theorem latest_lt_cancelAll {session : AssistSession} (clear : Bool) {key : Text}
    (hempty : key ≠ []) (hstripped : editorKey key = key) (hpos : 0 < session.latest key) :
    session.latest key < (session.cancelAll clear).1.latest key :=
  latest_lt_cancelEach clear (mem_editors_of_latest_pos hstripped hpos) hempty hstripped

/-- Other settings make room for more or fewer suggestions; numbers stay. -/
theorem latest_resized (session : AssistSession) (settings : AssistantSettings)
    (reported : List Text) (size : Int) (other : Text) :
    { session with
      settings, reported
      caches := session.caches.map fun (entry : Text × SuggestionCache) =>
        (entry.1, entry.2.resize size) }.latest other =
      session.latest other := by
  rw [latest_eq, latest_eq]
  dsimp only
  rw [Keyed.get?_map (SuggestionCache.resize · size)]
  cases session.caches.get? (editorKey other) with
  | none => rfl
  | some cache => exact SuggestionCache.latest_resize cache size

theorem latest_le_updateSettings (session : AssistSession) (settings : AssistantSettings)
    (other : Text) : session.latest other ≤ (session.updateSettings settings).1.latest other := by
  unfold updateSettings
  dsimp only
  split
  · rw [latest_resized]
  · rw [← latest_resized session settings [] settings.cacheSize other]
    exact latest_le_cancelEach ..

theorem latest_settle (session : AssistSession) (answer : AssistAnswer) (payload : Fields)
    (other : Text) : (session.settle answer payload).1.latest other = session.latest other := by
  unfold settle
  split
  · rfl
  · split
    · dsimp only
      split
      next cache hcache =>
        rw [latest_withCache]
        split
        next hkey =>
          rw [SuggestionCache.latest_offer? hcache, ← latest_editorKey session other, hkey,
            latest_editorKey]
          rfl
        next => rfl
      next =>
        rw [latest_withCache]
        split
        next hkey =>
          rw [← latest_editorKey session other, hkey, latest_editorKey]
          rfl
        next => rfl
    · split
      · rw [complain_fst]
        rfl
      · rfl

theorem latest_settleEach (session : AssistSession) (answers : List AssistAnswer)
    (other : Text) : (session.settleEach answers).1.latest other = session.latest other := by
  induction answers generalizing session with
  | nil => rfl
  | cons answer rest ih =>
      unfold settleEach
      dsimp only
      rw [ih, latest_settle]

/-- The request that is made for an editor where the settings allow it. -/
def asked (session : AssistSession) (trigger : AssistTrigger) (editor : Text)
    (excerpt : Excerpt) : AssistJob where
  editor := editorKey editor
  excerpt
  trigger
  token := session.latest (editorKey editor) + 1
  settings := session.settings

/-- Either no request is made, and at most a complaint about the settings is noted, or one
is made, which takes the next number of its editor. -/
theorem prepare_cases {session next : AssistSession} {trigger : AssistTrigger}
    {editor source : Text} {line column : Json} {notices : List AssistNotice}
    {made : Option AssistJob}
    (hnext : session.prepare trigger editor source line column = .ok (next, notices, made)) :
    (made = none ∧ (∃ reported, next = { session with reported }) ∧
        ∀ payload, AssistNotice.suggestion payload ∉ notices) ∨
      (∃ excerpt, Excerpt.ofRequest source line column = .ok excerpt ∧
        editorKey editor ≠ [] ∧ notices = [] ∧
        made = some (session.asked trigger editor excerpt) ∧
        next = session.withCache (editorKey editor)
          (session.cacheOf (editorKey editor)).advance) := by
  unfold prepare at hnext
  dsimp only at hnext
  split at hnext
  next =>
    cases hnext
    exact .inl ⟨rfl, ⟨_, rfl⟩, by simp⟩
  next hallowed =>
    split at hnext
    next =>
      cases hnext
      refine .inl ⟨rfl, ⟨_, complain_fst ..⟩, suggestion_not_mem_complain session _⟩
    next =>
      cases hexcerpt : Excerpt.ofRequest source line column with
      | error e =>
          rw [hexcerpt] at hnext
          cases hnext
      | ok excerpt =>
          rw [hexcerpt] at hnext
          cases hnext
          refine .inr ⟨excerpt, rfl, ?_, rfl, rfl, rfl⟩
          intro hempty
          simp [hempty] at hallowed

/-- The session once a request has been made for an editor: it waits for the editor to
rest, or starts at once. -/
def enqueue (session : AssistSession) (job : AssistJob) : AssistSession × List AssistNotice :=
  match job.trigger with
  | .manual =>
    let session := { session with pending := session.pending.erase job.editor }
    (session.stopTimer job.editor).start job
  | .passive =>
    let timer : RestTimer := { active := true, interval := job.settings.debounce }
    ({ session with
        pending := session.pending.set job.editor job
        timers := session.timers.set job.editor timer }, [])

/-- A request that cannot be made changes nothing but the complaints that were announced;
any other one takes the next number and is under way. -/
theorem step_request_cases (session : AssistSession) (trigger : AssistTrigger)
    (editor source : Text) (line column : Json) :
    (session.request? (.request trigger editor source line column) = none ∧
        ∃ reported notices, (∀ payload, AssistNotice.suggestion payload ∉ notices) ∧
          session.step (.request trigger editor source line column) =
            ({ session with reported }, notices)) ∨
      (∃ excerpt, Excerpt.ofRequest source line column = .ok excerpt ∧
        editorKey editor ≠ [] ∧
        session.request? (.request trigger editor source line column) =
          some (session.asked trigger editor excerpt) ∧
        session.step (.request trigger editor source line column) =
          (session.withCache (editorKey editor)
            (session.cacheOf (editorKey editor)).advance).enqueue
              (session.asked trigger editor excerpt)) := by
  cases hprepare : session.prepare trigger editor source line column with
  | error e =>
      refine .inl ⟨by simp [request?, hprepare, Except.toOption], session.reported, [], by simp, ?_⟩
      cases trigger <;>
        simp [step, requestManual, requestPassive, hprepare, Except.toOption, bind, Except.bind]
  | ok change =>
      obtain ⟨next, notices, made⟩ := change
      rcases prepare_cases hprepare with ⟨rfl, ⟨reported, rfl⟩, hnotices⟩ |
        ⟨excerpt, hexcerpt, hkey, rfl, rfl, rfl⟩
      · refine .inl ⟨by simp [request?, hprepare, Except.toOption], reported, notices, hnotices, ?_⟩
        cases trigger <;>
          simp [step, requestManual, requestPassive, hprepare, Except.toOption, bind, Except.bind,
            pure, Except.pure]
      · refine .inr ⟨excerpt, hexcerpt, hkey, by simp [request?, hprepare, Except.toOption], ?_⟩
        cases trigger <;>
          simp [step, requestManual, requestPassive, hprepare, Except.toOption, bind, Except.bind,
            pure, Except.pure, enqueue, asked]

@[simp]
theorem caches_enqueue (session : AssistSession) (job : AssistJob) :
    (session.enqueue job).1.caches = session.caches := by
  unfold enqueue
  split <;> simp

@[simp]
theorem caches_begin? (session : AssistSession) :
    (session.begin?.getD session).caches = session.caches := by
  unfold begin?
  cases session.jobs.begin? <;> rfl

@[simp]
theorem caches_finishJob? (session : AssistSession) (number : Nat) (provider : ChatProvider) :
    (((session.finishJob? number provider).map (·.1)).getD session).caches = session.caches := by
  unfold finishJob?
  cases session.jobs.finishJob? number with
  | none => rfl
  | some finished => simp [conclude]

/-- A clock that goes off starts the request that waits for it. -/
theorem step_fire_cases (session : AssistSession) (key : Text) :
    session.step (.fire key) = (session, []) ∨
      session.step (.fire key) = (session.stopTimer key).flush key := by
  simp only [step, fire?]
  cases session.timers.get? key with
  | none => exact .inl rfl
  | some timer =>
      cases hactive : timer.active with
      | false => exact .inl (by simp [hactive])
      | true => exact .inr (by simp [hactive])

/-- No number is ever taken back. -/
theorem latest_le_step (session : AssistSession) (event : AssistEvent) (other : Text) :
    session.latest other ≤ (session.step event).1.latest other := by
  have hcaches {next : AssistSession} (hnext : next.caches = session.caches) :
      session.latest other ≤ next.latest other := Nat.le_of_eq (latest_congr hnext other).symm
  cases event with
  | edit editor =>
      simp only [step, latest_noteEdit]
      omega
  | request trigger editor source line column =>
      rcases session.step_request_cases trigger editor source line column with
        ⟨-, reported, notices, -, hstep⟩ | ⟨excerpt, -, -, -, hstep⟩
      · rw [hstep]
        exact hcaches rfl
      · rw [hstep, latest_congr (caches_enqueue ..), latest_withCache_succ _ _ _ rfl]
        omega
  | fire key =>
      rcases session.step_fire_cases key with hstep | hstep
      · rw [hstep]
      · rw [hstep]
        exact hcaches (by simp)
  | flush key => exact hcaches (caches_flush ..)
  | begin => exact hcaches (caches_begin? ..)
  | finish number provider => exact hcaches (caches_finishJob? ..)
  | drain =>
      simp only [step, drain?]
      split
      · rw [Option.getD_some, latest_settleEach]
        exact hcaches rfl
      · exact Nat.le_refl _
  | cancel editor clear => exact latest_le_cancelFor ..
  | cancelAll clear => exact latest_le_cancelEach ..
  | updateSettings settings => exact latest_le_updateSettings ..
  | shutdown => exact latest_le_cancelEach ..

/-- What makes requests stale takes a number of its own. -/
theorem latest_lt_step {session : AssistSession} {event : AssistEvent} {key : Text}
    (hempty : key ≠ []) (hstripped : editorKey key = key) (hpos : 0 < session.latest key)
    (hrenews : session.Renews key event) :
    session.latest key < (session.step event).1.latest key := by
  cases event with
  | edit editor =>
      subst hrenews
      simp only [step, latest_noteEdit]
      rw [if_pos ⟨hempty, hstripped⟩]
      exact Nat.lt_succ_self _
  | request trigger editor source line column =>
      obtain ⟨job, hjob, rfl⟩ := hrenews
      rcases session.step_request_cases trigger editor source line column with
        ⟨hnone, -⟩ | ⟨excerpt, -, -, hsome, hstep⟩
      · rw [hnone] at hjob
        cases hjob
      · cases Option.some.inj (hsome.symm.trans hjob)
        rw [hstep, latest_congr (caches_enqueue ..), latest_withCache_succ _ _ _ rfl,
          if_pos (by simp [asked, editorKey_editorKey])]
        exact Nat.lt_succ_self _
  | cancel editor clear =>
      subst hrenews
      simp only [step, latest_cancelFor]
      rw [if_pos ⟨hempty, hstripped⟩]
      exact Nat.lt_succ_self _
  | cancelAll clear => exact latest_lt_cancelAll clear hempty hstripped hpos
  | updateSettings settings =>
      have hdisabled : settings.enabled = false := hrenews
      simp only [step, updateSettings, hdisabled]
      -- Numbers survive that the caches are resized; what grows them is cancelling all.
      rw [← latest_resized session settings [] settings.cacheSize key] at hpos ⊢
      exact latest_lt_cancelAll true hempty hstripped hpos
  | shutdown => exact latest_lt_cancelAll false hempty hstripped hpos
  | _ => exact hrenews.elim

/-- Nothing else takes a number. -/
theorem latest_step_of_not_renews {session : AssistSession} {event : AssistEvent} {key : Text}
    (hstripped : editorKey key = key) (hrenews : ¬ session.Renews key event) :
    (session.step event).1.latest key = session.latest key := by
  cases event with
  | edit editor =>
      have hother : ¬ editorKey key = editorKey editor := fun hkey =>
        hrenews (hkey.symm.trans hstripped)
      simp [step, latest_noteEdit, hother]
  | request trigger editor source line column =>
      rcases session.step_request_cases trigger editor source line column with
        ⟨-, reported, notices, -, hstep⟩ | ⟨excerpt, -, -, hsome, hstep⟩ <;> rw [hstep]
      · exact latest_congr rfl key
      · have hother : ¬ editorKey key = editorKey editor := fun hkey =>
          hrenews ⟨_, hsome, hkey.symm.trans hstripped⟩
        rw [latest_congr (caches_enqueue ..), latest_withCache_succ _ _ _ rfl, editorKey_editorKey,
          if_neg hother, Nat.add_zero]
  | fire other =>
      rcases session.step_fire_cases other with hstep | hstep <;> rw [hstep]
      exact latest_congr (by simp) _
  | flush other => exact latest_congr (caches_flush ..) _
  | begin => exact latest_congr (caches_begin? ..) _
  | finish number provider => exact latest_congr (caches_finishJob? ..) _
  | drain =>
      simp only [step, drain?]
      split
      · rw [Option.getD_some, latest_settleEach]
        exact latest_congr rfl key
      · rfl
  | cancel editor clear =>
      have hother : ¬ editorKey key = editorKey editor := fun hkey =>
        hrenews (hkey.symm.trans hstripped)
      simp [step, latest_cancelFor, hother]
  | updateSettings settings =>
      have henabled : settings.enabled = true := by simpa [Renews] using hrenews
      simp only [step, updateSettings, henabled, if_true]
      exact latest_resized ..
  | _ => exact absurd trivial hrenews

/-! ## Announcements -/

theorem suggestion_not_mem_start (session : AssistSession) (job : AssistJob)
    (payload : Fields) : AssistNotice.suggestion payload ∉ (session.start job).2 := by
  unfold start
  dsimp only
  split
  · dsimp only
    split <;> simp
  · simp

theorem suggestion_not_mem_flush (session : AssistSession) (key : Text) (payload : Fields) :
    AssistNotice.suggestion payload ∉ (session.flush key).2 := by
  unfold flush
  split
  · simp
  · dsimp only
    split
    · exact suggestion_not_mem_start _ _ _
    · simp

theorem suggestion_not_mem_enqueue (session : AssistSession) (job : AssistJob)
    (payload : Fields) : AssistNotice.suggestion payload ∉ (session.enqueue job).2 := by
  unfold enqueue
  split
  · exact suggestion_not_mem_start _ _ _
  · simp

theorem suggestion_not_mem_step_request (session : AssistSession) (trigger : AssistTrigger)
    (editor source : Text) (line column : Json) (payload : Fields) :
    AssistNotice.suggestion payload ∉
      (session.step (.request trigger editor source line column)).2 := by
  rcases session.step_request_cases trigger editor source line column with
    ⟨-, reported, notices, hnotices, hstep⟩ | ⟨excerpt, -, -, -, hstep⟩ <;> rw [hstep]
  · exact hnotices payload
  · exact suggestion_not_mem_enqueue _ _ _

theorem takenBack_of_mem_cancelFor {session : AssistSession} {editor : Text} {clear : Bool}
    {payload : Fields} (hmem : .suggestion payload ∈ (session.cancelFor editor clear).2) :
    ∃ key token, payload = takenBack key token := by
  unfold cancelFor at hmem
  dsimp only at hmem
  split at hmem
  · simp at hmem
  · split at hmem
    · exact ⟨_, _, by simpa using hmem⟩
    · simp at hmem

theorem takenBack_of_mem_cancelEach {session : AssistSession} {clear : Bool} {keys : List Text}
    {payload : Fields} (hmem : .suggestion payload ∈ (session.cancelEach clear keys).2) :
    ∃ key token, payload = takenBack key token := by
  induction keys generalizing session with
  | nil => cases hmem
  | cons key rest ih =>
      rcases List.mem_append.mp hmem with hfirst | hrest
      · exact takenBack_of_mem_cancelFor hfirst
      · exact ih hrest

/-- A suggestion is announced where answers are looked at; every other one takes back what
was suggested. -/
theorem suggestion_mem_step {session : AssistSession} {event : AssistEvent} {payload : Fields}
    (hmem : .suggestion payload ∈ (session.step event).2) :
    event = .drain ∨ ∃ key token, payload = takenBack key token := by
  cases event with
  | request trigger editor source line column =>
      exact absurd hmem (suggestion_not_mem_step_request _ _ _ _ _ _ _)
  | fire key =>
      rcases session.step_fire_cases key with hstep | hstep <;> rw [hstep] at hmem
      · cases hmem
      · exact absurd hmem (suggestion_not_mem_flush _ _ _)
  | flush key => exact absurd hmem (suggestion_not_mem_flush _ _ _)
  | drain => exact .inl rfl
  | cancel editor clear => exact .inr (takenBack_of_mem_cancelFor hmem)
  | cancelAll clear => exact .inr (takenBack_of_mem_cancelEach hmem)
  | updateSettings settings =>
      simp only [step, updateSettings] at hmem
      split at hmem
      · cases hmem
      · exact .inr (takenBack_of_mem_cancelEach hmem)
  | _ => cases hmem

end AssistSession

end SchemaDesk
