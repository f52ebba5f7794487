import SchemaDesk.Proofs.FormatTickets
import SchemaDesk.Proofs.WindowEvents

/-!
# Formatted documents

A formatted text takes the place of the document only if it was made from the text
that stands there, for the latest request. Whatever is typed, loaded or asked for
between a request and its outcome, nothing that was written is lost to it.
-/

namespace SchemaDesk

/-- An outcome that takes the place of a document: it was made from it, did not fail, and
differs from it. -/
structure FormatTicket.Fits (ticket : FormatTicket) (document : Text) : Prop where
  source : ticket.source = document
  mode : ticket.outcome.mode ≠ .failed
  text : ticket.outcome.text ≠ document

namespace FormatSession

theorem mem_jobs_request {session : FormatSession} {source filePath projectRoot : Text}
    {job : Job FormatJob}
    (hjob : job ∈ (session.request source filePath projectRoot).jobs.running ++
      (session.request source filePath projectRoot).jobs.waiting) :
    job ∈ session.jobs.running ++ session.jobs.waiting ∨
      job.work = { token := session.latest + 1, source, filePath, projectRoot } := by
  have hcancelled : session.cancelCurrent.jobs.running = session.jobs.running ∧
      session.cancelCurrent.jobs.waiting ⊆ session.jobs.waiting := by
    unfold cancelCurrent
    split
    · exact ⟨rfl, List.Subset.refl _⟩
    · exact ⟨rfl, List.filter_sublist.subset⟩
  have hearlier : ∀ job ∈ session.cancelCurrent.jobs.running ++
      session.cancelCurrent.jobs.waiting, job ∈ session.jobs.running ++ session.jobs.waiting := by
    intro job hjob
    rw [hcancelled.1, List.mem_append] at hjob
    exact List.mem_append.mpr (hjob.imp_right fun hwaiting => hcancelled.2 hwaiting)
  -- Cancelling only drops jobs that wait, and the new job joins the others at the end.
  unfold request at hjob
  dsimp only at hjob
  split at hjob
  next => exact .inl (hearlier job hjob)
  next number jobs hsubmit =>
    obtain ⟨hrunning, hwaiting⟩ := JobQueue.submit?_eq_some hsubmit
    dsimp only at hjob
    rw [hrunning, hwaiting, ← List.append_assoc, List.mem_append, List.mem_singleton] at hjob
    rcases hjob with hjob | rfl
    · exact .inl (hearlier job hjob)
    · exact .inr rfl

@[simp]
theorem results_request (session : FormatSession) (source filePath projectRoot : Text) :
    (session.request source filePath projectRoot).results = session.results := by
  have hcancelled : session.cancelCurrent.results = session.results := by
    unfold cancelCurrent
    split <;> rfl
  unfold request
  dsimp only
  split <;> exact hcancelled

@[simp]
theorem results_shutdown (session : FormatSession) :
    session.shutdown.results = session.results := by
  simp only [shutdown, cancelCurrent]
  cases session.current <;> rfl

theorem mem_jobs_begin? {session : FormatSession} {job : Job FormatJob}
    (hjob : job ∈ (session.begin?.getD session).jobs.running ++
      (session.begin?.getD session).jobs.waiting) :
    job ∈ session.jobs.running ++ session.jobs.waiting := by
  unfold begin? at hjob
  cases hjobs : session.jobs.begin? with
  | none => simpa [hjobs] using hjob
  | some jobs =>
      obtain ⟨first, hwaiting, hrunning⟩ := JobQueue.begin?_eq_some hjobs
      simpa [hjobs, hwaiting, hrunning, or_assoc] using hjob

theorem mem_jobs_shutdown {session : FormatSession} {job : Job FormatJob}
    (hjob : job ∈ session.shutdown.jobs.running ++ session.shutdown.jobs.waiting) :
    job ∈ session.jobs.running := by
  have hrunning : session.shutdown.jobs.running = session.jobs.running := by
    simp only [shutdown, cancelCurrent]
    cases session.current <;> rfl
  have hwaiting : session.shutdown.jobs.waiting = [] := rfl
  simpa [hrunning, hwaiting] using hjob

end FormatSession

namespace Window

/-- The outcomes that an event announces. -/
def announced (window : Window) : WindowEvent → List FormatTicket
  | .drainFormat => (window.formatting.drain?.map (·.2)).getD []
  | _ => []

/-- The job was requested in a run, for the text of the document then. -/
def Requested (start : Window) (events : List WindowEvent) (job : FormatJob) : Prop :=
  ∃ before since, events = before ++ .requestFormat :: since ∧
    job.token = (Run.after step start before).formatting.latest + 1 ∧
    job.source = (Run.after step start before).text

/-- The outcome came of a job that was requested in a run before. -/
def Computed (start : Window) (events : List WindowEvent) (ticket : FormatTicket) : Prop :=
  ∃ before run since job, events = before ++ .finishFormat run :: since ∧
    Requested start before job ∧ ticket.token = job.token ∧ ticket.source = job.source ∧
    ticket.outcome = FormatSession.outcomeOf job.source (run job)

theorem Requested.concat {start : Window} {events : List WindowEvent} {job : FormatJob}
    (hrequested : Requested start events job) (event : WindowEvent) :
    Requested start (events ++ [event]) job := by
  obtain ⟨before, since, rfl, hjob⟩ := hrequested
  exact ⟨before, since ++ [event], by simp, hjob⟩

theorem Computed.concat {start : Window} {events : List WindowEvent} {ticket : FormatTicket}
    (hcomputed : Computed start events ticket) (event : WindowEvent) :
    Computed start (events ++ [event]) ticket := by
  obtain ⟨before, run, since, job, rfl, hticket⟩ := hcomputed
  exact ⟨before, run, since ++ [event], job, by simp, hticket⟩

/-- What every run keeps of the session: requests are in order, and each job and each
outcome that is under way goes back to a request of the run. -/
structure Traced (start : Window) (events : List WindowEvent) (announced : List Nat)
    (session : FormatSession) : Prop where
  ordered : session.Ordered announced
  requested : ∀ job ∈ session.jobs.running ++ session.jobs.waiting,
    Requested start events job.work
  computed : ∀ ticket ∈ session.results, Computed start events ticket

namespace Traced

variable {start : Window} {events : List WindowEvent} {announced : List Nat}
  {session : FormatSession}

theorem concat (htraced : Traced start events announced session) (event : WindowEvent) :
    Traced start (events ++ [event]) announced session where
  ordered := htraced.ordered
  requested job hjob := (htraced.requested job hjob).concat event
  computed ticket hticket := (htraced.computed ticket hticket).concat event

theorem request (htraced : Traced start events announced session)
    {source filePath projectRoot : Text}
    (hnew : Requested start events
      { token := session.latest + 1, source, filePath, projectRoot }) :
    Traced start events announced (session.request source filePath projectRoot) where
  ordered := htraced.ordered.request ..
  requested job hjob := by
    rcases FormatSession.mem_jobs_request hjob with hjob | hjob
    · exact htraced.requested job hjob
    · rwa [hjob]
  computed ticket hticket := by
    rw [FormatSession.results_request] at hticket
    exact htraced.computed ticket hticket

theorem begin? (htraced : Traced start events announced session) :
    Traced start events announced (session.begin?.getD session) where
  ordered := htraced.ordered.of_sublist (by rw [FormatSession.tokens_begin?])
    (Nat.le_of_eq (by cases hjobs : session.jobs.begin? <;> simp [FormatSession.begin?, hjobs]))
  requested job hjob := htraced.requested job (FormatSession.mem_jobs_begin? hjob)
  computed ticket hticket := by
    refine htraced.computed ticket ?_
    cases hjobs : session.jobs.begin? <;> simpa [FormatSession.begin?, hjobs] using hticket

theorem finish? (htraced : Traced start events announced session)
    {run : FormatJob → Except Fault FormatRun} {next : FormatSession}
    {made : Except Fault FormatRun} (hnext : session.finish? run = some (next, made)) :
    Traced start (events ++ [.finishFormat run]) announced next := by
  obtain ⟨job, rest, hrunning, hrest, hwaiting, hlatest, hresults⟩ :=
    FormatSession.finish?_eq_some hnext
  have hrequested : ∀ other ∈ job :: (rest ++ session.jobs.waiting),
      Requested start events other.work := by
    intro other hother
    exact htraced.requested other (by simpa [hrunning] using hother)
  refine ⟨?_, ?_, ?_⟩
  · refine htraced.ordered.of_sublist ?_ (Nat.le_of_eq hlatest.symm)
    rw [FormatSession.tokens_finish? hnext]
  · intro other hother
    rw [hrest, hwaiting] at hother
    exact (hrequested other (List.mem_cons_of_mem _ hother)).concat _
  · intro ticket hticket
    rw [hresults, List.mem_append, List.mem_singleton] at hticket
    rcases hticket with hticket | rfl
    · exact (htraced.computed ticket hticket).concat _
    · exact ⟨events, run, [], job.work, rfl, hrequested job List.mem_cons_self, rfl, rfl, rfl⟩

theorem drain? (htraced : Traced start events announced session) {next : FormatSession}
    {tickets : List FormatTicket} (hnext : session.drain? = some (next, tickets)) :
    Traced start events (announced ++ tickets.map (·.token)) next := by
  have hordered := htraced.ordered.drain hnext
  obtain ⟨rfl, -⟩ := FormatSession.drain?_eq_some hnext
  exact ⟨hordered, htraced.requested, nofun⟩

theorem shutdown (htraced : Traced start events announced session) :
    Traced start events announced session.shutdown where
  ordered := htraced.ordered.shutdown
  requested job hjob :=
    htraced.requested job (List.mem_append_left _ (FormatSession.mem_jobs_shutdown hjob))
  computed ticket hticket := by
    rw [FormatSession.results_shutdown] at hticket
    exact htraced.computed ticket hticket

end Traced

theorem traced_after {start : Window} (hsettled : start.editor.Settled)
    (hnew : start.formatting = {}) (events : List WindowEvent) :
    Traced start events ((Run.outputs step announced start events).map (·.token))
      (Run.after step start events).formatting := by
  induction events using List.reverseRecOn with
  | nil =>
      rw [Run.after_nil, hnew]
      exact ⟨FormatSession.ordered_new, nofun, nofun⟩
  | append_singleton events event ih =>
      have hformatting := (step_cases (settled_after hsettled events) event).2
      rw [Run.after_concat, Run.outputs_concat, List.map_append, hformatting]
      cases event with
      | requestFormat =>
          simp only [announced, List.map_nil, List.append_nil]
          exact (ih.concat _).request ⟨events, [], rfl, rfl, rfl⟩
      | beginFormat =>
          simp only [announced, List.map_nil, List.append_nil]
          exact (ih.concat _).begin?
      | finishFormat run =>
          simp only [announced, List.map_nil, List.append_nil]
          rw [formattingAfter]
          cases hfinish : (Run.after step start events).formatting.finish? run with
          | none => exact ih.concat _
          | some finished => exact ih.finish? hfinish
      | drainFormat =>
          cases hdrain : (Run.after step start events).formatting.drain? with
          | none => simpa [announced, formattingAfter, hdrain] using ih.concat .drainFormat
          | some drained =>
              simpa [announced, formattingAfter, hdrain] using
                (ih.concat .drainFormat).drain? hdrain
      | close files =>
          simp only [announced, List.map_nil, List.append_nil]
          exact (ih.concat _).shutdown
      | _ => simpa [announced, formattingAfter] using ih.concat _

/-- An outcome of the latest request takes the place of the document that it was made
from. Buffers hold no carriage return before a line feed, and the caret stays where it
was as far as the new text reaches. -/
structure Replaces (start : Window) (events : List WindowEvent) (window : Window)
    (ticket : FormatTicket) : Prop where
  announced : window.announced .drainFormat = [ticket]
  latest : ticket.token = window.formatting.latest
  computed : Computed start events ticket
  fits : ticket.Fits window.text
  text : (window.step .drainFormat).text = Text.dropReturnBeforeFeed ticket.outcome.text
  exact_text : ¬ ['\r', '\n'] <:+: ticket.outcome.text →
    (window.step .drainFormat).text = ticket.outcome.text
  caret : (window.step .drainFormat).editor.buffer.caret =
    .atOffset (min window.editor.buffer.caret.position (window.step .drainFormat).text.length)

/-- Looking at one outcome either puts it in place or leaves the editor alone. -/
theorem showEach_singleton (window : Window) (hsettled : window.editor.Settled)
    (ticket : FormatTicket) :
    (ticket.Fits window.text ∧
        (window.showEach [ticket]).1.text = Text.dropReturnBeforeFeed ticket.outcome.text ∧
        (window.showEach [ticket]).1.editor.buffer.caret = .atOffset
          (min window.editor.buffer.caret.position (window.showEach [ticket]).1.text.length)) ∨
      (¬ ticket.Fits window.text ∧ (window.showEach [ticket]).1.editor = window.editor) := by
  have hshow : (window.showEach [ticket]).1 =
      (window.showOutcome ticket.source ticket.outcome).1 := rfl
  rw [hshow]
  obtain ⟨formatLabel, ⟨hsource, hmode, htext, hplaced⟩ | ⟨hunfit, hkept⟩⟩ :=
    window.showOutcome_cases ticket.source ticket.outcome
  · obtain ⟨editor, assistant, hreplaced, -, hnew, hcaret⟩ :=
      replaceDocument_eq { window with formatLabel } hsettled ticket.outcome.text
    refine .inl ⟨⟨hsource, hmode, htext⟩, ?_, ?_⟩ <;> rw [hplaced, hreplaced]
    · exact hnew
    · exact hcaret.trans (by rw [Window.text, hnew])
  · refine .inr ⟨fun hfits => hunfit ⟨hfits.source, hfits.mode, hfits.text⟩, ?_⟩
    rw [hkept]

/-- In every run, numbers are announced at most once, requests and jobs leave the editor
alone, and looking at the outcomes either puts the one of the latest request in the place
of the very text that it was made from, or leaves the editor alone too. -/
theorem formatting_keeps_edits {settings : SettingsStore} {environment : Environment}
    {document filePath : Text} {start : Window}
    (hopen : openOn settings environment document filePath = .ok start)
    (events : List WindowEvent) :
    ((Run.outputs step announced start events).map (·.token)).Nodup ∧
      ((Run.after step start events).step .requestFormat).editor =
        (Run.after step start events).editor ∧
      ((Run.after step start events).step .beginFormat).editor =
        (Run.after step start events).editor ∧
      (∀ run, ((Run.after step start events).step (.finishFormat run)).editor =
        (Run.after step start events).editor) ∧
      ((∃ ticket, Replaces start events (Run.after step start events) ticket) ∨
        ((∀ ticket ∈ (Run.after step start events).announced .drainFormat,
            ¬ ticket.Fits (Run.after step start events).text) ∧
          ((Run.after step start events).step .drainFormat).editor =
            (Run.after step start events).editor)) := by
  obtain ⟨hstart, -, hnew⟩ := openOn_eq_ok hopen
  have hsettled := settled_after hstart events
  have htraced := traced_after hstart hnew events
  generalize hwindow : Run.after step start events = window at hsettled htraced ⊢
  refine ⟨?_, rfl, rfl, fun _ => rfl, ?_⟩
  · have hgrowing := htraced.ordered.growing.sublist (List.sublist_append_left ..)
    exact hgrowing.imp Nat.ne_of_lt
  cases hdrain : window.formatting.drain? with
  | none =>
      refine .inr ⟨?_, ?_⟩
      · simp [Window.announced, hdrain]
      · simp [step, drainFormat?, hdrain]
  | some drained =>
      obtain ⟨formatting, tickets⟩ := drained
      have hannounced : window.announced .drainFormat = tickets := by
        simp [Window.announced, hdrain]
      have hstep := step_drainFormat hdrain
      -- At most one outcome is announced: the one that may take the place of the document.
      rcases FormatSession.tickets_eq htraced.ordered hdrain with rfl |
        ⟨ticket, hresult, hlatest, rfl⟩
      · exact .inr ⟨by simp [hannounced], by rw [hstep]; rfl⟩
      · rcases showEach_singleton { window with formatting } hsettled ticket with
          ⟨hfits, htext, hcaret⟩ | ⟨hunfit, hkept⟩
        · refine .inl ⟨ticket, hannounced, hlatest, htraced.computed ticket hresult, hfits,
            ?_, fun hexact => ?_, ?_⟩ <;> rw [hstep]
          · exact htext
          · rw [htext, (Text.dropReturnBeforeFeed_eq_self_iff _).mpr hexact]
          · exact hcaret
        · refine .inr ⟨fun other hother => ?_, by rw [hstep, hkept]⟩
          rw [hannounced, List.mem_singleton] at hother
          rw [hother]
          exact hunfit

/-- A run in which a formatter answers with a text for the whole document. -/
def formattingRun (t : Text) : List WindowEvent :=
  [.requestFormat, .beginFormat,
    .finishFormat fun _ =>
      .ok { outcome := { mode := .primary, text := t }, asked := none, sent := [] }]

theorem formatting_replaces_text :
    ∃ start ticket, openOn .bare (fun _ => none) "// users".toList [] = .ok start ∧
      Replaces start (formattingRun "// users of the shop\n".toList)
        (Run.after step start (formattingRun "// users of the shop\n".toList)) ticket := by
  have hopen : openOn .bare (fun _ => none) "// users".toList [] = .ok _ := rfl
  obtain ⟨-, -, -, -, ⟨ticket, hreplaces⟩ | ⟨hunfit, -⟩⟩ :=
    formatting_keeps_edits hopen (formattingRun "// users of the shop\n".toList)
  · exact ⟨_, ticket, hopen, hreplaces⟩
  · refine absurd ⟨?_, ?_, ?_⟩ (hunfit _ (List.mem_singleton.mpr rfl)) <;> decide +kernel

/-- A formatter that ends its lines with a carriage return and a line feed: the document
is not exactly the text of the outcome. -/
theorem formatted_text_loses_returns :
    ∃ start ticket, openOn .bare (fun _ => none) "// users".toList [] = .ok start ∧
      (Run.after step start (formattingRun "// users\r\n".toList)).announced .drainFormat =
        [ticket] ∧
      ticket.Fits (Run.after step start (formattingRun "// users\r\n".toList)).text ∧
      (Run.after step start (formattingRun "// users\r\n".toList ++ [.drainFormat])).text ≠
        ticket.outcome.text := by
  refine ⟨_, _, rfl, rfl, ⟨?_, ?_, ?_⟩, ?_⟩ <;> decide +kernel

end Window

end SchemaDesk
