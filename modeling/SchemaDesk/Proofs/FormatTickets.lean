import SchemaDesk.Formatting.Session

/-!
# The order of formatting requests

The numbers of the requests that are under way, from the outcomes that wait to be
looked at to the jobs that wait to be begun, grow strictly, and no operation of a
session puts them out of order or brings one back. So a number is announced at most
once, and looking at the outcomes announces at most one of them.
-/

namespace SchemaDesk

namespace FormatSession

open List

/-- The numbers of the requests that are under way, oldest first. -/
def tokens (session : FormatSession) : List Nat :=
  session.results.map (·.token) ++ session.jobs.running.map (·.work.token) ++
    session.jobs.waiting.map (·.work.token)

/-- What has been announced and what is under way is in order, and no number is beyond
the latest one. -/
structure Ordered (session : FormatSession) (announced : List Nat) : Prop where
  growing : (announced ++ session.tokens).Pairwise (· < ·)
  le_latest : ∀ token ∈ announced ++ session.tokens, token ≤ session.latest

theorem ordered_new : Ordered {} [] := ⟨.nil, nofun⟩

/-- What only loses numbers stays in order. -/
theorem Ordered.of_sublist {before after : FormatSession} {announced later : List Nat}
    (hordered : before.Ordered announced)
    (htokens : later ++ after.tokens <+ announced ++ before.tokens)
    (hlatest : before.latest ≤ after.latest) : after.Ordered later where
  growing := hordered.growing.sublist htokens
  le_latest token htoken :=
    Nat.le_trans (hordered.le_latest token (htokens.subset htoken)) hlatest

theorem tokens_cancelCurrent (session : FormatSession) :
    session.cancelCurrent.tokens <+ session.tokens := by
  unfold cancelCurrent
  split
  · exact .refl _
  · exact (Sublist.refl _).append (filter_sublist.map _)

@[simp]
theorem latest_cancelCurrent (session : FormatSession) :
    session.cancelCurrent.latest = session.latest := by
  unfold cancelCurrent
  split <;> rfl

@[simp]
theorem latest_request (session : FormatSession) (source filePath projectRoot : Text) :
    (session.request source filePath projectRoot).latest = session.latest + 1 := by
  unfold request
  dsimp only
  split <;> rfl

/-- A request takes the next number; it may also find no one to take it. -/
theorem tokens_request (session : FormatSession) (source filePath projectRoot : Text) :
    (session.request source filePath projectRoot).tokens <+
      session.tokens ++ [session.latest + 1] := by
  have hcancelled := session.tokens_cancelCurrent
  unfold request
  dsimp only
  split
  next => exact hcancelled.trans (sublist_append_left ..)
  next number jobs hsubmit =>
    obtain ⟨hrunning, hwaiting⟩ := JobQueue.submit?_eq_some hsubmit
    simp only [tokens, hrunning, hwaiting, map_append, map_cons, map_nil, ← append_assoc]
    exact hcancelled.append (.refl _)

theorem Ordered.request {session : FormatSession} {announced : List Nat}
    (hordered : session.Ordered announced) (source filePath projectRoot : Text) :
    (session.request source filePath projectRoot).Ordered announced := by
  have hnew : (announced ++ (session.tokens ++ [session.latest + 1])).Pairwise (· < ·) := by
    rw [← append_assoc, pairwise_append]
    refine ⟨hordered.growing, pairwise_singleton _ _, ?_⟩
    intro token htoken last hlast
    rw [mem_singleton.mp hlast]
    exact Nat.lt_succ_of_le (hordered.le_latest token htoken)
  have hsublist := (Sublist.refl announced).append
    (session.tokens_request source filePath projectRoot)
  refine ⟨hnew.sublist hsublist, ?_⟩
  intro token htoken
  have hmem := hsublist.subset htoken
  rw [← append_assoc, mem_append, mem_singleton] at hmem
  rw [latest_request]
  rcases hmem with hearlier | rfl
  · exact Nat.le_succ_of_le (hordered.le_latest token hearlier)
  · exact Nat.le_refl _

theorem tokens_begin? (session : FormatSession) :
    (session.begin?.getD session).tokens = session.tokens := by
  unfold begin?
  cases hjobs : session.jobs.begin? with
  | none => rfl
  | some jobs =>
      obtain ⟨job, hwaiting, hrunning⟩ := JobQueue.begin?_eq_some hjobs
      simp [tokens, hwaiting, hrunning]

/-- What a job that is over leaves: its ticket. -/
theorem finish?_eq_some {session next : FormatSession}
    {run : FormatJob → Except Fault FormatRun} {made : Except Fault FormatRun}
    (hnext : session.finish? run = some (next, made)) :
    ∃ job rest, session.jobs.running = job :: rest ∧ next.jobs.running = rest ∧
      next.jobs.waiting = session.jobs.waiting ∧ next.latest = session.latest ∧
      next.results = session.results ++
        [{ token := job.work.token, source := job.work.source
           outcome := outcomeOf job.work.source (run job.work) }] := by
  unfold finish? at hnext
  cases hjobs : session.jobs.finish? with
  | none => simp [hjobs] at hnext
  | some finished =>
      obtain ⟨job, jobs⟩ := finished
      obtain ⟨hrunning, hwaiting⟩ := JobQueue.finish?_eq_some hjobs
      rw [hjobs] at hnext
      cases hnext
      exact ⟨job, jobs.running, hrunning, rfl, hwaiting, rfl, rfl⟩

theorem tokens_finish? {session next : FormatSession}
    {run : FormatJob → Except Fault FormatRun} {made : Except Fault FormatRun}
    (hnext : session.finish? run = some (next, made)) : next.tokens = session.tokens := by
  obtain ⟨job, rest, hrunning, hrest, hwaiting, -, hresults⟩ := finish?_eq_some hnext
  simp [tokens, hrunning, hrest, hwaiting, hresults]

theorem drain?_eq_some {session next : FormatSession} {tickets : List FormatTicket}
    (hnext : session.drain? = some (next, tickets)) :
    next = { session with results := [] } ∧
      tickets = session.results.filter fun ticket => session.isLatest ticket.token := by
  unfold drain? at hnext
  split at hnext
  · cases hnext
    exact ⟨rfl, rfl⟩
  · cases hnext

theorem Ordered.drain {session next : FormatSession} {announced : List Nat}
    {tickets : List FormatTicket} (hordered : session.Ordered announced)
    (hnext : session.drain? = some (next, tickets)) :
    next.Ordered (announced ++ tickets.map (·.token)) := by
  obtain ⟨rfl, rfl⟩ := drain?_eq_some hnext
  refine hordered.of_sublist ?_ (Nat.le_refl _)
  simp only [tokens, map_nil, nil_append, append_assoc]
  exact (Sublist.refl _).append ((filter_sublist.map _).append (.refl _))

theorem Ordered.shutdown {session : FormatSession} {announced : List Nat}
    (hordered : session.Ordered announced) : session.shutdown.Ordered announced := by
  refine hordered.of_sublist ((Sublist.refl _).append ?_) (Nat.le_of_eq ?_)
  · refine Sublist.trans ?_ session.tokens_cancelCurrent
    simp [tokens, FormatSession.shutdown, JobQueue.close]
  · exact (latest_cancelCurrent session).symm

/-- Only the latest number is announced, and so one outcome at most. -/
theorem tickets_eq {session next : FormatSession} {announced : List Nat}
    {tickets : List FormatTicket} (hordered : session.Ordered announced)
    (hnext : session.drain? = some (next, tickets)) :
    tickets = [] ∨ ∃ ticket ∈ session.results, ticket.token = session.latest ∧
      tickets = [ticket] := by
  obtain ⟨-, htickets⟩ := drain?_eq_some hnext
  have hlatest : ∀ ticket ∈ tickets, ticket ∈ session.results ∧
      ticket.token = session.latest := by
    intro ticket hticket
    rw [htickets, mem_filter] at hticket
    exact ⟨hticket.1, Int.ofNat.inj (by simpa [isLatest] using hticket.2)⟩
  have hgrowing : (tickets.map (·.token)).Pairwise (· < ·) :=
    (hordered.drain hnext).growing.sublist
      ((sublist_append_right ..).trans (sublist_append_left ..))
  rcases tickets with _ | ⟨first, _ | ⟨second, rest⟩⟩
  · exact .inl rfl
  · obtain ⟨hresult, htoken⟩ := hlatest first mem_cons_self
    exact .inr ⟨first, hresult, htoken, rfl⟩
  -- Both would have the latest number, but numbers grow.
  · have hless : first.token < second.token := rel_of_pairwise_cons hgrowing mem_cons_self
    have hfirst := (hlatest first (by simp)).2
    have hsecond := (hlatest second (by simp)).2
    omega

end FormatSession

end SchemaDesk
