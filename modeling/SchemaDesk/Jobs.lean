/-!
# Jobs

Work that is done beside the program waits in a queue until it is begun, and
runs until it is finished; jobs that run beside each other finish in any order. A
job that waits can still be cancelled; one that runs cannot. A closed queue takes
no more jobs and has none waiting.
-/

namespace SchemaDesk

/-- A job, under the number that it was given when it was submitted. -/
structure Job (α : Type) where
  number : Nat
  work : α

/-- Jobs that wait and jobs that run, oldest first. -/
structure JobQueue (α : Type) where
  waiting : List (Job α) := []
  running : List (Job α) := []
  closed : Bool := false
  /-- How many jobs have been submitted. -/
  submitted : Nat := 0

namespace JobQueue

variable {α : Type}

/-- Submit a job; the answer holds its number. A closed queue takes none. -/
def submit? (jobs : JobQueue α) (work : α) : Option (Nat × JobQueue α) :=
  if jobs.closed then none
  else
    some (jobs.submitted,
      { jobs with
        waiting := jobs.waiting ++ [{ number := jobs.submitted, work }]
        submitted := jobs.submitted + 1 })

theorem submit?_eq_some {jobs next : JobQueue α} {work : α} {number : Nat}
    (hnext : jobs.submit? work = some (number, next)) :
    next.running = jobs.running ∧ next.waiting = jobs.waiting ++ [⟨number, work⟩] := by
  unfold submit? at hnext
  split at hnext
  · cases hnext
  · cases hnext
    exact ⟨rfl, rfl⟩

/-- Does the job wait? -/
def isWaiting (jobs : JobQueue α) (number : Nat) : Bool :=
  jobs.waiting.any (·.number == number)

/-- Cancel a job, if it waits. -/
def cancel (jobs : JobQueue α) (number : Nat) : JobQueue α :=
  { jobs with waiting := jobs.waiting.filter (·.number != number) }

@[simp]
theorem isWaiting_cancel_self (jobs : JobQueue α) (number : Nat) :
    (jobs.cancel number).isWaiting number = false := by
  simp [cancel, isWaiting]

/-- Begin the oldest job that waits. -/
def begin? (jobs : JobQueue α) : Option (JobQueue α) :=
  match jobs.waiting with
  | [] => none
  | job :: rest => some { jobs with waiting := rest, running := jobs.running ++ [job] }

theorem begin?_eq_some {jobs next : JobQueue α} (hnext : jobs.begin? = some next) :
    ∃ job, jobs.waiting = job :: next.waiting ∧ next.running = jobs.running ++ [job] := by
  unfold begin? at hnext
  split at hnext
  · cases hnext
  next job rest hwaiting =>
    cases hnext
    exact ⟨job, hwaiting, rfl⟩

/-- Finish the oldest job that runs. -/
def finish? (jobs : JobQueue α) : Option (Job α × JobQueue α) :=
  match jobs.running with
  | [] => none
  | job :: rest => some (job, { jobs with running := rest })

theorem finish?_eq_some {jobs next : JobQueue α} {job : Job α}
    (hnext : jobs.finish? = some (job, next)) :
    jobs.running = job :: next.running ∧ next.waiting = jobs.waiting := by
  unfold finish? at hnext
  split at hnext
  · cases hnext
  next job rest hrunning =>
    cases hnext
    exact ⟨hrunning, rfl⟩

theorem perm_cons_eraseP {chosen : Job α → Bool} {running : List (Job α)} {job : Job α}
    (hjob : running.find? chosen = some job) : running.Perm (job :: running.eraseP chosen) := by
  induction running with
  | nil => cases hjob
  | cons first rest ih =>
    cases hfirst : chosen first with
    | true =>
      rw [List.find?_cons_of_pos hfirst, Option.some.injEq] at hjob
      rw [List.eraseP_cons_of_pos hfirst, hjob]
    | false =>
      have hother : ¬ chosen first = true := by simp [hfirst]
      rw [List.find?_cons_of_neg hother] at hjob
      rw [List.eraseP_cons_of_neg hother]
      exact ((ih hjob).cons first).trans (List.Perm.swap ..)

/-- Finish a job that runs, whichever was begun first. -/
def finishJob? (jobs : JobQueue α) (number : Nat) : Option (Job α × JobQueue α) :=
  (jobs.running.find? (·.number == number)).map fun job =>
    (job, { jobs with running := jobs.running.eraseP (·.number == number) })

theorem finishJob?_eq_some {jobs next : JobQueue α} {number : Nat} {job : Job α}
    (hnext : jobs.finishJob? number = some (job, next)) :
    jobs.running.Perm (job :: next.running) ∧ next.waiting = jobs.waiting := by
  obtain ⟨found, hfound, hfinished⟩ := Option.map_eq_some_iff.mp hnext
  cases hfinished
  exact ⟨perm_cons_eraseP hfound, rfl⟩

/-- The oldest job is the one that is finished where nothing else is asked for. -/
theorem finish?_eq_finishJob? (jobs : JobQueue α) :
    jobs.finish? = jobs.running.head?.bind fun job => jobs.finishJob? job.number := by
  unfold finish?
  cases hrunning : jobs.running with
  | nil => rfl
  | cons job rest => simp [finishJob?, hrunning]

/-- Close the queue and cancel what waits. -/
def close (jobs : JobQueue α) : JobQueue α :=
  { jobs with waiting := [], closed := true }

end JobQueue

end SchemaDesk
