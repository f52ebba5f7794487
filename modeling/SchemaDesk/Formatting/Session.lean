import SchemaDesk.Formatting.Formatter
import SchemaDesk.Jobs

/-!
# Formatting sessions

Documents are formatted beside the program, one request after the other. Each
request has a number, and only the outcome of the latest one is announced: what
came of an earlier request is dropped.
-/

namespace SchemaDesk

/-- A request for formatting, under its number. -/
structure FormatJob where
  token : Nat
  source : Text
  filePath : Text
  projectRoot : Text

/-- What came of a request: the outcome, and the document that it was computed from. -/
structure FormatTicket where
  token : Nat
  source : Text
  outcome : FormatOutcome
  deriving DecidableEq, Repr

/-- A formatting session. -/
structure FormatSession where
  /-- The number of the latest request. -/
  latest : Nat := 0
  jobs : JobQueue FormatJob := {}
  /-- The job of the latest request that was taken. -/
  current : Option Nat := none
  /-- Outcomes that have not been looked at yet, oldest first. -/
  results : List FormatTicket := []
  /-- Outcomes are looked at from time to time, until the session ends. -/
  watching : Bool := true

namespace FormatSession

/-- Is this the number of the latest request? -/
def isLatest (session : FormatSession) (token : Int) : Bool :=
  token == (session.latest : Int)

/-- The session without its current job, if that waits still. -/
def cancelCurrent (session : FormatSession) : FormatSession :=
  match session.current with
  | none => session
  | some number => { session with jobs := session.jobs.cancel number }

/-- Request formatting. An earlier request that waits still is cancelled. -/
def request (session : FormatSession) (source filePath projectRoot : Text) : FormatSession :=
  let token := session.latest + 1
  let session := { session.cancelCurrent with latest := token }
  match session.jobs.submit? { token, source, filePath, projectRoot } with
  | none => session
  | some (number, jobs) => { session with jobs, current := some number }

/-- Begin the oldest job that waits. -/
def begin? (session : FormatSession) : Option FormatSession :=
  session.jobs.begin?.map fun jobs => { session with jobs }

/-- The outcome of a run; a run that a fault ended leaves the document as it is. -/
def outcomeOf (source : Text) : Except Fault FormatRun → FormatOutcome
  | .ok run => run.outcome
  | .error _ => { mode := .failed, text := source, message := Formatter.failureMessage }

/-- Finish the oldest job that runs, by running the formatter. The answer holds the
run too. -/
def finish? (session : FormatSession) (run : FormatJob → Except Fault FormatRun) :
    Option (FormatSession × Except Fault FormatRun) :=
  session.jobs.finish?.map fun (job, jobs) =>
    let made := run job.work
    let ticket : FormatTicket :=
      { token := job.work.token, source := job.work.source
        outcome := outcomeOf job.work.source made }
    ({ session with jobs, results := session.results ++ [ticket] }, made)

/-- Look at the results: those of the latest request are announced. There is no
answer once the session has ended. -/
def drain? (session : FormatSession) : Option (FormatSession × List FormatTicket) :=
  if session.watching then
    some ({ session with results := [] },
      session.results.filter fun ticket => session.isLatest ticket.token)
  else none

/-- End the session. -/
def shutdown (session : FormatSession) : FormatSession :=
  let session := session.cancelCurrent
  { session with watching := false, current := none, jobs := session.jobs.close }

end FormatSession

end SchemaDesk
