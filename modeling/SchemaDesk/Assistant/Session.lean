import SchemaDesk.Assistant.Answer
import SchemaDesk.Assistant.Cache
import SchemaDesk.Assistant.Chat
import SchemaDesk.Assistant.Excerpt
import SchemaDesk.Assistant.Prompt
import SchemaDesk.Jobs
import SchemaDesk.Keyed
import SchemaDesk.Settings.Normal

/-!
# Assistant sessions

The assistant is asked beside the program, for any number of editors. Each editor
has a cache of suggestions, whose numbers tell which request is the latest; a
request that a user asks for starts at once, and one that typing asks for starts
when the editor has rested for a while. What comes back is announced only if
nothing has happened in its editor since it was asked.
-/

namespace SchemaDesk

/-- What a request was made for. -/
inductive AssistTrigger where
  | manual
  | passive
  deriving DecidableEq, Repr

/-- The name of a trigger. -/
def AssistTrigger.name : AssistTrigger → String
  | .manual => "manual"
  | .passive => "passive"

/-- A request, with the settings that held when it was made. -/
structure AssistJob where
  editor : Text
  excerpt : Excerpt
  trigger : AssistTrigger
  token : Nat
  settings : AssistantSettings
  deriving DecidableEq, Repr

/-- What came of a request. -/
structure AssistAnswer where
  editor : Text
  token : Int
  trigger : AssistTrigger
  line : Int := 0
  column : Int := 0
  text : Text := []
  ok : Bool
  /-- The settings are to blame. -/
  configError : Bool := false
  statusText : Text
  deriving DecidableEq, Repr

/-- An answer as it is handed to hosts. -/
def AssistAnswer.toFields (answer : AssistAnswer) : Fields :=
  [("editor_id", .str answer.editor), ("token", .int answer.token),
    ("trigger", .ofString answer.trigger.name), ("line", .int answer.line),
    ("column", .int answer.column), ("text", .str answer.text), ("ok", .bool answer.ok),
    ("config_error", .bool answer.configError), ("status_text", .str answer.statusText)]

/-- What a session announces. -/
inductive AssistNotice where
  /-- A suggestion for an editor; an empty one takes back what was suggested. -/
  | suggestion (payload : Fields)
  | configError (message : Text)
  | status (message : Text)

/-- The clock that waits until an editor has rested. -/
structure RestTimer where
  active : Bool
  /-- Milliseconds. -/
  interval : Int
  deriving DecidableEq, Repr

/-- A session of the assistant. -/
structure AssistSession where
  settings : AssistantSettings
  caches : Keyed Text SuggestionCache := []
  /-- Requests that wait for their editor to rest. -/
  pending : Keyed Text AssistJob := []
  timers : Keyed Text RestTimer := []
  /-- The job of the latest request of each editor that has been started. -/
  inflight : Keyed Text Nat := []
  jobs : JobQueue AssistJob := {}
  /-- Answers that have not been looked at yet, oldest first. -/
  results : List AssistAnswer := []
  /-- The complaints about settings that have been announced. -/
  reported : List Text := []
  /-- Answers are looked at from time to time, until the session ends. -/
  watching : Bool := true

namespace AssistSession

/-- The name of an editor, without white space around it. -/
def editorKey (editor : Text) : Text :=
  Text.strip editor

/-- The cache of an editor; a new editor has an empty one. -/
def cacheOf (session : AssistSession) (editor : Text) : SuggestionCache :=
  (session.caches.get? (editorKey editor)).getD (.new session.settings.cacheSize)

/-- The session with a cache for an editor. -/
def withCache (session : AssistSession) (editor : Text) (cache : SuggestionCache) :
    AssistSession :=
  { session with caches := session.caches.set (editorKey editor) cache }

/-- The session after an edit: requests that are under way have lost their number. -/
def noteEdit (session : AssistSession) (editor : Text) : AssistSession :=
  if (editorKey editor).isEmpty then session
  else session.withCache editor (session.cacheOf editor).advance

/-- The complaint where the settings have no key. -/
def missingKeyMessage : Text :=
  "AI completion is not configured: missing API key.".toList

/-- Announce a complaint about the settings, each only once. -/
def complain (session : AssistSession) (message : Text) : AssistSession × List AssistNotice :=
  let message := Text.strip message
  let message :=
    if message.isEmpty then "AI completion is not configured.".toList else message
  if session.reported.contains message then (session, [])
  else ({ session with reported := session.reported ++ [message] }, [.configError message])

/-- Stop the clock of an editor. -/
def stopTimer (session : AssistSession) (key : Text) : AssistSession :=
  match session.timers.get? key with
  | none => session
  | some timer => { session with timers := session.timers.set key { timer with active := false } }

/-- The job with a number is over: it is not the one that its editor waits for. -/
def release (session : AssistSession) (key : Text) (number : Nat) : AssistSession :=
  if session.inflight.get? key = some number then
    { session with inflight := session.inflight.erase key }
  else session

/-- Cancel the job that an editor waits for, if it has not begun. -/
def cancelInflight (session : AssistSession) (key : Text) : AssistSession :=
  match session.inflight.get? key with
  | none => session
  | some number =>
    let cancelled := { session with jobs := session.jobs.cancel number }
    if session.jobs.isWaiting number then cancelled.release key number else cancelled

/-- Start a request; an earlier one of its editor that has not begun is cancelled. -/
def start (session : AssistSession) (job : AssistJob) : AssistSession × List AssistNotice :=
  let session := session.cancelInflight job.editor
  match session.jobs.submit? job with
  | none =>
    (session,
      if job.trigger = .manual then
        [.status "AI Assist is unavailable right now.".toList]
      else [])
  | some (number, jobs) =>
    ({ session with jobs, inflight := session.inflight.set job.editor number }, [])

/-- A request for an editor, if there can be one: it takes the next number. -/
def prepare (session : AssistSession) (trigger : AssistTrigger) (editor source : Text)
    (line column : Json) :
    Except ConversionError (AssistSession × List AssistNotice × Option AssistJob) := do
  let key := editorKey editor
  if key.isEmpty || !session.settings.enabled then return (session, [], none)
  else if !session.settings.hasKey then
    let (session, notices) := session.complain missingKeyMessage
    return (session, notices, none)
  else
    let excerpt ← Excerpt.ofRequest source line column
    let cache := (session.cacheOf key).advance
    let job : AssistJob :=
      { editor := key, excerpt, trigger, token := cache.latest, settings := session.settings }
    return (session.withCache key cache, [], some job)

/-- A request that a user asks for starts at once. -/
def requestManual (session : AssistSession) (editor source : Text) (line column : Json) :
    Except ConversionError (AssistSession × List AssistNotice) := do
  match ← session.prepare .manual editor source line column with
  | (session, notices, none) => return (session, notices)
  | (session, notices, some job) =>
    let session := { session with pending := session.pending.erase job.editor }
    let (session, more) := (session.stopTimer job.editor).start job
    return (session, notices ++ more)

/-- A request that typing asks for waits until its editor has rested; it takes the
place of the one that waited before. -/
def requestPassive (session : AssistSession) (editor source : Text) (line column : Json) :
    Except ConversionError (AssistSession × List AssistNotice) := do
  match ← session.prepare .passive editor source line column with
  | (session, notices, none) => return (session, notices)
  | (session, notices, some job) =>
    let timer : RestTimer := { active := true, interval := job.settings.debounce }
    return ({ session with
        pending := session.pending.set job.editor job
        timers := session.timers.set job.editor timer }, notices)

/-- Start the request that waits for an editor, unless it has lost its number. -/
def flush (session : AssistSession) (key : Text) : AssistSession × List AssistNotice :=
  match session.pending.get? key with
  | none => (session, [])
  | some job =>
    let session := { session with pending := session.pending.erase key }
    if (session.cacheOf key).isCurrent job.token then session.start job else (session, [])

/-- The clock of an editor goes off, if it is running. The answer says whether it
was; there is none if the editor has no clock. -/
def fire? (session : AssistSession) (key : Text) :
    Option (AssistSession × List AssistNotice × Bool) :=
  (session.timers.get? key).map fun timer =>
    if timer.active then
      let (session, notices) := (session.stopTimer key).flush key
      (session, notices, true)
    else (session, [], false)

/-- The announcement that takes back what was suggested. -/
def takenBack (key : Text) (token : Nat) : Fields :=
  [("editor_id", .str key), ("token", .int token), ("text", .str []), ("line", .int 0),
    ("column", .int 0), ("trigger", .ofString "cancel")]

/-- Cancel what an editor waits for, and perhaps take back what was suggested. -/
def cancelFor (session : AssistSession) (editor : Text) (clear : Bool) :
    AssistSession × List AssistNotice :=
  let key := editorKey editor
  if key.isEmpty then (session, [])
  else
    let session := ({ session with pending := session.pending.erase key }).stopTimer key
    let session := session.cancelInflight key
    let session := { session with inflight := session.inflight.erase key }
    let cache := (session.cacheOf key).advance
    if clear then
      (session.withCache key cache.clear, [.suggestion (takenBack key cache.latest)])
    else (session.withCache key cache, [])

/-- The editors that something is known of, in the order of their names. -/
def editors (session : AssistSession) : List Text :=
  (session.caches.keys ++ session.pending.keys).eraseDups.mergeSort fun a b =>
    decide (String.ofList a ≤ String.ofList b)

/-- Cancel what some editors wait for. -/
def cancelEach (session : AssistSession) (clear : Bool) :
    List Text → AssistSession × List AssistNotice
  | [] => (session, [])
  | key :: rest =>
    let (session, notices) := session.cancelFor key clear
    let (session, more) := session.cancelEach clear rest
    (session, notices ++ more)

/-- Cancel what all editors wait for. -/
def cancelAll (session : AssistSession) (clear : Bool) : AssistSession × List AssistNotice :=
  session.cancelEach clear session.editors

/-- Let other settings hold from now on. If they switch the assistant off, all that
is under way is cancelled and all that was suggested is taken back. -/
def updateSettings (session : AssistSession) (settings : AssistantSettings) :
    AssistSession × List AssistNotice :=
  let session :=
    { session with
      settings, reported := []
      caches := session.caches.map fun (key, cache) => (key, cache.resize settings.cacheSize) }
  if settings.enabled then (session, []) else session.cancelAll true

/-- Half a second: no request is given less. -/
def seconds (milliseconds : Int) : Decimal.Binary64 :=
  Decimal.Binary64.max Chat.shortestTimeout
    (((Decimal.Binary64.ofInt? milliseconds).getD (.infinity false)).divNat 1000)

/-- What the endpoint is asked for a request. -/
def chatRequest (job : AssistJob) : ChatRequest where
  baseUrl := job.settings.baseUrl.text
  apiKey := job.settings.apiKey.text
  model := job.settings.model.text
  systemPrompt := .str (Prompt.system job.settings.language.text)
  userPrompt :=
    .str (Prompt.user job.settings.language.text job.excerpt.before job.excerpt.current)
  maxTokens := .int job.settings.maxTokens
  timeout := .float (seconds job.settings.timeout)

/-- The status of a request that failed without saying why. -/
def failureStatus : Text :=
  "AI request failed.".toList

/-- The answer that a result of the endpoint amounts to. -/
def answerOf (job : AssistJob) : Except ChatError ChatResult → AssistAnswer
  | .error _ =>
    { editor := job.editor, token := job.token, trigger := job.trigger, ok := false
      statusText := failureStatus }
  | .ok result =>
    if result.ok then
      { editor := job.editor, token := job.token, trigger := job.trigger
        line := job.excerpt.line, column := job.excerpt.column
        text := Answer.clean job.excerpt.current result.text, ok := true
        statusText := result.statusText }
    else
      { editor := job.editor, token := job.token, trigger := job.trigger
        line := job.excerpt.line, column := job.excerpt.column, ok := false
        configError := result.isConfigError
        statusText := if result.statusText.isEmpty then failureStatus else result.statusText }

/-- Begin the oldest job that waits. -/
def begin? (session : AssistSession) : Option AssistSession :=
  session.jobs.begin?.map fun jobs => { session with jobs }

/-- What finishing a job did besides: what the endpoint was asked, and what was sent. -/
structure Asked where
  request : ChatRequest
  sent : List HttpRequest

/-- Ask the endpoint for a job that ran, and take its answer; `jobs` is what is left. The
worker is done, its job is forgotten and the answer is put among the results in one step,
with nothing of the other workers or of the session between. -/
def conclude (session : AssistSession) (provider : ChatProvider) (job : Job AssistJob)
    (jobs : JobQueue AssistJob) : AssistSession × Asked :=
  let request := chatRequest job.work
  let visit := provider request
  let session := { session with jobs }.release job.work.editor job.number
  ({ session with results := session.results ++ [answerOf job.work visit.result] },
    { request, sent := visit.sent })

/-- Finish the oldest job that runs, by asking the endpoint. -/
def finish? (session : AssistSession) (provider : ChatProvider) :
    Option (AssistSession × Asked) :=
  session.jobs.finish?.map fun (job, jobs) => session.conclude provider job jobs

/-- Finish a job that runs, whichever was begun first, by asking the endpoint. -/
def finishJob? (session : AssistSession) (number : Nat) (provider : ChatProvider) :
    Option (AssistSession × Asked) :=
  (session.jobs.finishJob? number).map fun (job, jobs) => session.conclude provider job jobs

theorem finish?_eq_finishJob? (session : AssistSession) (provider : ChatProvider) :
    session.finish? provider =
      session.jobs.running.head?.bind fun job => session.finishJob? job.number provider := by
  unfold finish? finishJob?
  rw [JobQueue.finish?_eq_finishJob?]
  cases session.jobs.running.head? <;> rfl

/-- Look at an answer, which hosts see as `payload`. A suggestion that its cache
accepts is announced, and a complaint about settings too. -/
def settle (session : AssistSession) (answer : AssistAnswer) (payload : Fields) :
    AssistSession × List AssistNotice :=
  if answer.editor.isEmpty || answer.token ≤ 0 then (session, [])
  else if answer.ok then
    let cache := session.cacheOf answer.editor
    match cache.offer? answer.token answer.text answer.line answer.column with
    | some cache => (session.withCache answer.editor cache, [.suggestion payload])
    | none => (session.withCache answer.editor cache, [])
  else if answer.configError then session.complain answer.statusText
  else (session, [])

/-- The number that a field names; what counts as no names zero. -/
def numberField (payload : Fields) (name : String) : Except ConversionError Int :=
  ((payload.get name).orElse (.int 0)).toWhole

/-- Look at an answer that is loosely given. -/
def handle (session : AssistSession) (payload : Fields) :
    AssistSession × Except ConversionError (List AssistNotice) :=
  let editor := (payload.get "editor_id").lenientText
  match numberField payload "token" with
  | .error e => (session, .error e)
  | .ok token =>
    let answer : AssistAnswer :=
      { editor, token, trigger := .manual, ok := (payload.get "ok").truthy
        text := (payload.get "text").lenientText
        configError := (payload.get "config_error").truthy
        statusText := (payload.get "status_text").lenientText }
    let settled (answer : AssistAnswer) :=
      let (session, notices) := session.settle answer payload
      (session, Except.ok notices)
    if editor.isEmpty || token ≤ 0 || !answer.ok then settled answer
    else
      match numberField payload "line", numberField payload "column" with
      | .ok line, .ok column => settled { answer with line, column }
      | .error e, _ | _, .error e => (session.withCache editor (session.cacheOf editor), .error e)

/-- Look at some answers, oldest first. -/
def settleEach (session : AssistSession) :
    List AssistAnswer → AssistSession × List AssistNotice
  | [] => (session, [])
  | answer :: rest =>
    let (session, notices) := session.settle answer answer.toFields
    let (session, more) := session.settleEach rest
    (session, notices ++ more)

/-- Look at the answers. There is none once the session has ended. -/
def drain? (session : AssistSession) : Option (AssistSession × List AssistNotice) :=
  if session.watching then some ({ session with results := [] }.settleEach session.results)
  else none

/-- End the session. -/
def shutdown (session : AssistSession) : AssistSession :=
  let (session, _) := session.cancelAll false
  { session with
    timers := [], pending := [], inflight := [], watching := false, jobs := session.jobs.close }

end AssistSession

end SchemaDesk
