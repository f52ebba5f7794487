import SchemaDesk.Assistant.Session
import SchemaDesk.Report.Basic

/-!
# Reports on the assistant

Requests, results, caches and sessions, as hosts are told.
-/

namespace SchemaDesk.Report

/-- What a chat endpoint was asked. -/
def chatRequest (r : ChatRequest) : Json :=
  .obj [("base_url", .str r.baseUrl), ("api_key", .str r.apiKey), ("model", .str r.model),
    ("system_prompt", r.systemPrompt), ("user_prompt", r.userPrompt),
    ("max_output_tokens", r.maxTokens), ("timeout_s", r.timeout), ("temperature", r.temperature)]

/-- What came of asking. -/
def chatResult (r : ChatResult) : Json :=
  .obj [("ok", .bool r.ok), ("status_text", .str r.statusText),
    ("http_status", optional .int r.httpStatus), ("error_kind", .str r.errorKind),
    ("text", .str r.text), ("usage", .obj r.usage), ("is_config_error", .bool r.isConfigError)]

/-- A cache of suggestions. -/
def cache (c : SuggestionCache) : Json :=
  .obj [("latest", count c.latest), ("capacity", count c.capacity),
    ("entries", list (fun e : CachedSuggestion =>
      .arr [count e.sequence, .str e.text, .int e.line, .int e.column]) c.entries),
    ("current", optional (fun e : CachedSuggestion => count e.sequence) c.current?)]

/-- What a session announces. -/
def assistNotice : AssistNotice → Json
  | .suggestion payload => .arr [.ofString "suggestion", .obj payload]
  | .configError message => .arr [.ofString "config_error", .str message]
  | .status message => .arr [.ofString "status", .str message]

/-- A session of the assistant. -/
def assistSession (s : AssistSession) : Json :=
  .obj [("pending", keyed (fun job : AssistJob => count job.token) s.pending),
    ("timers", keyed (fun t : RestTimer => .arr [.bool t.active, .int t.interval]) s.timers),
    ("inflight", sorted s.inflight.keys), ("waiting", count s.jobs.waiting.length),
    ("caches", keyed cache s.caches), ("reported", sorted s.reported)]

end SchemaDesk.Report
