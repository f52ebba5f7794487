import SchemaDesk.Formatting.Session
import SchemaDesk.Report.Basic

/-!
# Reports on formatting

Requests, results and outcomes, as hosts are told.
-/

namespace SchemaDesk.Report

/-- A request that was sent. -/
def httpRequest (r : HttpRequest) : Json :=
  .obj [("url", .str r.url), ("method", .ofString r.method),
    ("headers", .obj (r.headers.map fun (name, value) => (name, .str value))),
    ("body", .str r.body), ("timeout", .float r.timeout)]

/-- What a formatter was handed. -/
def formatRequest (r : FormatRequest) : Json :=
  .obj [("source_text", optional .ofText r.source), ("file_path", .str r.filePath),
    ("project_root", .str r.projectRoot)]

/-- What a formatter answered. -/
def formatResult (r : FormatResult) : Json :=
  .obj [("status", .ofString (if r.ok then "ok" else "error")), ("ok", .bool r.ok),
    ("formatted_text", .str r.text), ("message", .str r.message), ("stderr", .str r.diagnostics),
    ("error_kind", .str r.errorKind), ("debug_lines", list .ofText r.debugLines)]

/-- What came of formatting a document. -/
def outcome (o : FormatOutcome) : Json :=
  .obj [("mode", .str o.mode.name), ("text", .str o.text), ("message", .str o.message),
    ("primary_error_kind", .str o.primaryErrorKind), ("debug_lines", list .ofText o.debugLines),
    ("changed_document", .bool o.changesDocument)]

/-- What came of a request of a session. -/
def ticket (t : FormatTicket) : Json :=
  .obj [("token", count t.token), ("source_text", .str t.source), ("outcome", outcome t.outcome)]

/-- A run of the formatting tool, and the octets that it was run on. -/
def toolRun (run : Invocation × List UInt8) : Json :=
  .obj [("cmd", list .ofText run.1.words), ("cwd", optional .ofText run.1.directory),
    ("timeout", .float run.1.timeout),
    ("env", list (fun setting => .ofString setting.2) run.1.environment),
    ("file", .str (Text.Utf8.decodeLossy run.2))]

/-- A formatting session. -/
def formatSession (s : FormatSession) : Json :=
  .obj [("latest", count s.latest), ("waiting", count s.jobs.waiting.length),
    ("queued", count s.results.length)]

end SchemaDesk.Report
