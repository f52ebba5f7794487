import SchemaDesk.Report.Basic
import SchemaDesk.Window

/-!
# Reports on the window

The editor, the window, and what they announce, as hosts are told.
-/

namespace SchemaDesk.Report

/-- A list of completions. -/
def popup (p : Popup) : Json :=
  .obj [("rows", list (fun offer : Offer => .str offer.row) p.rows), ("row", .int p.row)]

/-- An editor. -/
def editor (e : Editor) : Json :=
  let (line, column) := e.buffer.place
  let (start, stop) := e.buffer.selection
  .obj [("text", .str e.buffer.text), ("cursor", .arr [count line, count column]),
    ("selection", .arr [count start, count stop]), ("tooltip", optional .ofText e.toolTip),
    ("suggestion", optional (fun ghost : Ghost => .str ghost.text) e.ghost),
    ("popup", optional popup e.popup)]

/-- What an editor announces, changes of the text apart. -/
def editorNotice? : WindowNotice → Option Json
  | .editor (.edited line column) => some (.arr [.ofString "edited", .int line, .int column])
  | .editor (.completed label) => some (.arr [.ofString "accepted", .str label])
  | .editor (.adopted t) => some (.arr [.ofString "suggestion", .str t])
  | _ => none

/-- A message in the status line. -/
def status? : WindowNotice → Option Json
  | .status message milliseconds => some (.arr [.str message, .int milliseconds])
  | _ => none

/-- A warning. -/
def warning? : WindowNotice → Option Json
  | .warning title message => some (.arr [.str title, .str message])
  | _ => none

/-- A file dialog. -/
def dialog? : WindowNotice → Option Json
  | .dialog title directory kinds => some (.arr [.str title, .str directory, .str kinds])
  | _ => none

/-- What a window announces, by kind, and what was sent meanwhile. -/
def log (notices : List WindowNotice) (sent : List HttpRequest) : Fields :=
  [("events", .arr (notices.filterMap editorNotice?)), ("status", .arr (notices.filterMap status?)),
    ("warnings", .arr (notices.filterMap warning?)), ("dialogs", .arr (notices.filterMap dialog?)),
    ("sent", list (fun r : HttpRequest => .obj [("url", .str r.url), ("body", .str r.body)]) sent)]

/-- A window. -/
def window (w : Window) : Fields :=
  [("title", .str w.title), ("file_path", .str w.filePath), ("format_label", .str w.formatLabel),
    ("waiting", .obj [("ai", count w.assistant.jobs.waiting.length),
      ("format", count w.formatting.jobs.waiting.length)]),
    ("state", editor w.editor),
    ("ai_latest", count (w.assistant.cacheOf Window.editorName).latest)]

end SchemaDesk.Report
