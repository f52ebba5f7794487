import SchemaDesk.Highlight.Line
import SchemaDesk.Hover.Lookup
import SchemaDesk.Report.Basic
import SchemaDesk.Snippet.Template
import SchemaDesk.Suggestion.Request

/-!
# Reports on documents

Places, scopes, cues, documentation, templates and colours, as hosts are told.
-/

namespace SchemaDesk.Report

/-- A place. -/
def position (p : Position) : Json :=
  .arr [.int p.line, .int p.column]

/-- A part of a line. -/
def range (r : TextRange) : Json :=
  .arr [.int r.line, .int r.startColumn, .int r.endColumn]

/-- The blocks around a place. -/
def scope (s : BlockScope) : Json :=
  .obj [("generator", .bool s.generator), ("datasource", .bool s.datasource),
    ("model", .bool s.model), ("enum", .bool s.enum), ("top_level", .bool s.isTopLevel),
    ("active", list (fun k : BlockKind => .ofString k.keyword) s.active)]

/-- The signs before a place. -/
def cues (c : Cues) : Json :=
  .obj [("after_at_sign", .bool c.afterAtSign), ("after_block_at_sign", .bool c.afterDoubleAtSign),
    ("after_equals", .bool c.afterEquals), ("inside_default_parens", .bool c.insideDefault),
    ("is_blank_line_start", .bool c.atLineStart), ("in_type_position", .bool c.inTypePosition),
    ("property_name", .str c.property)]

/-- What is known about a place when suggestions are wanted there. -/
def context (c : CompletionContext) : Json :=
  .obj [("lines_before", list .ofText c.linesBefore), ("current_line", .str c.currentLine),
    ("before_cursor", .str c.beforeCursor), ("position", position c.position),
    ("block", scope c.scope), ("cues", cues c.cues)]

/-- A suggestion. -/
def suggestion (s : Suggestion) : Json :=
  .obj s.toFields

/-- The documentation of a word. -/
def card (c : Hover.Card) : Json :=
  .obj [("word", .str c.word), ("markdown", .ofString c.markdown), ("line", .int c.line),
    ("start_column", .int c.startColumn), ("end_column", .int c.endColumn)]

/-- An expanded template. -/
def expansion (e : Snippet.Expansion) : Json :=
  .obj [("text", .str e.text), ("cursor_offset", count e.cursorOffset),
    ("selection_length", count e.selectionLength)]

/-- A coloured line. -/
def colouredLine (l : Highlight.ColouredLine) : Json :=
  .obj [("formats", list (fun s : Highlight.Span =>
      .arr [.int s.start, .int s.length, .ofString s.format.name]) l.spans),
    ("state", .int (if l.insideComment then 1 else 0))]

/-- The appearance of all formats, by name. -/
def formats : Json :=
  .obj (Highlight.Format.all.map fun (f : Highlight.Format) =>
    (f.name, .obj [("color", .ofString f.appearance.color), ("bold", .bool f.appearance.bold),
      ("italic", .bool f.appearance.italic)]))

end SchemaDesk.Report
