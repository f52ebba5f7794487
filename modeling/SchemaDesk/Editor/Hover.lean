import SchemaDesk.Editor.Basic
import SchemaDesk.Hover.Lookup

/-!
# Hovering over the editor

When the mouse rests over a word for a while, the documentation of the word is
shown as a tool tip.
-/

namespace SchemaDesk.Editor

/-- The mouse is gone, or no documentation is wanted: there is no tool tip. -/
def leave (editor : Editor) : Editor :=
  { editor with hovering := {}, toolTip := none }

/-- The least number of milliseconds that the mouse has to rest. -/
def shortestRest : Int := 50

/-- The mouse moves over a line and a column, perhaps with a button held. -/
def hover (editor : Editor) (line column : Int) (held : Bool) :
    Editor × Except ConversionError Unit :=
  if !editor.isOn "show_hover_docs" || held then (editor.leave, .ok ())
  else
    let place := some (line, column)
    match numberSetting editor.settings "hover_delay_ms" 350 with
    | .error e => ({ editor with hovering := { editor.hovering with place } }, .error e)
    | .ok delay =>
      ({ editor with hovering := { delay := some (max shortestRest delay), place } }, .ok ())

/-- The documentation for the place of the text that is nearest to a line and column. -/
def documentationAt (editor : Editor) (line column : Int) : Option Text :=
  let shown := Position.clampTo (Text.splitLines editor.buffer.text) line column
  let lines := (Document.text editor.buffer.text).toLines
  (Hover.cardAt lines (Position.clampTo lines shown.line shown.column)).map (·.markdown.toList)

/-- The mouse has rested. The answer says whether the clock was running. -/
def rest (editor : Editor) : Editor × Bool :=
  if editor.hovering.delay.isNone then (editor, false)
  else
    let editor := { editor with hovering := { editor.hovering with delay := none } }
    match editor.hovering.place, editor.popup with
    | some (line, column), none =>
      ({ editor with toolTip := editor.documentationAt line column }, true)
    | _, _ => (editor, true)

end SchemaDesk.Editor
