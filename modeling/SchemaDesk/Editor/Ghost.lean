import SchemaDesk.Editor.Basic

/-!
# Suggestions behind the caret

A suggestion of the assistant is shown behind the caret until it is taken over or
until the caret moves away from where it was shown.
-/

namespace SchemaDesk.Editor

/-- Take back the suggestion. -/
def clearSuggestion (editor : Editor) : Editor :=
  { editor with ghost := none }

/-- Show a suggestion. A blank one takes back what is shown, and so does any while
completions are listed. -/
def setSuggestion (editor : Editor) (t : Text) : Editor :=
  let t := t.filter (· != '\r')
  if Text.allBlank t || editor.popup.isSome then editor.clearSuggestion
  else
    { editor with
      ghost := some
        { text := t, position := editor.buffer.caret.position
          revision := editor.buffer.revision } }

/-- Insert the suggestion at the caret, if there is one. -/
def acceptSuggestion (editor : Editor) : Editor × List EditorNotice × Bool :=
  match editor.ghost with
  | none => (editor, [], false)
  | some ghost =>
    let (editor, notices) := editor.clearSuggestion.insert ghost.text
    (editor, notices ++ [.adopted ghost.text], true)

/-- What is drawn behind the caret: the first line of the suggestion, and a sign if
there are more. Nothing is drawn once the text has changed. -/
def drawn? (editor : Editor) : Option Text :=
  match editor.ghost with
  | none => none
  | some ghost =>
    if editor.popup.isSome || editor.buffer.revision != ghost.revision ||
        editor.buffer.caret.position != ghost.position then none
    else
      match Text.splitLines ghost.text with
      | [] => none
      | [line] => some line
      | line :: _ => some (line ++ " …".toList)

end SchemaDesk.Editor
