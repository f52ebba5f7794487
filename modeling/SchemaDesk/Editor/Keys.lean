import SchemaDesk.Editor.Completion

/-!
# Keys

A key press goes to the completion list while it is shown, then to a suggestion
of the assistant, then to the commands of the editor, and at last into the text.
A key that may have edited the text is announced, and the list is narrowed down,
left, or opened.
-/

namespace SchemaDesk

/-- The keys that the editor tells apart. -/
inductive Key where
  | tab
  | enter
  | backspace
  | escape
  | delete
  | space
  | left
  | right
  | up
  | down
  | home
  | lineEnd
  | character
  deriving DecidableEq, Repr

/-- A key press: the key, the text that it stands for, and the keys held with it. -/
structure KeyPress where
  key : Key
  text : Text
  shift : Bool := false
  control : Bool := false
  alt : Bool := false
  command : Bool := false
  deriving DecidableEq, Repr

namespace KeyPress

/-- No key is held. -/
def isPlain (press : KeyPress) : Bool :=
  !press.shift && !press.control && !press.alt && !press.command

/-- A key other than shift is held. -/
def isCommand (press : KeyPress) : Bool :=
  press.control || press.alt || press.command

/-- The press of a key that types a character. -/
def ofChar (c : Char) : KeyPress where
  key := if c = ' ' then .space else .character
  text := [c]

/-- Does the key leave the token that is being typed unfinished? -/
def staysInToken (press : KeyPress) : Bool :=
  (!press.text.isEmpty && press.text.all Text.isAlphanumeric) ||
    press.text == ['_'] || press.text == ['"'] || press.text == ['.'] || press.key == .backspace

end KeyPress

namespace Editor

/-- Remove the selection, or else the part between two offsets. -/
def remove (editor : Editor) (start stop : Nat) : Editor × List EditorNotice :=
  let caret := editor.buffer.caret
  if caret.position = caret.anchor then editor.replace start stop []
  else editor.replace caret.start caret.stop []

/-- What a key does to the text. Up and down do nothing where no list takes them, although a
text widget would move the caret then. -/
def typeKey (editor : Editor) (press : KeyPress) : Editor × List EditorNotice :=
  let position := editor.buffer.caret.position
  let length := editor.buffer.text.length
  let goTo (offset : Nat) := (editor.withCaret (.atOffset offset), [])
  match press.key with
  | .enter => editor.insert ['\n']
  | .backspace => editor.remove (position - 1) position
  | .delete => editor.remove position (min length (position + 1))
  | .left => goTo (position - 1)
  | .right => goTo (min length (position + 1))
  | .home => goTo (editor.buffer.lineStart position)
  | .lineEnd => goTo (editor.buffer.lineEnd position)
  | .up | .down | .escape | .tab => (editor, [])
  | .space | .character =>
    if !press.text.isEmpty && press.text.all Text.isPrintable && !press.isCommand then
      editor.insert press.text
    else (editor, [])

/-- The list after a key has been typed. -/
def afterTyping (editor : Editor) (press : KeyPress) : Editor :=
  if editor.popup.isSome then
    if press.staysInToken then editor.refreshPopup else editor.hidePopup
  else if triggerCharacters.contains press.text && editor.isOn "auto_trigger_completion" then
    editor.requestCompletion (some press.text)
  else editor

/-- A key that goes into the text. -/
def typeInto (editor : Editor) (press : KeyPress) : Editor × List EditorNotice :=
  let (editor, notices) := editor.typeKey press
  if press.text.isEmpty || press.isCommand then (editor, notices)
  else
    let (line, column) := editor.buffer.place
    (editor.afterTyping press, notices ++ [.edited line column])

/-- A key that neither the list nor a suggestion has use for. -/
def command (editor : Editor) (press : KeyPress) : EditorRun Unit :=
  if press.key = .space && press.control then
    { editor := editor.requestCompletion none, answer := .ok () }
  else if press.key = .tab && press.isPlain then
    match indent editor.settings with
    | .error e => { editor, answer := .error (.number e) }
    | .ok blanks =>
      let (editor, notices) := editor.insert blanks
      { editor, notices, answer := .ok () }
  else
    let (editor, notices) := editor.typeInto press
    { editor, notices, answer := .ok () }

/-- A key that the list has no use for. -/
def pressOverGhost (editor : Editor) (press : KeyPress) : EditorRun Unit :=
  if editor.ghost.isSome && press.key = .tab && press.isPlain then
    let (editor, notices, _) := editor.acceptSuggestion
    { editor, notices, answer := .ok () }
  else if editor.ghost.isSome && press.key = .escape then
    { editor := editor.clearSuggestion, answer := .ok () }
  else editor.command press

/-- Press a key. -/
def press (editor : Editor) (press : KeyPress) : EditorRun Unit :=
  if editor.popup.isNone then editor.pressOverGhost press
  else
    match press.key with
    | .down => { editor := editor.moveSelection 1, answer := .ok () }
    | .up => { editor := editor.moveSelection (-1), answer := .ok () }
    | .escape => { editor := editor.hidePopup, answer := .ok () }
    | .enter | .tab =>
      let run := editor.acceptCompletion
      match run.answer with
      | .error e => { run with answer := .error e }
      | .ok true => { run with answer := .ok () }
      | .ok false => editor.pressOverGhost press
    | _ => editor.pressOverGhost press

end Editor

end SchemaDesk
