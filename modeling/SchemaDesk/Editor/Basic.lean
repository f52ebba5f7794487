import SchemaDesk.Editor.Buffer
import SchemaDesk.Editor.Offer

/-!
# The editor

A buffer with what is shown over it: a list of completions, a suggestion of the
assistant behind the caret, and a tool tip. Operations answer with the new editor
and with what they announce, in order.
-/

namespace SchemaDesk

/-- A list of completions: the rows that are shown, and the number of the chosen one,
counted from zero. A number that no row has chooses none. -/
structure Popup where
  rows : List Offer
  row : Int

/-- The offer that is chosen. -/
def Popup.chosen? (popup : Popup) : Option Offer :=
  if popup.row < 0 then none else popup.rows[popup.row.toNat]?

/-- A suggestion that is shown behind the caret, with the place and the revision it
was shown at. -/
structure Ghost where
  text : Text
  position : Nat
  revision : Nat
  deriving DecidableEq, Repr

/-- The clock of the tool tip, and the line and column of the mouse. -/
structure Hovering where
  /-- Milliseconds; none if the clock is not running. -/
  delay : Option Int := none
  place : Option (Int × Int) := none
  deriving DecidableEq, Repr

/-- An editor. -/
structure Editor where
  buffer : Buffer
  /-- The section of the settings, as it stands there. -/
  settings : Fields
  /-- All offers of the completion list, also those that are not shown. -/
  offers : List Offer := []
  /-- The part of the document that the list was asked for. -/
  range : Option TextRange := none
  popup : Option Popup := none
  ghost : Option Ghost := none
  hovering : Hovering := {}
  toolTip : Option Text := none
  /-- The offset of the caret when it was last looked at. -/
  seen : Nat := 0

/-- What an editor announces. -/
inductive EditorNotice where
  | textChanged
  /-- A key has been pressed that may have edited the text; line and column. -/
  | edited (line column : Int)
  /-- A completion has been inserted; its label. -/
  | completed (label : Text)
  /-- A suggestion of the assistant has been inserted. -/
  | adopted (suggestion : Text)
  deriving DecidableEq, Repr

/-- Why an operation was broken off. -/
inductive EditorError where
  /-- A setting is no number. -/
  | number (e : ConversionError)
  /-- A range has too few parts. -/
  | shortRange (parts : Nat)
  /-- A range has too many parts. -/
  | longRange
  /-- A range has no parts at all. -/
  | wholeRange (kind : String)
  /-- The column that a range starts at is no number. -/
  | column (kind : String)
  /-- The column that a range starts at is in the text, but no whole number. -/
  | betweenColumns
  deriving DecidableEq, Repr

/-- The wording of what broke an operation off. -/
def EditorError.message : EditorError → Text
  | .number e => e.message
  | .shortRange parts =>
    ("not enough values to unpack (expected 3, got " ++ toString parts ++ ")").toList
  | .longRange => "too many values to unpack (expected 3)".toList
  | .wholeRange kind => ("cannot unpack non-iterable " ++ kind ++ " object").toList
  | .column kind => ("unsupported operand type(s) for -: '" ++ kind ++ "' and 'int'").toList
  | .betweenColumns =>
    "slice indices must be integers or None or have an __index__ method".toList

/-- What comes of an operation that may be broken off. What was done before that
stays done. -/
structure EditorRun (α : Type) where
  editor : Editor
  notices : List EditorNotice := []
  answer : Except EditorError α

namespace Editor

/-- The number in a setting, or the default where the setting counts as no. -/
def numberSetting (settings : Fields) (name : String) (default : Int) :
    Except ConversionError Int :=
  ((settings.get name).orElse (.int default)).toWhole

/-- A setting that is on unless it is switched off. -/
def isOn (editor : Editor) (name : String) : Bool :=
  ((editor.settings.get? name).getD (.bool true)).truthy

/-- The width of a tabulator, in spaces. -/
def tabWidth (settings : Fields) : Except ConversionError Nat := do
  return (max 1 (← numberSetting settings "tab_size" 2)).toNat

/-- The blanks that the tabulator key stands for. -/
def indent (settings : Fields) : Except ConversionError Text := do
  (Size.blanks (← tabWidth settings)).mapError .size

/-- How a text is shown. -/
structure Appearance where
  family : Text
  size : Int
  tabWidth : Nat
  deriving DecidableEq, Repr

/-- The appearance that settings ask for. -/
def appearance (settings : Fields) : Except ConversionError Appearance := do
  let family := ((settings.get "font_family").orElse (.ofString "JetBrains Mono")).display
  let size ← numberSetting settings "font_size" 14
  return { family, size, tabWidth := ← tabWidth settings }

/-- An editor that holds a text. Its settings must make sense. -/
def new (settings : Fields) (t : Text) : Except ConversionError Editor := do
  let _ ← appearance settings
  return { buffer := .ofText t, settings }

/-- Let other settings hold from now on, even if they make no sense; but what has no
fields is no settings. -/
def updateSettings (editor : Editor) (settings : Json) :
    Editor × Except ConversionError Appearance :=
  match settings.lenientFields with
  | .ok settings => ({ editor with settings }, appearance settings)
  | .error e => (editor, .error e)

/-- The caret has moved or not: a suggestion that was shown elsewhere is taken back. -/
def look (editor : Editor) : Editor :=
  let position := editor.buffer.caret.position
  if position = editor.seen then editor
  else { editor with seen := position, ghost := editor.ghost.filter (·.position == position) }

/-- The editor with the caret somewhere else. -/
def withCaret (editor : Editor) (caret : Caret) : Editor :=
  { editor with buffer := { editor.buffer with caret } }.look

/-- Put the caret at an offset and select from another one; offsets outside the text
count for nothing. -/
def select (editor : Editor) (anchor position : Int) : Editor :=
  let length := editor.buffer.text.length
  editor.withCaret ((editor.buffer.caret.moveTo length anchor).extendTo length position)

/-- Replace a part of the text. -/
def replace (editor : Editor) (start stop : Nat) (t : Text) : Editor × List EditorNotice :=
  match editor.buffer.replace? start stop t with
  | none => (editor, [])
  | some buffer => ({ editor with buffer }.look, [.textChanged])

/-- Put a text in the place of the selection. -/
def insert (editor : Editor) (t : Text) : Editor × List EditorNotice :=
  editor.replace editor.buffer.caret.start editor.buffer.caret.stop t

/-- Put a text in the place of everything, with the caret at the start. -/
def setText (editor : Editor) (t : Text) : Editor × List EditorNotice :=
  ({ editor with buffer := editor.buffer.reset t }.look, [.textChanged])

end Editor

end SchemaDesk
