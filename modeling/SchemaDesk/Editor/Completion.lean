import SchemaDesk.Editor.Ghost
import SchemaDesk.Snippet.Template
import SchemaDesk.Suggestion.Request

/-!
# Completing in the editor

Completions for the place of the caret are listed, narrowed down as typing goes
on, and one of them is inserted in the place of the unfinished token.
-/

namespace SchemaDesk.Editor

/-- Leave the completion list. -/
def hidePopup (editor : Editor) : Editor :=
  { editor with toolTip := none, popup := none, offers := [], range := none }

/-- What has been typed of the token that the list was asked for. -/
def typedToken (editor : Editor) : Text :=
  match editor.range with
  | none => []
  | some range =>
    let (line, column) := editor.buffer.place
    if (line : Int) ≠ range.line ∨ (column : Int) < range.startColumn then []
    else
      let before := editor.buffer.lineBefore editor.buffer.caret.position
      before.drop (range.startColumn - 1).toNat

/-- The rows that fit what has been typed. -/
def narrowed (offers : List Offer) (typed : Text) : List Offer :=
  offers.filter (·.startsWith typed)

/-- The editor with a list whose chosen row has just changed: the documentation of the
row, if it has any, is the tool tip. -/
def withPopup (editor : Editor) (popup : Popup) : Editor :=
  { editor with
    popup := some popup
    toolTip := (popup.chosen?.map (·.documentation)).filter fun t => !t.isEmpty }

/-- List the offers that fit what has been typed; without any there is no list. -/
def refreshPopup (editor : Editor) : Editor :=
  match narrowed editor.offers editor.typedToken with
  | [] => editor.hidePopup
  | rows => editor.withPopup { rows, row := 0 }

/-- List some offers. -/
def showPopup (editor : Editor) (offers : List Offer) : Editor :=
  if offers.isEmpty then editor.hidePopup
  else { editor.clearSuggestion with offers }.refreshPopup

/-- List the completions for the place of the caret. -/
def requestCompletion (editor : Editor) (trigger : Option Text) : Editor :=
  let lines := (Document.text editor.buffer.text).toLines
  let (line, column) := editor.buffer.place
  let context := CompletionContext.atPlace lines (Position.clampTo lines line column) trigger
  match Completion.answer context lines with
  | [] => editor.hidePopup
  | first :: rest =>
    let range := first.range.getD { line, startColumn := column, endColumn := column }
    { editor with range := some range }.showPopup
      ((first :: rest).map fun (s : Suggestion) => Offer.ofFields s.toFields)

/-- Choose the row that lies `delta` rows further on, around the ends of the list. -/
def moveSelection (editor : Editor) (delta : Int) : Editor :=
  match editor.popup with
  | none => editor
  | some popup =>
    let row := (max 0 popup.row + delta) % (popup.rows.length : Int)
    if popup.row = row then editor else editor.withPopup { popup with row }

/-- The line and the first column of a range that is loosely given. -/
def readRange (range : Json) : Except EditorError (Json × Json) :=
  let parts (items : List Json) : Except EditorError (Json × Json) :=
    match items with
    | [line, column, _] => .ok (line, column)
    | items => if items.length < 3 then .error (.shortRange items.length) else .error .longRange
  match range with
  | .arr items => parts items
  | .str s => parts (s.map fun point => .str [point])
  | .obj fields => parts (fields.map fun field => .str field.1)
  | other => .error (.wholeRange other.kind)

/-- Is a value the number of a line? -/
def isLine (line : Nat) : Json → Bool
  | .int i => i == line
  | .bool b => line == (if b then 1 else 0)
  | .float x => x == Decimal.Binary64.ofRatio false line 1
  | _ => false

/-- A column that is given as a floating-point number. One before the line is the first
one, and one behind the text is any that lies there. -/
def floatColumn (editor : Editor) (x : Decimal.Binary64) : Except EditorError Int :=
  let length := editor.buffer.text.length
  let last := length - editor.buffer.lineStart editor.buffer.caret.position + 1
  if !(Decimal.Binary64.ofRatio false 1 1).lt x then .ok 1
  else if (Decimal.Binary64.ofRatio false last 1).lt x then .ok (length + 2)
  else .error .betweenColumns

/-- The first column that is replaced: the one that a range names, if it names the
line of the caret, and else the column of the caret. -/
def firstColumn (editor : Editor) (range : Json) : Except EditorError Int :=
  let (line, column) := editor.buffer.place
  let own := match editor.range with
    | some range => (if range.line = line then range.startColumn else column)
    | none => (column : Int)
  if range.truthy then
    match readRange range with
    | .error e => .error e
    | .ok (named, first) =>
      if isLine line named then
        match first with
        | .int i => .ok i
        | .bool b => .ok (if b then 1 else 0)
        | .float x => editor.floatColumn x
        | other => .error (.column other.kind)
      else .ok column
  else .ok own

/-- Put the text of an offer in the place of the part from `start` up to the caret,
and the caret where the template wants it. -/
def insertAt (editor : Editor) (start : Nat) (offer : Offer) : Editor × List EditorNotice :=
  let length := editor.buffer.text.length
  let selected :=
    (editor.buffer.caret.moveTo length start).extendTo length editor.buffer.caret.position
  let expansion := Snippet.expand offer.template
  let text := if offer.isSnippet then expansion.text else offer.template
  let put := Text.dropReturnBeforeFeed text
  let (editor, notices) := editor.replace selected.start selected.stop text
  let length := editor.buffer.text.length
  let behind := Caret.atOffset (selected.start + put.length)
  let caret :=
    if offer.isSnippet then
      let first := start + expansion.cursorOffset
      let caret := behind.moveTo length first
      if expansion.selectionLength = 0 then caret
      else caret.extendTo length (first + expansion.selectionLength)
    else behind
  (editor.withCaret caret, notices)

/-- Insert an offer; the answer is its label. An offer without a text is none. -/
def insertOffer (editor : Editor) (offer : Offer) : EditorRun Text :=
  if offer.template.isEmpty then { editor, answer := .ok [] }
  else
    match editor.firstColumn offer.range with
    | .error e => { editor, answer := .error e }
    | .ok column =>
      let start := editor.buffer.lineStart editor.buffer.caret.position + (column - 1).toNat
      let (editor, notices) := editor.insertAt start offer
      { editor, notices, answer := .ok offer.label }

/-- Insert the chosen offer and leave the list. -/
def acceptCompletion (editor : Editor) : EditorRun Bool :=
  match editor.popup.bind Popup.chosen? with
  | none => { editor, answer := .ok false }
  | some offer =>
    let run := editor.insertOffer offer
    match run.answer with
    | .error e => { run with answer := .error e }
    | .ok label =>
      { editor := run.editor.hidePopup, answer := .ok true
        notices := run.notices ++ (if label.isEmpty then [] else [.completed label]) }

/-- Choose a row by a click, and insert it. -/
def click (editor : Editor) (row : Int) : EditorRun Bool :=
  let popup := editor.popup.map fun (popup : Popup) => { popup with row }
  { editor with popup }.acceptCompletion

end SchemaDesk.Editor
