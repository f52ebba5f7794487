import SchemaDesk.Assistant.Session
import SchemaDesk.Editor.Hover
import SchemaDesk.Editor.Keys
import SchemaDesk.Formatting.Session
import SchemaDesk.Settings.Store

/-!
# The window

One editor with one document, a formatting session and a session of the
assistant. The window takes what each of them announces to the others: edits to
the assistant, suggestions and formatted documents to the editor, complaints to
the status line. What comes too late to fit the document is dropped.
-/

namespace SchemaDesk

/-- What a window announces. -/
inductive WindowNotice where
  | editor (notice : EditorNotice)
  /-- A message in the status line, for so many milliseconds; zero means until the
  next one. -/
  | status (message : Text) (milliseconds : Int)
  | warning (title message : Text)
  /-- A file dialog that starts in a directory and shows some kinds of files. -/
  | dialog (title directory kinds : Text)

/-- Why an operation of a window was broken off. -/
inductive WindowError where
  | editor (e : EditorError)
  | number (e : ConversionError)
  | fault (f : Fault)
  deriving DecidableEq, Repr

/-- The wording of what broke an operation off. -/
def WindowError.message : WindowError → Text
  | .editor e => e.message
  | .number e => e.message
  | .fault f => f.message

/-- A window. -/
structure Window where
  settings : SettingsStore
  editor : Editor
  /-- The path of the document; empty if it has none yet. -/
  filePath : Text
  formatter : ChosenFormatter
  formatting : FormatSession := {}
  assistant : AssistSession
  /-- How the document was formatted the last time. -/
  formatLabel : Text := []

/-- What comes of an operation that may be broken off. What was done before that
stays done. -/
structure WindowRun (α : Type) where
  window : Window
  notices : List WindowNotice := []
  answer : Except WindowError α

namespace Window

/-- The name under which the assistant knows the editor. -/
def editorName : Text :=
  "schema".toList

/-- The kinds of files that file dialogs show. -/
def fileKinds : Text :=
  "Prisma schema (*.prisma);;All files (*)".toList

/-- The title of the window. -/
def title (window : Window) : Text :=
  let name :=
    if window.filePath.isEmpty then "schema.prisma".toList else Path.baseName window.filePath
  name ++ " - Schema Studio".toList

/-- The text of the document. -/
def text (window : Window) : Text :=
  window.editor.buffer.text

/-- Open a window on a document. The settings must make sense. -/
def openOn (settings : SettingsStore) (environment : Environment) (document filePath : Text) :
    Except ConversionError Window := do
  let sectionOf (name : String) := settings.sectionAt name.toList
  let editor ← Editor.new (sectionOf "editor") document
  let formatterSettings ← FormatterSettings.ofSection (.obj (sectionOf "formatter"))
  let formatter ← ChosenFormatter.ofSettings formatterSettings.toFields
  let assistantSettings ← AssistantSettings.ofSection environment (.obj (sectionOf "ai"))
  let assistant : AssistSession := { settings := assistantSettings }
  return {
    settings, editor, filePath, formatter
    assistant := assistant.withCache editorName (assistant.cacheOf editorName) }

/-! ## The assistant -/

/-- Show a suggestion, if it is for this editor and its place is where the caret is. -/
def showSuggestion (window : Window) (payload : Fields) : Window × Except ConversionError Unit :=
  if (payload.get "editor_id").lenientText ≠ editorName then (window, .ok ())
  else
    let t := (payload.get "text").lenientText
    if t.isEmpty then ({ window with editor := window.editor.clearSuggestion }, .ok ())
    else
      let number := AssistSession.numberField payload
      match number "line", number "column" with
      | .ok line, .ok column =>
        let (ownLine, ownColumn) := window.editor.buffer.place
        if line = ownLine ∧ column = ownColumn then
          ({ window with editor := window.editor.setSuggestion t }, .ok ())
        else (window, .ok ())
      | .error e, _ | _, .error e => (window, .error e)

/-- Take what the assistant announces. -/
def hear (window : Window) : List AssistNotice → Window × List WindowNotice
  | [] => (window, [])
  | notice :: rest =>
    let (window, notices) : Window × List WindowNotice :=
      match notice with
      | .suggestion payload => ((window.showSuggestion payload).1, [])
      | .configError message => (window, [.status message 5000])
      | .status message => (window, [.status message 2500])
    let (window, more) := window.hear rest
    (window, notices ++ more)

/-- Take a new state of the assistant and what it announces. -/
def withAssistant (window : Window) (change : AssistSession × List AssistNotice) :
    Window × List WindowNotice :=
  { window with assistant := change.1 }.hear change.2

/-- Ask the assistant for what comes next. -/
def askAssistant (window : Window) : Window × List WindowNotice :=
  let (line, column) := window.editor.buffer.place
  match window.assistant.requestManual editorName window.text (.int line) (.int column) with
  | .ok change => window.withAssistant change
  | .error _ => (window, [])

/-- Take one announcement of the editor. -/
def noteEditor (window : Window) : EditorNotice → Window × List WindowNotice
  | .textChanged =>
    ({ window with assistant := window.assistant.noteEdit editorName }, [])
  | .edited line column =>
    match window.assistant.requestPassive editorName window.text (.int line) (.int column) with
    | .ok change => window.withAssistant change
    | .error _ => (window, [])
  | _ => (window, [])

/-- Take what the editor announces. -/
def noteEach (window : Window) : List EditorNotice → Window × List WindowNotice
  | [] => (window, [])
  | notice :: rest =>
    let (window, notices) := window.noteEditor notice
    let (window, more) := window.noteEach rest
    (window, .editor notice :: notices ++ more)

/-- Take a new state of the editor and what it announces. -/
def withEditor (window : Window) (change : Editor × List EditorNotice) :
    Window × List WindowNotice :=
  { window with editor := change.1 }.noteEach change.2

/-- An operation of the editor as one of the window. -/
def run {α : Type} (window : Window) (run : EditorRun α) : WindowRun α :=
  let (window, notices) := window.withEditor (run.editor, run.notices)
  { window, notices, answer := run.answer.mapError .editor }

/-! ## Formatting -/

/-- The directory of a project, if the settings name one. -/
def projectRoot (window : Window) : Text :=
  Text.strip (((window.settings.get? "formatter.project_root".toList).getD .null).lenientText)

/-- The directory that the document stands in. -/
def documentDirectory (window : Window) : Text :=
  (Path.ofText window.filePath).parent.text

/-- Request that the document is formatted. -/
def requestFormat (window : Window) : Window × List WindowNotice :=
  let named := window.projectRoot
  let root :=
    if named.isEmpty && !window.filePath.isEmpty then window.documentDirectory else named
  ({ window with formatting := window.formatting.request window.text window.filePath root },
    [.status "Formatting schema…".toList 0])

/-- Put a formatted text in the place of the document; the caret keeps its offset as
far as the text reaches. -/
def replaceDocument (window : Window) (t : Text) : Window × List WindowNotice :=
  let position := window.editor.buffer.caret.position
  let (editor, notices) := window.editor.replace 0 window.text.length t
  let caret := editor.buffer.caret.moveTo editor.buffer.text.length (min position t.length)
  window.withEditor (editor.withCaret caret, notices)

/-- Take the outcome of formatting a document, unless the document has changed. -/
def showOutcome (window : Window) (source : Text) (outcome : FormatOutcome) :
    Window × List WindowNotice :=
  if source ≠ window.text then
    (window, [.status "Schema changed while formatting; result discarded.".toList 2600])
  else
    let window := { window with formatLabel := "format: ".toList ++ outcome.mode.name }
    if !outcome.changesDocument then (window, [.status outcome.message 4000])
    else
      let milliseconds := if outcome.mode = .fallback then 4000 else 2200
      if outcome.text = window.text then
        (window, [.status "Schema already formatted.".toList milliseconds])
      else
        let (window, notices) := window.replaceDocument outcome.text
        (window, notices ++ [.status outcome.message milliseconds])

/-- Take some outcomes, oldest first. -/
def showEach (window : Window) : List FormatTicket → Window × List WindowNotice
  | [] => (window, [])
  | ticket :: rest =>
    let (window, notices) := window.showOutcome ticket.source ticket.outcome
    let (window, more) := window.showEach rest
    (window, notices ++ more)

/-! ## Work beside the window -/

/-- Finish the oldest formatting job that runs; the answer holds what was sent. -/
def finishFormat? (window : Window) (network : Network) (place : Workplace) :
    Option (Window × List HttpRequest) :=
  let formatter := window.formatter.formatter network place
  let run (job : FormatJob) : Except Fault FormatRun :=
    .ok (formatter.format job.source job.filePath job.projectRoot)
  (window.formatting.finish? run).map fun (formatting, made) =>
    ({ window with formatting }, (made.toOption.map (·.sent)).getD [])

/-- Finish the oldest job of the assistant that runs; the answer holds what was sent. -/
def finishAssistant? (window : Window) (network : Network) : Option (Window × List HttpRequest) :=
  (window.assistant.finish? (Chat.complete network)).map fun (assistant, asked) =>
    ({ window with assistant }, asked.sent)

/-- Look at what formatting has come to. -/
def drainFormat? (window : Window) : Option (Window × List WindowNotice) :=
  window.formatting.drain?.map fun (formatting, tickets) =>
    { window with formatting }.showEach tickets

/-- Look at what the assistant has answered. -/
def drainAssistant? (window : Window) : Option (Window × List WindowNotice) :=
  window.assistant.drain?.map window.withAssistant

/-! ## Files -/

/-- The directory that file dialogs start in. -/
def startDirectory (window : Window) (current : Text) : Text :=
  if !window.filePath.isEmpty then window.documentDirectory
  else if window.projectRoot.isEmpty then current
  else window.projectRoot

/-- A message about the file at a path. -/
def aboutFile (what path : Text) : WindowNotice :=
  .status (what ++ ' ' :: Path.baseName path) 2000

/-- A warning that a file could not be read or written. -/
def fileWarning (title verb : String) (path : Text) (fault : Fault) : WindowNotice :=
  .warning title.toList
    ("Could not ".toList ++ verb.toList ++ " '".toList ++ path ++ "': ".toList ++ fault.message)

/-- What comes of a fault about a file: a warning, if it is one of input or output, and
else the operation is broken off. -/
def afterFault (window : Window) (fault : Fault) (warning : WindowNotice) : WindowRun Bool :=
  if fault.kind.isIo then { window, notices := [warning], answer := .ok false }
  else { window, answer := .error (.fault fault) }

/-- Load a document. What the assistant was asked before is cancelled. A file that is
no text breaks the operation off. -/
def load (window : Window) (files : Files) (path : Text)
    (refusal : Option Files.Refusal := none) : WindowRun Bool :=
  match files.readUnless refusal (Path.ofText path) with
  | .error fault => window.afterFault fault (fileWarning "Open schema" "read" path fault)
  | .ok octets =>
    match Text.Utf8.decode octets with
    | .error e => { window, answer := .error (.fault (FormatCommand.decodeFault e)) }
    | .ok t =>
      let (window, heard) := window.withAssistant (window.assistant.cancelFor editorName true)
      let (window, noted) := window.withEditor (window.editor.setText (Text.unifyLineEnds t))
      { window := { window with filePath := path }
        notices := heard ++ noted ++ [aboutFile "Opened".toList path], answer := .ok true }

/-- Ask for a path and load the document there. -/
def openDocument (window : Window) (files : Files) (chosen current : Text)
    (refusal : Option Files.Refusal := none) : WindowRun Bool :=
  let dialog := .dialog "Open schema".toList (window.startDirectory current) fileKinds
  if chosen.isEmpty then { window, notices := [dialog], answer := .ok false }
  else
    let run := window.load files chosen refusal
    { run with notices := dialog :: run.notices }

/-- What comes of saving a document, with the files as they are then. -/
structure Saving extends WindowRun Bool where
  files : Files

/-- Save the document where its path says. -/
def saveHere (window : Window) (files : Files) (broken : Option Files.BrokenWrite := none) :
    Saving :=
  let path := window.filePath
  match files.writeUnless broken (Path.ofText path) (Text.Utf8.encode window.text) with
  | (.ok (), files) =>
    { window, files, notices := [aboutFile "Saved".toList path], answer := .ok true }
  | (.error fault, files) =>
    { window.afterFault fault (fileWarning "Save schema" "write" path fault) with files }

/-- Ask for a path, which is the path of the document from then on, and save it there. -/
def saveAs (window : Window) (files : Files) (chosen current : Text)
    (broken : Option Files.BrokenWrite := none) : Saving :=
  let dialog := .dialog "Save schema".toList (window.startDirectory current) fileKinds
  if chosen.isEmpty then { window, files, notices := [dialog], answer := .ok false }
  else
    let saving := { window with filePath := chosen }.saveHere files broken
    { saving with notices := dialog :: saving.notices }

/-- Save the document; one without a path is asked for its path. -/
def save (window : Window) (files : Files) (chosen current : Text)
    (broken : Option Files.BrokenWrite := none) : Saving :=
  if window.filePath.isEmpty then window.saveAs files chosen current broken
  else window.saveHere files broken

/-- Close the window. Settings that no file holds yet are saved, if they can be. -/
def close (window : Window) (files : Files) : Window × Files :=
  let window :=
    { window with
      assistant := window.assistant.shutdown, formatting := window.formatting.shutdown }
  if window.settings.dirty then
    match window.settings.save files with
    | (.ok settings, files) => ({ window with settings }, files)
    | (.error _, files) => (window, files)
  else (window, files)

end Window

end SchemaDesk
