import SchemaDesk.Files
import SchemaDesk.Formatting.Provider
import SchemaDesk.Json.Conversion
import SchemaDesk.Text.Utf8

/-!
# The formatting tool

A formatter that is run as a command. A temporary file is made, the document is
written to it, the tool rewrites the file in place, and the file is read back.
However the visit ends, removing the temporary file is tried at the end, and a
fault of the files on that way changes nothing about what came of the visit.
-/

namespace SchemaDesk

open Decimal

/-- One run of a command. -/
structure Invocation where
  words : List Text
  /-- The directory the command is run in, if not that of the program. -/
  directory : Option Text
  timeout : Binary64
  /-- Variables that are set for the command. -/
  environment : List (String × String)

/-- How a run of a command ends. -/
inductive RunEnd where
  /-- By a fault, which here may also be an interrupt. -/
  | failed (fault : Fault)
  | timedOut
  | exited (code : Int) (diagnostics : Text)

/-- What a command does: how it ends, and what it makes of the temporary file,
which it may delete. -/
structure ToolRun where
  ending : RunEnd
  leaves : List UInt8 → Option (List UInt8)

/-- What a visit to the tool depends on besides the document. -/
structure Workplace where
  /-- What a command does when it is run. -/
  run : Invocation → ToolRun
  /-- The tool as it is found among the installed programs. -/
  installed : Option Text
  /-- The path under which the temporary file is made. -/
  temporary : Path
  /-- The files of the machine, among which the temporary file is written. -/
  files : Files := .empty

/-- A formatting tool: its command, if one is set, and the seconds it is given. -/
structure FormatCommand where
  command : Text
  timeout : Binary64

/-- A visit to the tool: what came of it, the temporary file if one was made, what was
run on which octets, and the files as they are left behind. -/
structure ToolVisit where
  result : Except Fault FormatResult
  made : Option Path := none
  runs : List (Invocation × List UInt8) := []
  files : Files

/-- The end of a visit: the temporary file is removed. What is wrong with the files then
counts for nothing. -/
def ToolVisit.tidied (visit : ToolVisit) (temporary : Path) : ToolVisit :=
  match visit.files.unlink temporary with
  | .ok files => { visit with files }
  | .error fault => if fault.kind.isIo then visit else { visit with result := .error fault }

namespace FormatCommand

/-- One second: no tool is given less. -/
def shortestTimeout : Binary64 :=
  .ofRatio false 1 1

/-- The seconds a tool is given if nothing else is said. -/
def defaultTimeout : Json :=
  .float (.ofRatio false 15 1)

/-- A tool as settings describe it. -/
def ofSettings (command timeout : Json) : Except ConversionError FormatCommand := do
  let seconds ← (timeout.orElse defaultTimeout).toFloat
  return { command := Text.strip command.lenientText
           timeout := Binary64.max shortestTimeout seconds }

/-- The words of the command: as set, else from the project, else as installed,
else through the package runner. A project with a path that is too long is a fault. -/
def resolve (tool : FormatCommand) (place : Workplace) (projectRoot : Text) :
    Except Fault (List Text) := do
  if !tool.command.isEmpty then return Text.words tool.command
  let localTool :=
    (Path.ofText projectRoot).join ["node_modules".toList, ".bin".toList, "prisma".toList]
  if !projectRoot.isEmpty && (← place.files.isFile localTool) then return [localTool.text]
  match place.installed with
  | some (c :: rest) => return [c :: rest]
  | _ => return ["npx".toList, "prisma".toList]

/-- Words with a space between neighbours. -/
def spaced (words : List Text) : Text :=
  List.intercalate [' '] words

/-- The run of the tool on the temporary file, with the words of its command. -/
def invocation (tool : FormatCommand) (place : Workplace) (command : List Text)
    (projectRoot : Text) : Invocation where
  words := command ++ ["format".toList, "--schema=".toList ++ place.temporary.text]
  directory :=
    if !projectRoot.isEmpty && place.files.isDirectory (.ofText projectRoot) then some projectRoot
    else none
  timeout := tool.timeout
  environment := [("FORCE_COLOR", "0"), ("NODE_ENV", "production")]

/-- A decoding error as a fault that is let through. -/
def decodeFault (e : Text.Utf8.DecodeError) : Fault where
  kind := .undecodable
  text := e.message.toList

/-- Read the temporary file back. -/
def readBack (place : Workplace) (files : Files) (diagnostics : Text) (debug : List Text) :
    Except Fault FormatResult :=
  match files.read place.temporary with
  | .error fault =>
    .ok { FormatResult.failed .unavailable
            ("prisma format completed, but the schema could not be reloaded: ".toList ++
              fault.message) debug with
          diagnostics }
  | .ok octets =>
    match Text.Utf8.decode octets with
    | .ok t => .ok { FormatResult.formatted (Text.unifyLineEnds t) debug with diagnostics }
    | .error e => .error (decodeFault e)

/-- The result of a run that left behind `files`. -/
def readRun (tool : FormatCommand) (place : Workplace) (ending : RunEnd) (files : Files)
    (debug : List Text) : Except Fault FormatResult :=
  match ending with
  | .failed fault =>
    if fault.kind == .missingFile then
      .ok (.failed .unavailable "Prisma formatter not found. Install the prisma CLI.".toList debug)
    else if fault.kind.isIo then .ok (.failed .unavailable fault.message debug)
    else .error fault
  | .timedOut =>
    .ok (.failed .unavailable
      ("Prisma formatter timed out after ".toList ++ Style.standard.rounded tool.timeout ++
        "s.".toList) debug)
  | .exited code written =>
    let diagnostics := Text.strip written
    if code = 0 then readBack place files diagnostics debug
    else
      let exit := "exit ".toList ++ intText code
      let shown := if diagnostics.isEmpty then exit else diagnostics
      let message :=
        if diagnostics.isEmpty then "prisma format failed (".toList ++ exit ++ ").".toList
        else diagnostics
      .ok { FormatResult.failed .invalidInput message
              (debug ++ ["[Format][stderr] ".toList ++ shown]) with
            diagnostics }

/-- The files after a run that made something else of the temporary file, or deleted it. -/
def afterRun (place : Workplace) (files : Files) (left : Option (List UInt8)) : Files :=
  let changed :=
    match left with
    | some octets => files.write place.temporary octets
    | none => files.unlink place.temporary
  changed.toOption.getD files

/-- Run the tool on what it finds in the temporary file, and look at what came of it. -/
def runHere (tool : FormatCommand) (place : Workplace) (command : List Text)
    (projectRoot : Text) (files : Files) : ToolVisit :=
  let invocation := tool.invocation place command projectRoot
  let debug :=
    ["[Format] prisma: ".toList ++ spaced command,
      "[Format] cmd: ".toList ++ spaced invocation.words]
  let found := (files.read place.temporary).toOption.getD []
  let run := place.run invocation
  let left := afterRun place files (run.leaves found)
  { result := tool.readRun place run.ending left debug
    runs := [(invocation, found)]
    files := left }

/-- Put a document into the temporary file, which has been made, and run the tool on it. -/
def runWith (tool : FormatCommand) (place : Workplace) (command : List Text)
    (source projectRoot : Text) (files : Files) : ToolVisit :=
  match files.write place.temporary (Text.Utf8.encode source) with
  | .ok written => tool.runHere place command projectRoot written
  | .error fault => { result := .error fault, files }

/-- Run the tool on a document in a temporary file that is made for it. Once it is made it
is removed at the end, whatever comes between. -/
def runOn (tool : FormatCommand) (place : Workplace) (command : List Text)
    (source projectRoot : Text) : ToolVisit :=
  match place.files.create place.temporary with
  | .ok files =>
    { (tool.runWith place command source projectRoot files).tidied place.temporary with
      made := some place.temporary }
  | .error fault => { result := .error fault, files := place.files }

/-- Ask the tool to format a document. A blank document is its own formatted text. -/
def visit (tool : FormatCommand) (place : Workplace) (asked : FormatRequest) : ToolVisit :=
  let unrun (result : FormatResult) : ToolVisit := { result := .ok result, files := place.files }
  match asked.source with
  | none => unrun (.failed .invalidInput "Invalid schema provided.".toList [])
  | some source =>
    if Text.allBlank source then
      unrun { FormatResult.formatted source [] with message := "Nothing to format.".toList }
    else
      match tool.resolve place asked.projectRoot with
      | .ok command => tool.runOn place command source asked.projectRoot
      | .error fault => { result := .error fault, files := place.files }

/-- The tool as a formatter that may be asked first. -/
def provider (tool : FormatCommand) (place : Workplace) : FormatProvider where
  configured := true
  format asked := { result := (tool.visit place asked).result }

end FormatCommand

end SchemaDesk
