import SchemaDesk.Launch.Start
import SchemaDesk.Report.Window

/-!
# The program

Opens a window on the schema that the arguments name, tells in one line what the
window shows, and closes it again. Everything that is decided is decided by
`Launch.start` and `Window.close`; here files and variables are fetched for them,
and what they leave is put back.
-/

namespace SchemaDesk.Launch

/-- The files with a directory at every place on the way to a path where nothing is. -/
def withWay (files : Files) (path : Path) : Files :=
  (List.range path.names.length).foldl (fun files count =>
    let place := { path with names := path.names.take count }
    if (files.entryAt? place).isSome then files else files.put place .directory) files

/-- The files with the one that stands at a path on this machine, if there is one.
What is there and cannot be read as a file stands as a directory. -/
def fetch (files : Files) (path : Path) : IO Files := do
  try
    let octets ← IO.FS.readBinFile (String.ofList path.text)
    return (withWay files path).put path (.file octets.toList)
  catch
    | .noFileOrDirectory .. => return withWay files path
    | _ => return (withWay files path).put path .directory

/-- The variables of this machine that the program looks at. -/
def machineEnvironment : IO Environment := do
  let path ← IO.getEnv Settings.pathVariable
  let key ← IO.getEnv AssistantSettings.keyVariable
  return fun name =>
    if name = Settings.pathVariable then path.map String.toList
    else if name = AssistantSettings.keyVariable then key.map String.toList
    else none

/-- Write the file of the settings, and make the directories that it stands in. -/
def keepSettings (files : Files) (path : Path) : IO Unit := do
  match files.read path with
  | .error _ => return
  | .ok octets =>
    IO.FS.createDirAll (String.ofList path.parent.text)
    IO.FS.writeBinFile (String.ofList path.text) ⟨octets.toArray⟩

/-- Open a window, tell what it shows, and close it; the answer is the exit code. -/
def present (arguments : Arguments) (environment : Environment)
    (homes : Text → Option Text) (words : List Text) : IO UInt32 := do
  let mut files := Files.empty
  if let .ok path := settingsPath arguments environment homes then
    files ← fetch files path
  if let .ok (some path) := schemaPath? arguments homes then
    files ← fetch files path
  match start words environment homes files with
  | .error e =>
    (← IO.getStderr).putStrLn (String.ofList e.message)
    return 1
  | .ok window =>
    IO.println (String.ofList (Json.compact (.obj (Report.window window))))
    let (closed, left) := window.close files
    if window.settings.dirty && !closed.settings.dirty then
      keepSettings left closed.settings.path
    return 0

end SchemaDesk.Launch

open SchemaDesk in
/-- Open a window as the arguments ask. -/
def main (arguments : List String) : IO UInt32 := do
  let home ← IO.getEnv "HOME"
  let homes (user : Text) := if user.isEmpty then home.map String.toList else none
  let words := arguments.map String.toList
  match Launch.read words with
  | .error e => return .ofNat e.exitCode
  | .ok found => Launch.present found (← Launch.machineEnvironment) homes words
