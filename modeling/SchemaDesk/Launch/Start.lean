import SchemaDesk.Launch.Arguments
import SchemaDesk.Settings.Defaults
import SchemaDesk.Window

/-!
# Starting the program

The settings are loaded, the schema is read, and a window opens on it. A schema
that cannot be read is passed over, and the window shows an example instead.
-/

namespace SchemaDesk.Launch

/-- The document of a window that is opened on none. -/
def exampleSchema : Text :=
  (String.intercalate "\n" [
    "// This is your Prisma schema file,",
    "// learn more about it in the docs: https://pris.ly/d/prisma-schema",
    "",
    "generator client \x7b",
    "  provider = \"prisma-client-js\"",
    "\x7d",
    "",
    "datasource db \x7b",
    "  provider = \"postgresql\"",
    "  url      = env(\"DATABASE_URL\")",
    "\x7d",
    "",
    "model User \x7b",
    "  id        Int      @id @default(autoincrement())",
    "  email     String   @unique",
    "  name      String?",
    "  posts     Post[]",
    "  createdAt DateTime @default(now())",
    "  updatedAt DateTime @updatedAt",
    "\x7d",
    "",
    "model Post \x7b",
    "  id        Int      @id @default(autoincrement())",
    "  title     String",
    "  content   String?",
    "  published Boolean  @default(false)",
    "  author    User     @relation(fields: [authorId], references: [id])",
    "  authorId  Int",
    "  createdAt DateTime @default(now())",
    "  updatedAt DateTime @updatedAt",
    "\x7d",
    ""]).toList

/-- Why the program does not start. -/
inductive StartError where
  | arguments (e : ArgumentError)
  /-- A path starts at the home directory of a user who is not known. -/
  | unknownHome
  /-- The settings cannot be loaded at all, or the schema is a file, but no text. -/
  | file (f : Fault)
  /-- A setting is no number. -/
  | settings (e : ConversionError)
  deriving DecidableEq, Repr

/-- The wording of what keeps the program from starting. -/
def StartError.message : StartError → Text
  | .arguments e => (toString e.exitCode).toList
  | .unknownHome => "Could not determine home directory.".toList
  | .file f => f.message
  | .settings e => e.message

/-- The path of the settings file. -/
def settingsPath (arguments : Arguments) (environment : Environment)
    (homes : Text → Option Text) : Except StartError Path :=
  let path :=
    if arguments.settings.isEmpty then Settings.defaultPath? environment homes
    else (Path.ofText arguments.settings).expandHome? homes
  match path with
  | some path => .ok path
  | none => .error .unknownHome

/-- The path of the schema, if the arguments name one. -/
def schemaPath? (arguments : Arguments) (homes : Text → Option Text) :
    Except StartError (Option Path) :=
  if arguments.schema.isEmpty then .ok none
  else
    match (Path.ofText arguments.schema).expandHome? homes with
    | some path => .ok (some path)
    | none => .error .unknownHome

/-- The document to open, and its path. -/
def document (files : Files) : Option Path → Except StartError (Text × Text)
  | none => .ok (exampleSchema, [])
  | some path =>
    match files.read path with
    | .error fault => if fault.kind.isIo then .ok (exampleSchema, []) else .error (.file fault)
    | .ok octets =>
      match Text.Utf8.decode octets with
      | .error e => .error (.file (FormatCommand.decodeFault e))
      | .ok t => .ok (Text.unifyLineEnds t, path.text)

/-- The settings that a file leads to. -/
def loadSettings (path : Path) (files : Files) : Except StartError SettingsStore := do
  let fresh ← (SettingsStore.new path Settings.defaults).mapError (.file ·.fault)
  let (loaded, store) := fresh.load files
  loaded.mapError .file
  return store

/-- Open the window that the arguments ask for. -/
def start (arguments : List Text) (environment : Environment) (homes : Text → Option Text)
    (files : Files) : Except StartError Window := do
  let arguments ← (read arguments).mapError .arguments
  let path ← settingsPath arguments environment homes
  let settings ← loadSettings path files
  let (t, filePath) ← document files (← schemaPath? arguments homes)
  (Window.openOn settings environment t filePath).mapError .settings

end SchemaDesk.Launch
