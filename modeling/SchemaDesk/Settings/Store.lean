import SchemaDesk.Files
import SchemaDesk.Json.Conversion
import SchemaDesk.Json.Parser
import SchemaDesk.Json.Printer
import SchemaDesk.Settings.Layers
import SchemaDesk.Text.Utf8

/-!
# The settings store

A store holds the settings of a session: what a file says, laid over defaults. A
file that is missing, unreadable or no object says nothing; of the last two the
store keeps note. A file that is nested too deeply is not loaded. Only saving
changes the file, and saving that fails changes no file at all.
-/

namespace SchemaDesk

/-- What is wrong with a settings file that is there. -/
inductive SettingsProblem where
  /-- It cannot be read, is no text, or is no document. -/
  | unreadable
  /-- It is a document, but no object. -/
  | notObject
  deriving DecidableEq, Repr

/-- How a problem is called. -/
def SettingsProblem.describe : SettingsProblem → Text
  | .unreadable => "<unreadable>".toList
  | .notObject => "settings root is not a JSON object".toList

/-- Why settings were not saved. -/
inductive SaveError where
  /-- The file could not be written. -/
  | refused (path : Path) (fault : Fault)
  /-- The path is one that no file can have. -/
  | noPath (fault : Fault)
  /-- The settings are such that they have no text. -/
  | noText (e : Json.WritingError)
  deriving DecidableEq, Repr

/-- The wording of a failed saving. -/
def SaveError.message : SaveError → Text
  | .refused path fault =>
    "Could not write settings file '".toList ++ path.text ++ "': ".toList ++ fault.message
  | .noPath fault => fault.message
  | .noText e => e.fault.message

/-- The failed saving that follows from a fault of the files. -/
def SaveError.ofFault (path : Path) (fault : Fault) : SaveError :=
  if fault.kind.isIo then .refused path fault else .noPath fault

/-- A step from a value to one of its parts, loosely given. -/
inductive PathStep where
  | name (name : CodeText)
  | index (index : Int)
  /-- What is neither a name nor a whole number. -/
  | other (value : Json)

namespace PathStep

/-- The step that a value is. -/
def ofValue : Json → PathStep
  | .str s => .name s
  | .int i => .index i
  | value => .other value

/-- How messages call the kind of a step. -/
def kind : PathStep → String
  | .name _ => (Json.str []).kind
  | .index i => (Json.int i).kind
  | .other value => value.kind

/-- The step as a number, if it counts as one. -/
def index? : PathStep → Option Int
  | .index i => some i
  | .other (.bool b) => some (if b then 1 else 0)
  | _ => none

/-- The step as messages show it. -/
def shown : PathStep → Text
  | .name field => field.quoted
  | .index i => Decimal.intText i
  | .other value => value.shown

end PathStep

/-- Why nothing could be put at a path. -/
inductive PutError where
  /-- The path has no steps. -/
  | emptyPath
  /-- An object on the way has no such field, as messages show it. -/
  | missing (shown : Text)
  /-- The path goes on with a step of this kind, which names no field. -/
  | noName (kind : String)
  /-- The path goes on with a step of this kind where an array stands. -/
  | noIndexInArray (kind : String)
  /-- The path goes on with a step of this kind where a text stands. -/
  | noIndexInText (kind : String)
  /-- The path goes on where a value without parts stands. -/
  | noParts (kind : String)
  /-- The path ends in a part of a value that has none. -/
  | noPartToPut (kind : String)
  /-- An array on the way is shorter. -/
  | beyondArray
  /-- A text on the way is shorter. -/
  | beyondText
  /-- The path ends behind an array. -/
  | putBeyondArray
  /-- A number on the way is no index at all. -/
  | size (e : SizeError)
  deriving DecidableEq, Repr

/-- The wording of what kept a value from being put. -/
def PutError.message : PutError → Text
  | .emptyPath | .beyondArray => "list index out of range".toList
  | .missing shown => shown
  | .noName kind => (ConversionError.kindToName kind).message
  | .noIndexInArray kind => ("list indices must be integers or slices, not " ++ kind).toList
  | .noIndexInText kind => ("string indices must be integers, not '" ++ kind ++ "'").toList
  | .noParts kind => ("'" ++ kind ++ "' object is not subscriptable").toList
  | .noPartToPut kind => ("'" ++ kind ++ "' object does not support item assignment").toList
  | .beyondText => "string index out of range".toList
  | .putBeyondArray => "list assignment index out of range".toList
  | .size e => e.message

namespace Json

/-- The place that a step leads to among so many; negative numbers count from the end. -/
def placeAmong (length : Nat) (step : PathStep) (noIndex beyond : PutError) :
    Except PutError Nat :=
  match step.index? with
  | none => .error noIndex
  | some i =>
    let place := if i < 0 then i + length else i
    if !Size.isIndex i then .error (.size .indices)
    else if 0 ≤ place ∧ place < length then .ok place.toNat
    else .error beyond

/-- The name of a field that a step leads to. -/
def nameOf (step : PathStep) : Except PutError CodeText :=
  match step with
  | .name name => .ok name
  | .index i => .ok (toString i)
  | .other value =>
    match value.toName with
    | .ok name => .ok name
    | .error _ => .error (.noName step.kind)

/-- A value with a part of it replaced. -/
def putPart (new : Json) (value : Json) (step : PathStep) : Except PutError Json :=
  match value with
  | .obj fields => (nameOf step).map fun name => .obj (Fields.set fields name new)
  | .arr items =>
    (placeAmong items.length step (.noIndexInArray step.kind) .putBeyondArray).map fun place =>
      .arr (items.set place new)
  | .str s =>
    if step.index?.all Size.isIndex then .error (.noPartToPut (Json.str s).kind)
    else .error (.size .indices)
  | other => .error (.noPartToPut other.kind)

/-- The field of an object at a step. Only texts are names of fields. -/
def fieldAt (fields : Fields) (step : PathStep) : Except PutError Json :=
  match nameOf step, step with
  | .error e, _ => .error e
  | .ok _, .name name => (fields.get? name).elim (.error (.missing step.shown)) .ok
  | .ok _, _ => .error (.missing step.shown)

/-- The part of a value at a step. -/
def part (value : Json) (step : PathStep) : Except PutError Json :=
  match value with
  | .obj fields => fieldAt fields step
  | .arr items =>
    (placeAmong items.length step (.noIndexInArray step.kind) .beyondArray).map fun place =>
      items.getD place .null
  | .str s =>
    (placeAmong s.length step (.noIndexInText step.kind) .beyondText).map fun place =>
      .str ((s.drop place).take 1)
  | other => .error (.noParts other.kind)

/-- A value with another one put at a path. Every step but the last must lead to a
part that is there. -/
def put (new : Json) : Json → List PathStep → Except PutError Json
  | _, [] => .error .emptyPath
  | value, [step] => putPart new value step
  | value, step :: next :: rest => do
    let inner ← put new (← value.part step) (next :: rest)
    putPart inner value step

end Json

/-- The settings of a session. -/
structure SettingsStore where
  path : Path
  defaults : Fields
  data : Fields
  /-- There was no file at the last loading, and nothing has been saved since. -/
  dirty : Bool := false
  /-- What was wrong with the file at the last loading. -/
  problem : Option SettingsProblem := none

namespace SettingsStore

/-- A store that has loaded nothing yet. -/
def new (path : Path) (defaults : Fields) : Except NestingError SettingsStore := do
  let defaults ← defaults.copy
  return { path, defaults, data := defaults }

/-- The object that a file holds, or what is wrong with it. -/
def readObject (files : Files) (path : Path) :
    Except NestingError (Except SettingsProblem Fields) :=
  match files.read path with
  | .error _ => .ok (.error .unreadable)
  | .ok octets =>
    match Text.Utf8.decode octets with
    | .error _ => .ok (.error .unreadable)
    | .ok t =>
      match Json.parse (Text.unifyLineEnds t) with
      | .ok (.obj fields) => .ok (.ok fields)
      | .ok _ => .ok (.error .notObject)
      | .error .malformed => .ok (.error .unreadable)
      | .error (.nesting e) => .error e

/-- The settings and the note that a file leads to, if there is one. -/
def readSettings (store : SettingsStore) (files : Files) :
    Except NestingError (Fields × Option SettingsProblem) := do
  match ← readObject files store.path with
  | .ok fields => return (Settings.overlay store.defaults (← fields.copy), none)
  | .error problem => return (store.defaults, some problem)

/-- Load the file, if there is one. A file that is nested too deeply, and a path that is
too long, leave the settings as they are; only the note of an earlier problem is gone. -/
def load (store : SettingsStore) (files : Files) : Except Fault Unit × SettingsStore :=
  match files.exists? store.path with
  | .error fault => (.error fault, { store with problem := none })
  | .ok false => (.ok (), { store with data := store.defaults, dirty := true, problem := none })
  | .ok true =>
    match store.readSettings files with
    | .ok (data, problem) => (.ok (), { store with data, dirty := false, problem })
    | .error e => (.error e.fault, { store with problem := none })

/-- The text of a saved file. -/
def fileText (data : Fields) : Except Json.WritingError Text :=
  (Json.write (.obj data)).map (· ++ ['\n'])

/-- Save the settings, and make the directories that the file stands in. Directories that
were made stay, whether the settings are saved or not. -/
def save (store : SettingsStore) (files : Files) : Except SaveError SettingsStore × Files :=
  match files.ensureDirectories store.path.parent with
  | (.error fault, files) => (.error (.ofFault store.path fault), files)
  | (.ok (), files) =>
    match fileText store.data with
    | .error e => (.error (.noText e), files)
    | .ok t =>
      match files.write store.path (Text.Utf8.encode t) with
      | .error fault => (.error (.ofFault store.path fault), files)
      | .ok files => (.ok { store with dirty := false }, files)

/-- The value at a path of names with points between them. -/
def get? (store : SettingsStore) (key : CodeText) : Option Json :=
  (Json.obj store.data).atPath? (Text.splitWhere (· == .char '.') key)

/-- The fields of the section at a path; what is no section has none. -/
def sectionAt (store : SettingsStore) (key : CodeText) : Fields :=
  ((store.get? key).bind Json.fields?).getD []

/-- Put a value at a path. -/
def put (store : SettingsStore) (steps : List PathStep) (value : Json) :
    Except PutError SettingsStore :=
  match Json.put value (.obj store.data) steps with
  | .ok value => .ok { store with data := value.fields?.getD store.data }
  | .error e => .error e

end SettingsStore

end SchemaDesk
