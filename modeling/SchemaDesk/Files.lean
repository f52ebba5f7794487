import SchemaDesk.Fault
import SchemaDesk.Keyed
import SchemaDesk.Path
import SchemaDesk.Text.Utf8

/-!
# Files

A tree of directories and files, as a value: what stands at which path. Reading
and writing find the place that a path leads to, name by name, and say what is
wrong as the operating system does. Names and paths have a greatest length, and
hold no character with the number zero.
-/

namespace SchemaDesk

/-- What stands at a place. -/
inductive FileEntry where
  | directory
  | file (octets : List UInt8)
  deriving DecidableEq, Repr

/-- A tree of files: the entries by their paths, which have no steps upwards. -/
structure Files where
  entries : Keyed Path FileEntry

namespace Files

/-- Nothing but the directories that paths start from. -/
def empty : Files where
  entries := []

/-- What stands at a place; a path without names is a directory. -/
def entryAt? (files : Files) (place : Path) : Option FileEntry :=
  if place.names.isEmpty then some .directory else files.entries.get? place

/-- Put an entry at a place. -/
def put (files : Files) (place : Path) (entry : FileEntry) : Files where
  entries := files.entries.set place entry

/-- The files with nothing at a place. -/
def remove (files : Files) (place : Path) : Files where
  entries := files.entries.erase place

theorem entryAt?_put_self (files : Files) {place : Path} (entry : FileEntry)
    (h : place.names ≠ []) : (files.put place entry).entryAt? place = some entry := by
  simp [put, entryAt?, h]

theorem entryAt?_put_of_ne (files : Files) {place other : Path} (entry : FileEntry)
    (h : other ≠ place) : (files.put place entry).entryAt? other = files.entryAt? other := by
  simp [put, entryAt?, Keyed.get?_set_of_ne _ _ h]

theorem entryAt?_remove_self (files : Files) {place : Path} (h : place.names ≠ []) :
    (files.remove place).entryAt? place = none := by
  simp [remove, entryAt?, h]

theorem entryAt?_remove_of_ne (files : Files) {place other : Path} (h : other ≠ place) :
    (files.remove place).entryAt? other = files.entryAt? other := by
  simp [remove, entryAt?, Keyed.get?_erase_of_ne _ h]

/-- The number of octets in the longest name. -/
def longestName : Nat := 255

/-- The number of octets in the longest path. -/
def longestPath : Nat := 4095

/-- The place that names lead to from a place; only directories can be passed. -/
def walk (files : Files) (here : Path) : List Text → Except FaultKind Path
  | [] => .ok here
  | name :: rest =>
    match files.entryAt? here with
    | none => .error .missingFile
    | some (.file _) => .error .notDirectory
    | some .directory =>
      if longestName < (Text.Utf8.encode name).length then .error .nameTooLong
      else files.walk (if name == ['.', '.'] then here.parent else here.join [name]) rest

/-- The place that a path leads to; its last name need not exist. -/
def place (files : Files) (path : Path) : Except FaultKind Path :=
  if path.text.contains '\x00' then .error .badValue
  else if longestPath < (Text.Utf8.encode path.text).length then .error .nameTooLong
  else files.walk { path with names := [] } path.names

/-- What stands at the place that a path leads to. -/
def find? (files : Files) (path : Path) : Option FileEntry :=
  match files.place path with
  | .ok place => files.entryAt? place
  | .error _ => none

/-- Does the path lead to anything? Of a path that is too long nobody can say. -/
def exists? (files : Files) (path : Path) : Except Fault Bool :=
  match files.place path with
  | .error .nameTooLong => .error (.ofFile .nameTooLong path.text)
  | _ => .ok (files.find? path).isSome

/-- Does the path lead to a directory? -/
def isDirectory (files : Files) (path : Path) : Bool :=
  files.find? path == some .directory

/-- Does the path lead to a file? Of a path that is too long nobody can say. -/
def isFile (files : Files) (path : Path) : Except Fault Bool := do
  return (← files.exists? path) && !files.isDirectory path

/-- The octets of the file that a path leads to. -/
def read (files : Files) (path : Path) : Except Fault (List UInt8) :=
  match files.place path with
  | .error kind => .error (.ofFile kind path.text)
  | .ok place =>
    match files.entryAt? place with
    | some (.file octets) => .ok octets
    | some .directory => .error (.ofFile .isDirectory path.text)
    | none => .error (.ofFile .missingFile path.text)

/-- The files with new octets in the file that a path leads to. -/
def write (files : Files) (path : Path) (octets : List UInt8) : Except Fault Files :=
  match files.place path with
  | .error kind => .error (.ofFile kind path.text)
  | .ok place =>
    match files.entryAt? place with
    | some .directory => .error (.ofFile .isDirectory path.text)
    | _ => .ok (files.put place (.file octets))

/-- A fault of input or output with which the system refuses a file although nothing in
the tree of files stands against it: a missing permission, a broken disk. -/
structure Refusal where
  fault : Fault
  isIo : fault.kind.isIo = true

/-- A refusal to write any further, with the files as they are then: some of the octets may
have been written. -/
structure BrokenWrite extends Refusal where
  left : Files

/-- Is a path shown to the system at all? One that no file can have is not. -/
def isShown (path : Path) : Bool :=
  !path.text.contains '\x00'

/-- The octets of the file that a path leads to, unless the system refuses it. -/
def readUnless (files : Files) (refusal : Option Refusal) (path : Path) :
    Except Fault (List UInt8) :=
  match refusal.filter fun _ => isShown path with
  | some refusal => .error refusal.fault
  | none => files.read path

/-- Write octets to the file that a path leads to, unless the system refuses it. The answer
holds the files as they are then. -/
def writeUnless (files : Files) (broken : Option BrokenWrite) (path : Path)
    (octets : List UInt8) : Except Fault Unit × Files :=
  match broken.filter fun _ => isShown path with
  | some broken => (.error broken.fault, broken.left)
  | none =>
    match files.write path octets with
    | .ok files => (.ok (), files)
    | .error fault => (.error fault, files)

/-- The files with a new file, which holds nothing yet. -/
def create (files : Files) (path : Path) : Except Fault Files :=
  match files.place path with
  | .error kind => .error (.ofFile kind path.text)
  | .ok place =>
    if (files.entryAt? place).isSome then .error (.ofFile .fileExists path.text)
    else .ok (files.put place (.file []))

/-- The files without the file that a path leads to. -/
def unlink (files : Files) (path : Path) : Except Fault Files :=
  match files.place path with
  | .error kind => .error (.ofFile kind path.text)
  | .ok place =>
    match files.entryAt? place with
    | some (.file _) => .ok (files.remove place)
    | some .directory => .error (.ofFile .isDirectory path.text)
    | none => .error (.ofFile .missingFile path.text)

/-- The files with a new directory. -/
def makeDirectory (files : Files) (path : Path) : Except FaultKind Files :=
  match files.place path with
  | .error kind => .error kind
  | .ok place =>
    if (files.entryAt? place).isSome then .error .fileExists else .ok (files.put place .directory)

/-- Make a directory at a path, which may have been there before. -/
def ensureDirectory (files : Files) (path : Path) : Except Fault Unit × Files :=
  match files.makeDirectory path with
  | .ok files => (.ok (), files)
  | .error kind =>
    (if files.isDirectory path then .ok () else .error (.ofFile kind path.text), files)

/-- Make a directory at a path and at every path that leads to it. Those that were made
before one could not be made stay. -/
def ensureDirectories (files : Files) (path : Path) : Except Fault Unit × Files :=
  match files.makeDirectory path with
  | .error .missingFile =>
    if path.names = [] then (.error (.ofFile .missingFile path.text), files)
    else
      match files.ensureDirectories path.parent with
      | (.error fault, files) => (.error fault, files)
      | (.ok (), files) => files.ensureDirectory path
  | _ => files.ensureDirectory path
  termination_by path.names.length
  decreasing_by
    rename_i named
    have : 0 < path.names.length := List.length_pos_iff.mpr named
    simp only [Path.parent, List.length_dropLast]
    omega

end Files

end SchemaDesk
