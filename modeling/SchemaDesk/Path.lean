import SchemaDesk.Text.Basic

/-!
# Paths

A path is a root and a list of names. Repeated slashes and names that stand for
the place itself are dropped when a path is read; steps upwards stay.
-/

namespace SchemaDesk

/-- A path of files and directories. -/
structure Path where
  /-- The slashes at the start: none, one, or exactly two. -/
  root : Text
  names : List Text
  deriving DecidableEq, Repr

namespace Path

/-- The path that a text names. -/
def ofText (t : Text) : Path :=
  let slashes := (t.takeWhile (· == '/')).length
  { root := List.replicate (if slashes = 2 then 2 else min slashes 1) '/'
    names := (Text.splitWhere (· == '/') t).filter fun name => !name.isEmpty && name != ['.'] }

/-- The path as a text. -/
def text (path : Path) : Text :=
  let t := path.root ++ List.intercalate ['/'] path.names
  if t.isEmpty then ['.'] else t

/-- The path one name shorter; a path without names stays. -/
def parent (path : Path) : Path :=
  { path with names := path.names.dropLast }

/-- The path with more names behind it. -/
def join (path : Path) (names : List Text) : Path :=
  { path with names := path.names ++ names }

/-- The path with a name that starts with a tilde, if it starts with one, replaced by
the home directory of the user that the name gives; no name means the user of the
program. There is no such path if the user is unknown, or if the home directory
starts with a tilde itself. -/
def expandHome? (homes : Text → Option Text) (path : Path) : Option Path :=
  match path.root, path.names with
  | [], ('~' :: user) :: rest =>
    ((homes user).filter fun home => home.head? != some '~').map fun home =>
      (ofText (if home.all (· == '/') then ['/'] else home)).join rest
  | _, _ => some path

/-- What stands behind the last slash of a text. -/
def baseName (t : Text) : Text :=
  Text.takeWhileRight (· != '/') t

end Path

end SchemaDesk
