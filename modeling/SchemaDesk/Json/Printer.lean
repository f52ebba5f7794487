import SchemaDesk.Decimal.Reader
import SchemaDesk.Decimal.Style
import SchemaDesk.Json.Nesting
import SchemaDesk.Text.Quoted

/-!
# Writing documents

Documents are written in ASCII: every other character is escaped by number, beyond
the first plane as a pair of surrogates, and a surrogate alone is escaped as it is.
Request bodies stand on one line in field order; settings files are indented by two
and sorted by name. Not every value has a text: there is a greatest depth, and a
greatest number of digits.
-/

namespace SchemaDesk.Json

open Decimal Text

/-- An escape by number. -/
def unitEscape (unit : Nat) : Text :=
  ['\\', 'u'] ++ hexDigits 4 unit

/-- One character of a string. -/
def escapeChar (c : Char) : Text :=
  if c == '"' || c == '\\' then ['\\', c]
  else if c == '\n' then ['\\', 'n']
  else if c == '\r' then ['\\', 'r']
  else if c == '\t' then ['\\', 't']
  else if c == '\x0c' then ['\\', 'f']
  else if c == '\x08' then ['\\', 'b']
  else if 32 ≤ c.toNat && c.toNat < 127 then [c]
  else if c.toNat < 0x10000 then unitEscape c.toNat
  else
    unitEscape (0xD800 + (c.toNat - 0x10000) / 0x400) ++
      unitEscape (0xDC00 + (c.toNat - 0x10000) % 0x400)

/-- One code point of a string. -/
def escape : CodePoint → Text
  | .char c => escapeChar c
  | .surrogate offset => unitEscape (CodePoint.surrogate offset).toNat

/-- A string between its quotes. -/
def stringText (s : CodeText) : Text :=
  '"' :: s.flatMap escape ++ ['"']

/-- A value without parts. -/
def scalarText : Json → Text
  | .null => "null".toList
  | .bool true => "true".toList
  | .bool false => "false".toList
  | .int i => intText i
  | .float x => Style.document.text x
  | .str s => stringText s
  | .arr _ => "[]".toList
  | .obj _ => "\x7b\x7d".toList

mutual

/-- A value on one line, fields in their order. -/
def compact : Json → Text
  | .arr items => '[' :: List.intercalate [',', ' '] (compactItems items) ++ [']']
  | .obj fields => '{' :: List.intercalate [',', ' '] (compactFields fields) ++ ['}']
  | other => scalarText other

/-- The items of an array, each on one line. -/
def compactItems : List Json → List Text
  | [] => []
  | item :: rest => compact item :: compactItems rest

/-- The fields of an object, each with its name. -/
def compactFields : List (CodeText × Json) → List Text
  | [] => []
  | (name, value) :: rest =>
    (stringText name ++ [':', ' '] ++ compact value) :: compactFields rest

end

/-- The start of a line at a depth of nesting. -/
def lineStart (depth : Nat) : Text :=
  '\n' :: List.replicate (2 * depth) ' '

/-- Parts on lines of their own between brackets, one deeper than the brackets. -/
def bracketed (opening closing : Char) (depth : Nat) (parts : List Text) : Text :=
  if parts.isEmpty then [opening, closing]
  else
    opening :: lineStart (depth + 1) ++
      List.intercalate (',' :: lineStart (depth + 1)) parts ++ lineStart depth ++ [closing]

/-- Named parts in the order of their names. -/
def sortByName {α : Type} (parts : List (CodeText × α)) : List (CodeText × α) :=
  parts.mergeSort fun a b => a.1.precedes b.1

mutual

/-- A value on lines indented by its depth, fields sorted by name. -/
def indented (depth : Nat) : Json → Text
  | .arr items => bracketed '[' ']' depth (indentedItems (depth + 1) items)
  | .obj fields =>
    bracketed '{' '}' depth ((sortByName (indentedFields (depth + 1) fields)).map (·.2))
  | other => scalarText other

/-- The items of an array. -/
def indentedItems (depth : Nat) : List Json → List Text
  | [] => []
  | item :: rest => indented depth item :: indentedItems depth rest

/-- The fields of an object, each text with the name it is sorted by. -/
def indentedFields (depth : Nat) : List (CodeText × Json) → List (CodeText × Text)
  | [] => []
  | (name, value) :: rest =>
    (name, stringText name ++ [':', ' '] ++ indented depth value) ::
      indentedFields depth rest

end

/-- Why a value is not written. -/
inductive WritingError where
  /-- It is nested too deeply. -/
  | nesting
  /-- A whole number in it has too many digits. -/
  | tooManyDigits
  deriving DecidableEq, Repr

/-- A writing error as a fault. -/
def WritingError.fault : WritingError → Fault
  | .nesting => NestingError.writing.fault
  | .tooManyDigits =>
    { kind := .badValue
      text := ("Exceeds the limit (4300 digits) for integer string conversion; " ++
        "use sys.set_int_max_str_digits() to increase the limit").toList }

mutual

/-- What keeps a value from being written in at most so many levels. Of several such
things the one counts that stands first in the text. -/
def obstacle? (levels : Nat) : Json → Option WritingError
  | .int i => if digitLimit < (natText i.natAbs).length then some .tooManyDigits else none
  | .arr items =>
    match levels with
    | 0 => some .nesting
    | levels + 1 => obstacleInItems? levels items
  | .obj fields =>
    match levels with
    | 0 => some .nesting
    | levels + 1 => (sortByName (obstaclesInFields levels fields)).findSome? (·.2)
  | _ => none

/-- The first obstacle in the items of an array. -/
def obstacleInItems? (levels : Nat) : List Json → Option WritingError
  | [] => none
  | item :: rest => (obstacle? levels item).or (obstacleInItems? levels rest)

/-- The obstacles in the fields of an object, each with the name it is sorted by. -/
def obstaclesInFields (levels : Nat) :
    List (CodeText × Json) → List (CodeText × Option WritingError)
  | [] => []
  | (name, value) :: rest => (name, obstacle? levels value) :: obstaclesInFields levels rest

end

/-- A value as an indented text. -/
def write (value : Json) : Except WritingError Text :=
  match obstacle? writingLevels value with
  | some e => .error e
  | none => .ok (indented 0 value)

end SchemaDesk.Json
