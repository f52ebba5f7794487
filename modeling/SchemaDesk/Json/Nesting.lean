import SchemaDesk.Fault
import SchemaDesk.Json.Basic

/-!
# Nesting

Arrays and objects stand inside each other, but not without end: only so many
levels are read and written, and of values that are laid into settings only so many
are copied. Copying goes less deep than reading and writing, so that a copy can be
written, and what was written can be read.
-/

namespace SchemaDesk

/-- What was being done when values turned out to stand inside each other too deeply. -/
inductive NestingError where
  | readingArray
  | readingObject
  | copying
  | writing
  deriving DecidableEq, Repr

namespace NestingError

/-- The wording of a nesting error. -/
def message : NestingError → Text
  | .readingArray =>
    "maximum recursion depth exceeded while decoding a JSON array from a unicode string".toList
  | .readingObject =>
    "maximum recursion depth exceeded while decoding a JSON object from a unicode string".toList
  | .copying | .writing =>
    "maximum recursion depth exceeded while calling a Python object".toList

/-- A nesting error as a fault. -/
def fault (e : NestingError) : Fault where
  kind := .nesting
  text := e.message

end NestingError

namespace Json

mutual

/-- The number of arrays and objects around the innermost value. -/
def depth : Json → Nat
  | .arr items => depthOfItems items + 1
  | .obj fields => depthOfFields fields + 1
  | _ => 0

/-- The depth of the deepest of some items. -/
def depthOfItems : List Json → Nat
  | [] => 0
  | item :: rest => max (depth item) (depthOfItems rest)

/-- The depth of the deepest of the values of some fields. -/
def depthOfFields : List (CodeText × Json) → Nat
  | [] => 0
  | (_, value) :: rest => max (depth value) (depthOfFields rest)

end

/-- The number of levels that are read. -/
def readingLevels : Nat := 988

/-- The number of levels that are written. -/
def writingLevels : Nat := 988

/-- The number of levels that are copied. -/
def copyingLevels : Nat := 495

end Json

/-- Fields whose values are not nested too deeply to be copied. -/
def Fields.copy (fields : Fields) : Except NestingError Fields :=
  if Json.depthOfFields fields ≤ Json.copyingLevels then .ok fields else .error .copying

end SchemaDesk
