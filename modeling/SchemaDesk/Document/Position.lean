import SchemaDesk.Json.Conversion

/-!
# Positions in a document

Lines and columns count from one; column one stands before the first character
and the last column behind the last one. Requests may name any place at all,
and the place that counts is the nearest one that exists.
-/

namespace SchemaDesk

/-- A place between characters of a document. -/
structure Position where
  line : Int
  column : Int
  deriving DecidableEq, Repr

/-- A place as a request names it: not at all, by a line and a column, or by some
other value, which names a place only if it has two parts. -/
inductive RequestedPosition where
  | absent
  | place (line column : Json)
  | other (value : Json)

namespace RequestedPosition

/-- The line and the column that are asked for. -/
def parts : RequestedPosition → Json × Json
  | .absent => (.int 1, .int 1)
  | .place line column => (line, column)
  | .other (.arr [line, column]) => (line, column)
  | .other (.str [line, column]) => (.str [line], .str [column])
  | .other (.obj [(line, _), (column, _)]) => (.str line, .str column)
  | .other _ => (.int 1, .int 1)

end RequestedPosition

namespace Position

/-- The number nearest to `i` that is neither below `low` nor above `high`. -/
def nearest (low high i : Int) : Int :=
  max low (min i high)

/-- A part of a requested place; what is no number counts as the first. -/
def part (value : Json) : Except ConversionError Int :=
  match value.toWhole with
  | .ok i => .ok i
  | .error e => if e.outOfRange then .error e else .ok 1

/-- The line with a number counted from one. -/
def lineText (lines : List Text) (line : Int) : Text :=
  lines.getD (line - 1).toNat []

/-- The nearest place to a line and a column that exists in the document. -/
def clampTo (lines : List Text) (line column : Int) : Position :=
  let line := nearest 1 (max 1 lines.length) line
  { line, column := nearest 1 ((lineText lines line).length + 1) column }

/-- The place that a request stands for. Only numbers beyond all whole numbers
name none. -/
def clamp (lines : List Text) (requested : RequestedPosition) :
    Except ConversionError Position := do
  let (line, column) := requested.parts
  let line ← part line
  let column ← part column
  return clampTo lines line column

/-- The text of the line before the place. -/
def before (lines : List Text) (position : Position) : Text :=
  (lineText lines position.line).take (position.column - 1).toNat

end Position

end SchemaDesk
