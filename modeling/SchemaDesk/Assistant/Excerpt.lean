import SchemaDesk.Document.Position
import SchemaDesk.Json.Conversion

/-!
# Excerpts

What the assistant sees of a document: the lines before the line of the cursor,
and of that line the part before the cursor.
-/

namespace SchemaDesk

/-- The text before a place, and the place. -/
structure Excerpt where
  before : Text
  current : Text
  line : Int
  column : Int
  deriving DecidableEq, Repr

namespace Excerpt

/-- Lines that stand before another one. A single empty line leaves nothing. -/
def leading (lines : List Text) : Text :=
  let t := Text.joinLines lines
  if t.isEmpty then [] else t ++ ['\n']

/-- The excerpt before a place that exists in the lines. -/
def atPlace (lines : List Text) (place : Position) : Excerpt where
  before := leading (lines.take (place.line - 1).toNat)
  current := place.before lines
  line := place.line
  column := place.column

/-- The number that a value names; what counts as no names the first. -/
def number (value : Json) : Except ConversionError Int :=
  (value.orElse (.int 1)).toWhole

/-- The place in the lines that is nearest to a line and a column, if there is a line at all. -/
def placeIn (lines : List Text) (line column : Int) : Position :=
  let line := max 1 (min line lines.length)
  { line, column := max 1 (min column ((Position.lineText lines line).length + 1)) }

/-- The excerpt before the existing place that is nearest to the given one. -/
def ofRequest (source : Text) (line column : Json) : Except ConversionError Excerpt := do
  let lines := (Text.dropReturnBeforeFeed source).splitLines
  let line ← number line
  let column ← number column
  return atPlace lines (placeIn lines line column)

end Excerpt

end SchemaDesk
