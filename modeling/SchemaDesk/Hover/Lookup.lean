import SchemaDesk.Document.Lines
import SchemaDesk.Document.Position
import SchemaDesk.Hover.Docs
import SchemaDesk.Text.Scan
import SchemaDesk.Text.Word

/-!
# Documentation under the cursor

A line is cut into tokens: identifiers with at most two at signs before them.
The word of a column is the first token that the column touches, at either end
too; what is shown is the documentation of that word.
-/

namespace SchemaDesk.Hover

/-- At most two at signs and an identifier. -/
def tokenRule : Text.TokenRule := fun _ t =>
  let signs := ((t.takeWhile (· == '@')).take 2).length
  match t.drop signs with
  | [] => none
  | c :: rest =>
    if Text.startsIdentifier c then some (signs + 1 + (Text.leadingWord rest).length) else none

/-- The tokens of a line. -/
def tokens (line : Text) : List Text.Stretch :=
  Text.scan tokenRule line

/-- The first token that touches an offset. -/
def tokenAt? (line : Text) (offset : Nat) : Option Text.Stretch :=
  (tokens line).find? fun token => token.start ≤ offset && offset ≤ token.start + token.length

/-- The word that a column touches, or nothing. -/
def wordAt (line : Text) (column : Int) : Text :=
  match tokenAt? line (column - 1).toNat with
  | some token => Text.slice line token
  | none => []

/-- A word with its documentation and the part of the line it stands in. -/
structure Card where
  word : Text
  markdown : String
  line : Int
  startColumn : Int
  endColumn : Int
  deriving DecidableEq, Repr

/-- The card for a place that exists in the lines. The word is looked for from as
far before the place as it is long. -/
def cardAt (lines : List Text) (position : Position) : Option Card :=
  let line := Position.lineText lines position.line
  let word := wordAt line position.column
  (lookup? (String.ofList word)).map fun markdown =>
    let from' := (position.column - 1 - word.length).toNat
    let start := (Text.indexFrom? word line from').getD 0
    { word, markdown, line := position.line
      startColumn := start + 1, endColumn := start + 1 + word.length }

/-- The card for the place that a request stands for. -/
def card (text : Text) (requested : RequestedPosition) : Except ConversionError (Option Card) := do
  let lines := (Document.text text).toLines
  let position ← Position.clamp lines requested
  return cardAt lines position

end SchemaDesk.Hover
