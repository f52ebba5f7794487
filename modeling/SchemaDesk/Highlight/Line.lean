import SchemaDesk.Highlight.Comments
import SchemaDesk.Highlight.Rules

/-!
# Colouring lines

A line is coloured rule by rule, then its line comment, then its block comments.
Lines are coloured in order, each starting where the one before ended.
-/

namespace SchemaDesk.Highlight

/-- A coloured line: its spans in order, and whether a block comment is open at
its end. -/
structure ColouredLine where
  spans : List Span
  insideComment : Bool

/-- A stretch in the format of comments. -/
def commentSpan (stretch : Text.Stretch) : Span :=
  { start := stretch.start, length := stretch.length, format := .comment }

/-- The span of the line comment, if there is one. -/
def lineCommentSpans (line : Text) : List Span :=
  match lineCommentStart? line with
  | some start => [{ start, length := line.length - start, format := .comment }]
  | none => []

/-- Colour a line that starts inside a block comment or outside. -/
def colour (inside : Bool) (line : Text) : ColouredLine :=
  let (comments, insideComment) := blockComments inside line
  { spans :=
      (rules.flatMap fun (rule, format) => ruleSpans rule format line) ++
        lineCommentSpans line ++ comments.map commentSpan
    insideComment }

/-- Colour lines in order. -/
def colourFrom (inside : Bool) : List Text → List ColouredLine
  | [] => []
  | line :: rest =>
    let coloured := colour inside line
    coloured :: colourFrom coloured.insideComment rest

/-- Colour a document from its first line on. -/
def colourAll (lines : List Text) : List ColouredLine :=
  colourFrom false lines

end SchemaDesk.Highlight
