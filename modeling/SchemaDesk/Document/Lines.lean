import SchemaDesk.Text.Basic

/-!
# Lines of a document

A document arrives as nothing, as one text, or as lines cut by someone else.
Whatever its form it has at least one line, and no line of a text keeps any
part of a line end.
-/

namespace SchemaDesk

/-- The forms in which a document arrives. -/
inductive Document where
  | absent
  | text (t : Text)
  | lines (parts : List Text)

namespace Document

/-- A carriage return or a line feed. -/
def isLineEnd (c : Char) : Bool :=
  c == '\r' || c == '\n'

/-- A line without the line ends behind it. Line ends inside it stay. -/
def trimLineEnd (line : Text) : Text :=
  (line.reverse.dropWhile isLineEnd).reverse

/-- The lines of a document; there is always one. -/
def toLines : Document → List Text
  | .absent => [[]]
  | .text t => (Text.unifyLineEnds t).splitLines
  | .lines [] => [[]]
  | .lines parts => parts.map trimLineEnd

end Document

end SchemaDesk
