import SchemaDesk.Text.Scan

/-!
# Text formats

The formats that a line is coloured with. A line is coloured by a list of spans
in order; where spans overlap, the later one is what is seen.
-/

namespace SchemaDesk.Highlight

/-- What a stretch of text is recognised as. -/
inductive Format where
  | blockKeyword
  | property
  | primitive
  | model
  | attribute
  | string
  | escape
  | number
  | environment
  | comment
  deriving DecidableEq, Repr

/-- How a format looks. -/
structure Appearance where
  color : String
  bold : Bool := false
  italic : Bool := false

namespace Format

/-- All formats. -/
def all : List Format :=
  [.blockKeyword, .property, .primitive, .model, .attribute, .string, .escape, .number,
    .environment, .comment]

/-- The name of a format. -/
def name : Format → String
  | .blockKeyword => "block_kw"
  | .property => "property_kw"
  | .primitive => "primitive"
  | .model => "model"
  | .attribute => "attribute"
  | .string => "string"
  | .escape => "escape"
  | .number => "number"
  | .environment => "env"
  | .comment => "comment"

/-- The look of a format. -/
def appearance : Format → Appearance
  | .blockKeyword => { color := "#7f9cf5", bold := true }
  | .property => { color := "#5a67d8" }
  | .primitive => { color := "#71e8df", bold := true }
  | .model => { color := "#16a394" }
  | .attribute => { color := "#667eea" }
  | .string => { color := "#92efe6" }
  | .escape => { color := "#04c8bb" }
  | .number => { color := "#667eea" }
  | .environment => { color := "#16a394" }
  | .comment => { color := "#a0aec0", italic := true }

end Format

/-- A stretch of a line with its format. -/
structure Span where
  start : Nat
  length : Nat
  format : Format
  deriving DecidableEq, Repr

/-- The format that is seen at an offset: that of the last span over it. -/
def formatAt? (spans : List Span) (offset : Nat) : Option Format :=
  (spans.reverse.find? fun span =>
    span.start ≤ offset && offset < span.start + span.length).map (·.format)

end SchemaDesk.Highlight
