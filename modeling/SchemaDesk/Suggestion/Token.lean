import SchemaDesk.Text.Word

/-!
# Unfinished tokens

What a suggestion replaces is the token that is being typed: the longest piece
of text directly before the cursor that has the shape of the suggestions. A
final line end does not belong to a token.
-/

namespace SchemaDesk

/-- Shapes of tokens that suggestions replace. -/
inductive TokenShape where
  /-- Word characters. -/
  | word
  /-- One or two at signs and word characters. -/
  | attribute
  /-- At most one double quote, and word characters, points and hyphens. -/
  | value
  deriving DecidableEq, Repr

namespace TokenShape

/-- A character that values are made of. -/
def isValueChar (c : Char) : Bool :=
  Text.isWordChar c || c == '.' || c == '-'

/-- The number of at signs that end a text, two at most. -/
def atSigns (t : Text) : Nat :=
  ((Text.takeWhileRight (· == '@') t).take 2).length

/-- The length of the token of the shape that ends a text; zero where there is none. -/
def lengthAtEnd (shape : TokenShape) (before : Text) : Nat :=
  let t := Text.dropFinalFeed before
  match shape with
  | .word => (Text.trailingWord t).length
  | .attribute =>
    let word := (Text.trailingWord t).length
    let signs := atSigns (t.take (t.length - word))
    if signs = 0 then 0 else signs + word
  | .value =>
    let body := (Text.takeWhileRight isValueChar t).length
    if (t.take (t.length - body)).getLast? = some '"' then body + 1 else body

end TokenShape

end SchemaDesk
