import SchemaDesk.Text.Word

/-!
# What stands before the cursor

Shallow signs, read from the text of the line before the cursor alone, of what
is being typed there: an attribute, a value, an argument of `@default`, the
first word of a line or the type of a field. A final line end does not count
for the signs that look at the end of the text.
-/

namespace SchemaDesk

/-- The signs found before a cursor. -/
structure Cues where
  /-- An at sign was typed last. -/
  afterAtSign : Bool
  /-- Two at signs were typed last. -/
  afterDoubleAtSign : Bool
  /-- An equals sign was typed last, spaces aside. -/
  afterEquals : Bool
  /-- The parenthesis of the last `@default` is open. -/
  insideDefault : Bool
  /-- There is at most one unfinished word on the line. -/
  atLineStart : Bool
  /-- There is one word on the line, and space and at most one unfinished word after it. -/
  inTypePosition : Bool
  /-- The name before the equals sign. -/
  property : Text
  deriving DecidableEq, Repr

namespace Cues

/-- The opening of a default value. -/
def defaultOpening : Text :=
  "@default(".toList

/-- Opening parentheses less closing ones. -/
def parenthesisDepth (t : Text) : Int :=
  (t.count '(' : Int) - (t.count ')' : Int)

/-- From the last default value on, are there more opening parentheses than
closing ones? -/
def insideDefaultParens (t : Text) : Bool :=
  match Text.lastIndexOf? defaultOpening t with
  | none => false
  | some start => 0 < parenthesisDepth (t.drop (start + defaultOpening.length - 1))

/-- Nothing, or a single line end. -/
def endsThere (rest : Text) : Bool :=
  rest.isEmpty || rest == ['\n']

/-- White space and at most one word make up the text. -/
def isLineStart (t : Text) : Bool :=
  endsThere ((Text.stripLeft t).dropWhile Text.isWordChar)

/-- White space, an identifier, white space and at most one word make up the text. -/
def isTypePosition (t : Text) : Bool :=
  match Text.stripLeft t with
  | [] => false
  | c :: rest =>
    Text.startsIdentifier c &&
      match rest.dropWhile Text.isWordChar with
      | [] => false
      | gap :: rest' =>
        Text.isBlank gap && endsThere ((Text.stripLeft rest').dropWhile Text.isWordChar)

/-- What stands before the equals sign that ends the text, if one does, spaces aside. -/
def beforeEquals? (t : Text) : Option Text :=
  match (Text.dropFinalFeed t).reverse.dropWhile (· == ' ') with
  | '=' :: rest => some rest.reverse
  | _ => none

/-- The identifier that ends a text, white space aside: from the first character
of its last word that can start one. -/
def trailingIdentifier (t : Text) : Text :=
  (Text.trailingWord (Text.stripRight t)).dropWhile fun c => !Text.startsIdentifier c

/-- The text in which an equals sign is looked for: a quote that has just been
typed is left out. -/
def valueText (t : Text) (trigger : Option Text) : Text :=
  if trigger = some ['"'] ∧ t.getLast? = some '"' then t.dropLast else t

/-- The signs in the text before a cursor. `trigger` is what was typed last, if
that is why the signs are wanted. -/
def read (before : Text) (trigger : Option Text) : Cues :=
  let head := beforeEquals? (valueText before trigger)
  let stripped := Text.strip before
  { afterAtSign := ['@'].isSuffixOf stripped
    afterDoubleAtSign := ['@', '@'].isSuffixOf stripped
    afterEquals := head.isSome
    insideDefault := insideDefaultParens before
    atLineStart := isLineStart before
    inTypePosition := isTypePosition before
    property := (head.map trailingIdentifier).getD [] }

end Cues

end SchemaDesk
