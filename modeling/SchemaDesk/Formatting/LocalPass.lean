import SchemaDesk.Text.Basic

/-!
# The local formatting pass

What is done to a document when no formatter answers: line by line, white space
is taken off the ends of lines and put right at the starts of lines whose kind
can be told from their first word. It is no parser and promises no valid
document; it only ever changes white space at the edges of lines.
-/

namespace SchemaDesk.LocalPass

/-- First words of lines that are indented by two. -/
def fieldWords : List Text :=
  ["id", "email", "name", "title", "content", "published", "author", "authorId", "createdAt",
    "updatedAt", "provider", "url"].map String.toList

/-- First words of lines that are not indented. -/
def blockWords : List Text :=
  ["model", "generator", "datasource", "enum"].map String.toList

/-- Does a text start with one of the words, and white space behind it? -/
def startsWithWord (words : List Text) (t : Text) : Bool :=
  words.any fun word => word.isPrefixOf t && (t.drop word.length).head?.any Text.isBlank

/-- One line, without its line end. -/
def formatLine (line : Text) : Text :=
  let line := Text.stripRight line
  let stripped := Text.strip line
  if startsWithWord fieldWords stripped then ' ' :: ' ' :: stripped
  else if startsWithWord blockWords stripped then stripped
  else if stripped == ['}'] then ['}']
  else line

/-- One line up to its line feed: a carriage return at its end stays there. -/
def formatPart (part : Text) : Text :=
  if part.getLast? = some '\r' then formatLine part.dropLast ++ ['\r'] else formatLine part

/-- A document, line by line, each with the line end it had. -/
def format (t : Text) : Text :=
  Text.joinLines (t.splitLines.map formatPart)

end SchemaDesk.LocalPass
