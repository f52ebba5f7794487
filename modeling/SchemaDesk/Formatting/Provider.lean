import SchemaDesk.Transport.Exchange

/-!
# Formatters

A formatter is handed a document and answers with the formatted text, or says
why there is none: the document was refused, or the formatter was not available.
-/

namespace SchemaDesk

/-- What a formatter is handed. The source is missing where the caller had no text
to hand over. -/
structure FormatRequest where
  source : Option Text
  filePath : Text := []
  projectRoot : Text := []

/-- The kinds of failed results that the formatters of this program give. -/
inductive FormatErrorKind where
  | invalidInput
  | unavailable
  deriving DecidableEq, Repr

/-- The name of a kind of failed results. -/
def FormatErrorKind.name : FormatErrorKind → Text
  | .invalidInput => "invalid_input".toList
  | .unavailable => "unavailable".toList

/-- What a formatter answers. Formatters from elsewhere may name kinds of their own. -/
structure FormatResult where
  ok : Bool
  text : Text := []
  message : Text := []
  /-- What the formatter wrote besides. -/
  diagnostics : Text := []
  errorKind : Text := []
  debugLines : List Text := []
  deriving DecidableEq, Repr

namespace FormatResult

/-- A formatted text. -/
def formatted (text : Text) (debugLines : List Text) : FormatResult :=
  { ok := true, text, debugLines }

/-- A failed result. -/
def failed (kind : FormatErrorKind) (message : Text) (debugLines : List Text) : FormatResult :=
  { ok := false, message, errorKind := kind.name, debugLines }

end FormatResult

/-- What comes of asking a formatter: its result, or a fault that it let through,
and the requests that it sent. -/
structure FormatVisit where
  result : Except Fault FormatResult
  sent : List HttpRequest := []

/-- A formatter that may be asked first. -/
structure FormatProvider where
  configured : Bool
  format : FormatRequest → FormatVisit

end SchemaDesk
