import SchemaDesk.Json.Conversion
import SchemaDesk.Suggestion.Basic
import SchemaDesk.Text.Lowercase

/-!
# Offers

What a completion list shows: suggestions, or entries of the same shape that a
host puts in, whose fields may hold anything.
-/

namespace SchemaDesk

/-- An entry of a completion list. -/
structure Offer where
  /-- The label as it is shown; a missing one is shown too. -/
  shownLabel : Text
  label : Text
  template : Text
  kind : Text
  documentation : Text
  isSnippet : Bool
  /-- The part of the document that is replaced; what counts as no names none. -/
  range : Json

namespace Offer

/-- The offer that an entry amounts to. -/
def ofFields (fields : Fields) : Offer where
  shownLabel := (fields.get "label").display
  label := (fields.get "label").lenientText
  template := ((fields.get "insert_text").orElse (fields.get "label")).lenientText
  kind := (fields.get "kind").lenientText
  documentation := (fields.get "doc").lenientText
  isSnippet := (fields.get "snippet").truthy
  range := fields.get "range"

/-- The badge of a kind. -/
def badge (kind : Text) : String :=
  match String.ofList kind with
  | "class" | "module" => "blk"
  | "enum" => "enm"
  | "snippet" => "fld"
  | "type" => "typ"
  | "property" => "prp"
  | "function" => "fn"
  | "value" => "val"
  | _ => ""

/-- The row of an offer in the list. -/
def row (offer : Offer) : Text :=
  Text.stripRight (offer.shownLabel ++ "    ".toList ++ (badge offer.kind).toList)

/-- Does the label start with what has been typed, whatever the case? -/
def startsWith (offer : Offer) (typed : Text) : Bool :=
  (Text.lowercase typed).isPrefixOf (Text.lowercase offer.label)

end Offer

end SchemaDesk
