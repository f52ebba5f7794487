import SchemaDesk.Decimal.Style
import SchemaDesk.Document.Position

/-!
# Suggestions

A suggestion is one entry of a completion list: what is shown, the template that
is inserted, and the key by which the list is ordered. Keys start with the
digit of a tier and the index inside it, and compare as texts.
-/

namespace SchemaDesk

/-- What a suggestion stands for; hosts show it as a badge. -/
inductive SuggestionKind where
  | block
  | module
  | enum
  | snippet
  | type
  | property
  | function
  | value
  deriving DecidableEq, Repr

/-- The name of a kind in the lists given to hosts. -/
def SuggestionKind.name : SuggestionKind → String
  | .block => "class"
  | .module => "module"
  | .enum => "enum"
  | .snippet => "snippet"
  | .type => "type"
  | .property => "property"
  | .function => "function"
  | .value => "value"

/-- Parts of completion lists, in the order in which they are ranked. -/
inductive Tier where
  | block
  | field
  | type
  | attribute
  | property
  | value
  | function
  deriving DecidableEq, Repr

/-- The digit that the keys of a tier start with. -/
def Tier.digit : Tier → Nat
  | .block => 1
  | .field => 2
  | .type => 3
  | .attribute => 4
  | .property => 5
  | .value => 6
  | .function => 7

/-- A part of one line, from a column up to but not including another. -/
structure TextRange where
  line : Int
  startColumn : Int
  endColumn : Int
  deriving DecidableEq, Repr

/-- One entry of a completion list. -/
structure Suggestion where
  label : String
  template : String
  documentation : String
  sortKey : String
  kind : SuggestionKind
  /-- The text that the suggestion replaces; entries of the catalog have none yet. -/
  range : Option TextRange := none
  deriving DecidableEq, Repr

namespace Suggestion

/-- The key of the entry at an index of a tier. -/
def key (tier : Tier) (index : Nat) (label : String) : String :=
  String.ofList (Decimal.natText tier.digit ++ Decimal.padded 3 (Decimal.natText index) ++ ['-']) ++
    label

/-- Does the template hold placeholders? -/
def isSnippet (s : Suggestion) : Bool :=
  s.template.toList.contains '$'

/-- A suggestion as it is handed to hosts. -/
def toFields (s : Suggestion) : Fields :=
  [("label", .ofString s.label), ("insert_text", .ofString s.template),
    ("kind", .ofString s.kind.name), ("doc", .ofString s.documentation),
    ("sort_text", .ofString s.sortKey), ("snippet", .bool s.isSnippet),
    ("range", match s.range with
      | some r => .arr [.int r.line, .int r.startColumn, .int r.endColumn]
      | none => .null)]

/-- The suggestion for a certain part of a document. -/
def placedAt (s : Suggestion) (range : TextRange) : Suggestion :=
  { s with range := some range }

/-- A table of label, template and documentation as entries of a tier. -/
def table (tier : Tier) (kind : SuggestionKind) (rows : List (String × String × String)) :
    List Suggestion :=
  rows.mapIdx fun index (label, template, documentation) =>
    { label, template, documentation, sortKey := key tier index label, kind }

/-- Values that are inserted as they are shown. -/
def valueTable (values : List String) : List Suggestion :=
  table .value .value (values.map fun value => (value, value, ""))

end Suggestion

end SchemaDesk
