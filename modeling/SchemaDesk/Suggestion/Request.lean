import SchemaDesk.Block.Scope
import SchemaDesk.Cursor.Cues
import SchemaDesk.Document.Lines
import SchemaDesk.Suggestion.Catalog
import SchemaDesk.Suggestion.Token

/-!
# Completion requests

A request names a document, a place in it and perhaps the character that was
just typed. From the blocks around the place and the signs before it exactly one
part of the catalog is chosen; all its entries replace the same unfinished
token, and the answer is ordered by their keys.
-/

namespace SchemaDesk

/-- Characters that ask for suggestions as they are typed. -/
def triggerCharacters : List Text :=
  [['@'], ['='], ['"']]

/-- What is known about a place when suggestions are wanted there. -/
structure CompletionContext where
  linesBefore : List Text
  currentLine : Text
  beforeCursor : Text
  position : Position
  scope : BlockScope
  cues : Cues

namespace CompletionContext

/-- The context of a place that exists in the lines. -/
def atPlace (lines : List Text) (position : Position) (trigger : Option Text) : CompletionContext :=
  let currentLine := Position.lineText lines position.line
  let linesBefore := lines.take (position.line - 1).toNat
  let beforeCursor := position.before lines
  { linesBefore, currentLine, beforeCursor, position
    scope := BlockScope.around linesBefore currentLine
    cues := Cues.read beforeCursor trigger }

/-- The context of the place that a request stands for. -/
def ofRequest (lines : List Text) (requested : RequestedPosition) (trigger : Option Text) :
    Except ConversionError CompletionContext := do
  let position ← Position.clamp lines requested
  return .atPlace lines position trigger

end CompletionContext

namespace Completion

/-- Words that declare types. -/
def declarationWords : List Text :=
  ["model", "enum", "type", "view"].map String.toList

/-- Starts of the words that open blocks. -/
def blockStarts : List Text :=
  ["gen", "mod", "dat", "enu"].map String.toList

/-- The identifier at the start of a text. -/
def leadingIdentifier? (t : Text) : Option Text :=
  match t with
  | [] => none
  | c :: rest =>
    if Text.startsIdentifier c then some (c :: Text.leadingWord rest) else none

/-- The name that a line declares a type by. -/
def declaredName? (line : Text) : Option Text :=
  let body := Text.stripLeft line
  declarationWords.findSome? fun word =>
    if word.isPrefixOf body then
      match body.drop word.length with
      | [] => none
      | gap :: rest => if Text.isBlank gap then leadingIdentifier? (Text.stripLeft rest) else none
    else none

/-- The names of the types declared in a document, each at its first place. -/
def declaredNames (lines : List Text) : List Text :=
  (lines.filterMap declaredName?).foldl
    (fun names name => if name ∈ names then names else names ++ [name]) []

/-- Is the line empty, or does it start like a block? -/
def startsLikeBlock (line : Text) : Bool :=
  let body := Text.stripLeft line
  body.isEmpty || blockStarts.any (·.isPrefixOf body)

/-- The kind of block whose properties are typed at a place. -/
def propertyBlock? (scope : BlockScope) : Option BlockKind :=
  if scope.generator then some .generator
  else if scope.datasource then some .datasource
  else none

/-- The part of the catalog that fits a place, and the shape of what it replaces. -/
def choose (context : CompletionContext) (lines : List Text) : List Suggestion × TokenShape :=
  let scope := context.scope
  let cues := context.cues
  if scope.isTopLevel && startsLikeBlock context.currentLine then
    (Catalog.blockTemplates, .word)
  else if scope.model && cues.atLineStart then
    (Catalog.fieldSnippets, .word)
  else if scope.model && !cues.afterAtSign && cues.inTypePosition then
    (Catalog.types ++ Catalog.declaredTypes ((declaredNames lines).map String.ofList), .word)
  else if cues.afterAtSign then
    if cues.afterDoubleAtSign then (Catalog.blockAttributes, .attribute)
    else (Catalog.fieldAttributes, .attribute)
  else if cues.insideDefault then
    (Catalog.defaultFunctions, .word)
  else
    match propertyBlock? scope with
    | some kind =>
      if cues.afterEquals then (Catalog.values kind (String.ofList cues.property), .value)
      else (Catalog.properties kind, .word)
    | none => ([], .word)

/-- The part of the line that a token of the shape takes up before the cursor. -/
def tokenRange (context : CompletionContext) (shape : TokenShape) : TextRange :=
  let column := context.position.column
  { line := context.position.line
    startColumn := column - shape.lengthAtEnd context.beforeCursor
    endColumn := column }

/-- Put a suggestion before the first one whose key is not smaller. -/
def insertRanked (s : Suggestion) : List Suggestion → List Suggestion
  | [] => [s]
  | first :: rest =>
    if s.sortKey ≤ first.sortKey then s :: first :: rest else first :: insertRanked s rest

/-- Suggestions in the order of their keys, equal keys as they come. -/
def ranked (items : List Suggestion) : List Suggestion :=
  items.foldr insertRanked []

/-- The answer to a request whose context is known. -/
def answer (context : CompletionContext) (lines : List Text) : List Suggestion :=
  let (items, shape) := choose context lines
  let range := tokenRange context shape
  ranked (items.map (·.placedAt range))

/-- The suggestions for a place of a document. -/
def suggest (document : Document) (requested : RequestedPosition) (trigger : Option Text) :
    Except ConversionError (List Suggestion) := do
  let lines := document.toLines
  let context ← CompletionContext.ofRequest lines requested trigger
  return answer context lines

end Completion

end SchemaDesk
