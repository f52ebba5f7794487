import SchemaDesk.Highlight.Format
import SchemaDesk.Suggestion.Catalog
import SchemaDesk.Text.Word

/-!
# Tokens that are coloured

One rule for each kind of token. Words are recognised whole: no word character
stands before or behind them. Strings, escapes and environment calls come last
and so cover what was found inside them.
-/

namespace SchemaDesk.Highlight

open Text

/-- Does a word character stand before the place? -/
def wordBefore (before : Option Char) : Bool :=
  before.any isWordChar

/-- Does no word character follow? -/
def wordEnds (rest : Text) : Bool :=
  !rest.head?.any isWordChar

/-- An ASCII letter, an ASCII digit or an underscore. -/
def isPlainWordChar (c : Char) : Bool :=
  isLatin c || ('0' ≤ c && c ≤ '9') || c == '_'

/-- The name of a model or another type: a whole word that starts with a capital. -/
def modelRule : TokenRule := fun before t =>
  match t with
  | [] => none
  | c :: rest =>
    let length := (rest.takeWhile isPlainWordChar).length
    if 'A' ≤ c && c ≤ 'Z' && !wordBefore before && wordEnds (rest.drop length) then
      some (length + 1)
    else none

/-- One of the given words, whole. -/
def wordRule (words : List Text) : TokenRule := fun before t =>
  if wordBefore before then none
  else
    (words.find? fun word => word.isPrefixOf t && wordEnds (t.drop word.length)).map
      List.length

/-- The words for primitive types. -/
def primitiveWords : List Text :=
  (Catalog.primitiveTypes ++ ["Unsupported"]).map String.toList

/-- The words that open blocks. -/
def blockWords : List Text :=
  ["generator", "datasource", "model", "enum", "type", "view"].map String.toList

/-- The words for properties of generators and datasources. -/
def propertyWords : List Text :=
  ["provider", "url", "relationMode", "binaryTargets", "previewFeatures", "output", "directUrl",
    "shadowDatabaseUrl", "engineType", "moduleFormat"].map String.toList

/-- The length of the identifier at the start of a text. -/
def identifierLength? : Text → Option Nat
  | [] => none
  | c :: rest => if startsIdentifier c then some (1 + (leadingWord rest).length) else none

/-- One or two at signs and an identifier, perhaps with a point and another one. -/
def attributeRule : TokenRule := fun _ t =>
  match t with
  | '@' :: rest =>
    let second := if rest.head? = some '@' then 1 else 0
    (identifierLength? (rest.drop second)).map fun length =>
      let taken := 1 + second + length
      match t.drop taken with
      | '.' :: rest' => taken + ((identifierLength? rest').map (· + 1)).getD 0
      | _ => taken
  | _ => none

/-- The number of decimal digits at the start of a text. -/
def digitCount (t : Text) : Nat :=
  (t.takeWhile isDecimalDigit).length

/-- The length of the exponent at the start of a text; zero where there is none. -/
def exponentLength (t : Text) : Nat :=
  match t with
  | [] => 0
  | mark :: rest =>
    if mark == 'e' || mark == 'E' then
      let sign := if rest.head? = some '-' || rest.head? = some '+' then 1 else 0
      let digits := digitCount (rest.drop sign)
      if digits = 0 then 0 else 1 + sign + digits
    else 0

/-- A number with a point, whole: digits may be missing before the point only
where a word goes over into it. -/
def fractionLength? (before : Option Char) (t : Text) : Option Nat :=
  let whole := digitCount t
  if wordBefore before = decide (0 < whole) then none
  else
    match t.drop whole with
    | '.' :: rest =>
      let fraction := digitCount rest
      let exponent := exponentLength (rest.drop fraction)
      if 0 < fraction && wordEnds (rest.drop (fraction + exponent)) then
        some (whole + 1 + fraction + exponent)
      else none
    | _ => none

/-- A number: with a point if it has one, else its digits alone. -/
def numberRule : TokenRule := fun before t =>
  match fractionLength? before t with
  | some length => some length
  | none =>
    let whole := digitCount t
    if 0 < whole && !wordBefore before && wordEnds (t.drop whole) then some whole else none

/-- The length of a string behind its opening quote: up to and with the closing
quote, or up to where it breaks off. A backslash takes the next character with
it, which may not be a line feed. -/
def stringLength : Text → Nat
  | [] => 0
  | '"' :: _ => 1
  | '\\' :: rest =>
    match rest with
    | [] => 0
    | c :: rest' => if c == '\n' then 0 else 2 + stringLength rest'
  | _ :: rest => 1 + stringLength rest

/-- A string, closed or not. -/
def stringRule : TokenRule := fun _ t =>
  match t with
  | '"' :: rest => some (1 + stringLength rest)
  | _ => none

/-- A backslash and the character behind it. -/
def escapeRule : TokenRule := fun _ t =>
  match t with
  | '\\' :: c :: _ => if c == '\n' then none else some 2
  | _ => none

/-- The text behind a part that must come next, white space aside. -/
def after? (part : Char) (t : Text) : Option Text :=
  match stripLeft t with
  | c :: rest => if c == part then some rest else none
  | [] => none

/-- A call that reads a variable of the environment. -/
def environmentRule : TokenRule := fun _ t =>
  if "env".toList.isPrefixOf t then do
    let rest ← after? '(' (t.drop 3)
    let rest ← after? '"' rest
    let rest ← after? ')' ((rest.dropWhile (· != '"')).drop 1)
    some (t.length - rest.length)
  else none

/-- All rules, in the order in which they colour a line. -/
def rules : List (TokenRule × Format) :=
  [(modelRule, .model), (wordRule primitiveWords, .primitive), (wordRule blockWords, .blockKeyword),
    (wordRule propertyWords, .property), (attributeRule, .attribute), (numberRule, .number),
    (stringRule, .string), (escapeRule, .escape), (environmentRule, .environment)]

/-- The spans of one rule. -/
def ruleSpans (rule : TokenRule) (format : Format) (line : Text) : List Span :=
  (scan rule line).map fun stretch =>
    { start := stretch.start, length := stretch.length, format }

end SchemaDesk.Highlight
