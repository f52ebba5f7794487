import SchemaDesk.Json.Basic
import SchemaDesk.Decimal.Reader
import SchemaDesk.Decimal.Style
import SchemaDesk.Size
import SchemaDesk.Text.Quoted

/-!
# Reading values leniently

Settings and arguments come from outside and may hold any value in any place.
This module says what such a value counts as where a string, a text, a whole number,
a floating-point number or a yes-or-no is wanted, and why a value cannot be
taken for a number; and which fields a value has where an object is wanted.
-/

namespace SchemaDesk

open Decimal

/-- Why a value is not of the kind that is wanted. -/
inductive ConversionError where
  /-- A whole number was wanted, and there is no number. -/
  | nanToWhole
  /-- A whole number was wanted, and the value is beyond all of them. -/
  | infinityToWhole
  /-- The text is no whole number. -/
  | textToWhole (s : CodeText)
  /-- The text has more digits than a whole number may have. -/
  | tooManyDigits (count : Nat)
  /-- Values of this kind are no whole numbers. -/
  | kindToWhole (kind : String)
  /-- The whole number is larger than every floating-point value. -/
  | wholeTooLarge
  /-- The text is no floating-point number. -/
  | textToFloat (s : CodeText)
  /-- Values of this kind are no floating-point numbers. -/
  | kindToFloat (kind : String)
  /-- Values of this kind have no items that could be fields. -/
  | kindToFields (kind : String)
  /-- The item with this index has no parts that could be a name and a value. -/
  | itemToField (index : Nat)
  /-- The item with this index has so many parts, and not two. -/
  | partsToField (index parts : Nat)
  /-- Values of this kind name nothing. -/
  | kindToName (kind : String)
  /-- The number is one, but there cannot be so many of what it counts. -/
  | size (e : SizeError)
  deriving DecidableEq, Repr

namespace ConversionError

/-- The number lies outside the range of the wanted kind; every other error says
that the value does not fit at all. -/
def outOfRange : ConversionError → Bool
  | .infinityToWhole | .wholeTooLarge | .size _ => true
  | _ => false

/-- The wording of a conversion error. -/
def message : ConversionError → Text
  | .nanToWhole => "cannot convert float NaN to integer".toList
  | .infinityToWhole => "cannot convert float infinity to integer".toList
  | .textToWhole s =>
    "invalid literal for int() with base 10: ".toList ++ s.quoted.take 200
  | .tooManyDigits count =>
    ("Exceeds the limit (4300 digits) for integer string conversion: value has " ++
      toString count ++
      " digits; use sys.set_int_max_str_digits() to increase the limit").toList
  | .kindToWhole kind =>
    ("int() argument must be a string, a bytes-like object or a real number, not '" ++ kind ++
      "'").toList
  | .wholeTooLarge => "int too large to convert to float".toList
  | .textToFloat s => "could not convert string to float: ".toList ++ s.quoted
  | .kindToFloat kind =>
    ("float() argument must be a string or a real number, not '" ++ kind ++ "'").toList
  | .kindToFields kind => ("'" ++ kind ++ "' object is not iterable").toList
  | .itemToField index =>
    ("cannot convert dictionary update sequence element #" ++ toString index ++
      " to a sequence").toList
  | .partsToField index parts =>
    ("dictionary update sequence element #" ++ toString index ++ " has length " ++
      toString parts ++ "; 2 is required").toList
  | .kindToName kind => ("unhashable type: '" ++ kind ++ "'").toList
  | .size e => e.message

end ConversionError

namespace Json

/-- How messages call the kind of a value. -/
def kind : Json → String
  | .null => "NoneType"
  | .bool _ => "bool"
  | .int _ => "int"
  | .float _ => "float"
  | .str _ => "str"
  | .arr _ => "list"
  | .obj _ => "dict"

/-- Null, false, zero and whatever is empty count as no; all else counts as yes. -/
def truthy : Json → Bool
  | .null => false
  | .bool b => b
  | .int i => i != 0
  | .float x => !x.isZero
  | .str s => !s.isEmpty
  | .arr items => !items.isEmpty
  | .obj fields => !fields.isEmpty

/-- The value, or the fallback where the value counts as no. -/
def orElse (value fallback : Json) : Json :=
  if value.truthy then value else fallback

mutual

/-- A value as it is shown inside other values. -/
def shown : Json → Text
  | .null => "None".toList
  | .bool true => "True".toList
  | .bool false => "False".toList
  | .int i => intText i
  | .float x => Style.standard.text x
  | .str s => s.quoted
  | .arr items => '[' :: List.intercalate [',', ' '] (shownItems items) ++ [']']
  | .obj fields => '{' :: List.intercalate [',', ' '] (shownFields fields) ++ ['}']

/-- Items as they are shown. -/
def shownItems : List Json → List Text
  | [] => []
  | item :: rest => shown item :: shownItems rest

/-- Fields as they are shown. -/
def shownFields : List (CodeText × Json) → List Text
  | [] => []
  | (name, value) :: rest =>
    (name.quoted ++ [':', ' '] ++ shown value) :: shownFields rest

end

/-- A value as a string of its own: for a string, the one that it is. -/
def string : Json → CodeText
  | .str s => s
  | other => shown other

/-- A value where a string is wanted: what counts as no is the empty one. -/
def lenientString (value : Json) : CodeText :=
  if value.truthy then value.string else []

@[simp]
theorem lenientString_str (s : CodeText) : (Json.str s).lenientString = s := by
  cases s <;> rfl

/-- A value as a text of its own. A surrogate alone counts as the replacement character. -/
def display (value : Json) : Text :=
  value.string.text

/-- A value where a text is wanted: what counts as no is the empty text. -/
def lenientText (value : Json) : Text :=
  value.lenientString.text

@[simp]
theorem lenientText_str (s : CodeText) : (Json.str s).lenientText = s.text := by
  rw [lenientText, lenientString_str]

/-- A value where a whole number is wanted: parts after the point are cut off. -/
def toWhole : Json → Except ConversionError Int
  | .bool b => .ok (if b then 1 else 0)
  | .int i => .ok i
  | .float .nan => .error .nanToWhole
  | .float (.infinity _) => .error .infinityToWhole
  | .float (.finite negative mantissa power _) => .ok (Binary64.truncate negative mantissa power)
  | .str s =>
    match readWhole s.text with
    | .ok i => .ok i
    | .error .malformed => .error (.textToWhole s)
    | .error (.tooManyDigits count) => .error (.tooManyDigits count)
  | other => .error (.kindToWhole other.kind)

/-- A value where a floating-point number is wanted. -/
def toFloat : Json → Except ConversionError Binary64
  | .bool b => .ok (Binary64.ofRatio false (if b then 1 else 0) 1)
  | .int i =>
    match Binary64.ofInt? i with
    | some x => .ok x
    | none => .error .wholeTooLarge
  | .float x => .ok x
  | .str s =>
    match readBinary64? s.text with
    | some x => .ok x
    | none => .error (.textToFloat s)
  | other => .error (.kindToFloat other.kind)

/-- The name that a value is where a name is wanted. -/
def toName : Json → Except ConversionError CodeText
  | .null => .ok "null"
  | .bool b => .ok (if b then "true" else "false")
  | .str s => .ok s
  | .arr items => .error (.kindToName (kind (.arr items)))
  | .obj fields => .error (.kindToName (kind (.obj fields)))
  | other => .ok other.string

/-- The name and the value that an item of a list, the one with this index, stands for:
its two parts. -/
def toField (index : Nat) (item : Json) : Except ConversionError (CodeText × Json) := do
  let parts : List Json ←
    match item with
    | .arr items => .ok items
    | .str s => .ok (s.map fun point => .str [point])
    | .obj fields => .ok (fields.map fun field => .str field.1)
    | _ => .error (.itemToField index)
  match parts with
  | [name, value] => return (← name.toName, value)
  | _ => .error (.partsToField index parts.length)

/-- The fields that items stand for, of which the first has this index, written over
`fields`. -/
def itemsToFields (fields : Fields) (index : Nat) : List Json → Except ConversionError Fields
  | [] => .ok fields
  | item :: rest => do
    let (name, value) ← toField index item
    itemsToFields (fields.set name value) (index + 1) rest

/-- A value where an object is wanted: a list may hold names and values in pairs. -/
def toFields : Json → Except ConversionError Fields
  | .obj fields => .ok fields
  | .arr items => itemsToFields [] 0 items
  | .str s => itemsToFields [] 0 (s.map fun point => .str [point])
  | other => .error (.kindToFields other.kind)

/-- A value where an object may stand: what counts as no has no fields. -/
def lenientFields (value : Json) : Except ConversionError Fields :=
  if value.truthy then value.toFields else .ok []

/-- A whole number between two bounds. A value that does not fit at all counts as
the fallback; one that is out of every range does not count as anything. -/
def clampedWhole (value : Json) (low high fallback : Int) : Except ConversionError Int :=
  match value.toWhole with
  | .ok i => .ok (max low (min high i))
  | .error e => if e.outOfRange then .error e else .ok fallback

end Json

end SchemaDesk
