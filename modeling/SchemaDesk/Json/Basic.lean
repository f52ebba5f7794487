import SchemaDesk.Decimal.Binary64
import SchemaDesk.Keyed
import SchemaDesk.Text.CodePoint

/-!
# Documents

Settings files, request bodies, replies and loosely typed arguments are values
of one type. Whole numbers and floating-point numbers are kept apart. Strings
and names may hold surrogates that stand alone. An object keeps its fields in
the order in which their names first appeared; writing a field that is there
already replaces its value in place.
-/

namespace SchemaDesk

open Decimal

/-- A document value. -/
inductive Json where
  | null
  | bool (b : Bool)
  | int (i : Int)
  | float (x : Binary64)
  | str (s : CodeText)
  | arr (items : List Json)
  | obj (fields : List (CodeText × Json))

instance : Inhabited Json := ⟨.null⟩

/-- The fields of an object, in order. -/
abbrev Fields := Keyed CodeText Json

namespace Fields

/-- The value of the field called `name`. -/
def get? (fields : Fields) (name : CodeText) : Option Json :=
  Keyed.get? fields name

/-- The value of the field called `name`, or null. -/
def get (fields : Fields) (name : CodeText) : Json :=
  (fields.get? name).getD .null

/-- Is there a field called `name`? -/
def has (fields : Fields) (name : CodeText) : Bool :=
  (fields.get? name).isSome

/-- Write a field: in place if it is there, at the end if it is not. -/
def set (fields : Fields) (name : CodeText) (value : Json) : Fields :=
  Keyed.set fields name value

@[simp]
theorem get?_set_self (fields : Fields) (name : CodeText) (value : Json) :
    (fields.set name value).get? name = some value :=
  Keyed.get?_set_self fields name value

theorem get?_set_of_ne (fields : Fields) {name other : CodeText} (value : Json)
    (h : other ≠ name) : (fields.set name value).get? other = fields.get? other :=
  Keyed.get?_set_of_ne fields value h

/-- Write all fields of `other`, in their order. -/
def update (fields other : Fields) : Fields :=
  other.foldl (fun fields (name, value) => fields.set name value) fields

end Fields

namespace Json

/-- A text as a document value. -/
def ofText (t : Text) : Json :=
  .str t

/-- A text constant as a document value. -/
def ofString (s : String) : Json :=
  .str s

/-- The fields of an object; other values have none. -/
def fields? : Json → Option Fields
  | .obj fields => some fields
  | _ => none

/-- What lies at a path of names, looked up object by object. -/
def atPath? : Json → List CodeText → Option Json
  | value, [] => some value
  | .obj fields, name :: rest => (Fields.get? fields name).bind fun value => value.atPath? rest
  | _, _ :: _ => none

/-- Is the value an object? -/
def isObject (value : Json) : Bool :=
  value.fields?.isSome

end Json

end SchemaDesk
