import SchemaDesk.Json.Basic
import SchemaDesk.Keyed

/-!
# Reports

Hosts that show what the program does are told so in documents. The modules of
this part turn values of the program into such documents.
-/

namespace SchemaDesk.Report

/-- A list of values. -/
def list {α : Type} (f : α → Json) (values : List α) : Json :=
  .arr (values.map f)

/-- A value that may be missing. -/
def optional {α : Type} (f : α → Json) : Option α → Json
  | some value => f value
  | none => .null

/-- A natural number. -/
def count (n : Nat) : Json :=
  .int n

/-- Values by name. -/
def keyed {α : Type} (f : α → Json) (entries : Keyed Text α) : Json :=
  .obj (entries.map fun (key, value) => (key, f value))

/-- Texts in alphabetical order. -/
def sorted (texts : List Text) : Json :=
  list .ofText (texts.mergeSort fun a b => decide (String.ofList a ≤ String.ofList b))

end SchemaDesk.Report
