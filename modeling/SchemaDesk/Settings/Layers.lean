import SchemaDesk.Json.Basic

/-!
# Layers of settings

One object laid over another: every value that is no object stands as it is, and
objects are laid over objects, name by name. What the upper layer does not name
shows through.
-/

namespace SchemaDesk.Settings

mutual

/-- The fields of the upper layer laid over `fields`, one after the other. -/
def overlay (fields : Fields) : List (CodeText × Json) → Fields
  | [] => fields
  | (name, value) :: rest =>
    overlay (fields.set name (overlayValue (fields.get? name) value)) rest

/-- One value laid over what stands in its place. -/
def overlayValue (below : Option Json) : Json → Json
  | .obj upper =>
    match below with
    | some (.obj lower) => .obj (overlay lower upper)
    | _ => .obj upper
  | value => value

end

end SchemaDesk.Settings
