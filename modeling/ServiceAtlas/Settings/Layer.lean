import ServiceAtlas.Settings

/-!
Settings given in layers. A layer is a table that says anything about the settings or nothing; tables
on both sides are merged at every depth, and anything else takes the place of what was there.
-/

namespace ServiceAtlas.Layer

mutual
def overlayValue (base : Value) : Value → Value
  | .object layer =>
    match base with
    | .object fields => .object (overlay fields layer)
    | _ => .object layer
  | v => v

/-- The first table with the second laid over it. -/
def overlay (base : Table Value) : List (String × Value) → Table Value
  | [] => base
  | (key, v) :: rest =>
    overlay (Table.insert base key (overlayValue ((Table.find? base key).getD .null) v)) rest
end

end ServiceAtlas.Layer
