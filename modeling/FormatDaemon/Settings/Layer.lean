import FormatDaemon.Json.Basic

/-!
# Layers of settings

Settings come in layers. What an upper layer sets hides what a lower one sets under the
same name, but for objects: two of them are joined, name by name.

* `Layer.over`: one layer over another.
-/

namespace FormatDaemon.Settings

/-- Settings under their names. -/
abbrev Layer := Table Json

mutual

/-- A value over the one below it, if there is one. -/
def valueOver (below? : Option Json) : Json → Json
  | .object members =>
    match below? with
    | some (.object base) => .ofTable (membersOver (Table.ofList base) members)
    | _ => .ofTable (membersOver .empty members)
  | .null => .null
  | .bool b => .bool b
  | .number n => .number n
  | .string s => .string s
  | .array items => .array items

/-- Members over a table, from the first to the last. -/
def membersOver (base : Table Json) : List (String × Json) → Table Json
  | [] => base
  | (name, value) :: rest => membersOver (base.insert name (valueOver (base.get? name) value)) rest

end

/-- One layer over another. -/
def Layer.over (above below : Layer) : Layer := membersOver below above.entries

end FormatDaemon.Settings
