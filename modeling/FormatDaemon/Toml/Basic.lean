import FormatDaemon.Json.Basic

/-!
# TOML values

A settings file is a TOML document. Its tables remember how they came to be,
since that decides what may still be added to them.

* `Toml`: values; `Toml.toJson`: the JSON value of a value.
-/

namespace FormatDaemon

/-- How a table came to be. -/
inductive Toml.Origin where
  /-- On the way to a table with a header. -/
  | implied
  /-- On the way of a dotted key. -/
  | dotted
  /-- By a header of its own. -/
  | header
  /-- Between braces; nothing may be added. -/
  | inline
  deriving DecidableEq, Repr

/-- A TOML value. -/
inductive Toml where
  | string (s : String)
  | integer (n : Int)
  /-- A real; none if it is not finite. -/
  | real (x? : Option Binary64)
  | boolean (b : Bool)
  /-- A date, a time, or both, as written. -/
  | moment (text : String)
  | array (items : List Toml)
  | table (origin : Toml.Origin) (members : List (String × Toml))
  /-- Tables under one repeated header. -/
  | series (tables : List (List (String × Toml)))
  deriving Repr, Inhabited

namespace Toml

/-- The members of a table. -/
abbrev Members := List (String × Toml)

mutual

/-- The JSON value of a value. A real that is not finite is `null`, and a moment
an object with its text. -/
def toJson : Toml → Json
  | .string s => .string s
  | .integer n => .number (.integer n)
  | .real x? => .ofOption (fun x => .number (.real x)) x?
  | .boolean b => .bool b
  | .moment text => .object [("moment", .string text)]
  | .array items => .array (itemsToJson items)
  | .table _ members => .object (membersToJson members)
  | .series tables => .array (tablesToJson tables)

/-- The JSON values of a list of values. -/
def itemsToJson : List Toml → List Json
  | [] => []
  | item :: rest => item.toJson :: itemsToJson rest

/-- The JSON members of a table. -/
def membersToJson : List (String × Toml) → List (String × Json)
  | [] => []
  | (name, value) :: rest => (name, value.toJson) :: membersToJson rest

/-- The JSON objects of a list of tables. -/
def tablesToJson : List (List (String × Toml)) → List Json
  | [] => []
  | members :: rest => .object (membersToJson members) :: tablesToJson rest

end

end Toml

end FormatDaemon
