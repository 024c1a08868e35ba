import FormatDaemon.Number.Binary64
import FormatDaemon.Table

/-!
# JSON documents

A document as it is written: an object is the list of its members, in order
and with repetitions. A value is a document whose objects are tables.

* `Json.normal`: the value of a document; of members with one name the last
  stays, and the names are in order.
* `Json.ofTable`, `Json.table?`: tables as objects, and back.
-/

namespace FormatDaemon

/-- A number: an integer is kept exactly, any other number as a real. -/
inductive Number where
  | integer (value : Int)
  | real (value : Binary64)
  deriving DecidableEq, Repr

/-- A JSON document. -/
inductive Json where
  | null
  | bool (b : Bool)
  | number (n : Number)
  | string (s : String)
  | array (items : List Json)
  | object (members : List (String × Json))
  deriving Repr, Inhabited

/-- Free-form options: a JSON object whose names only the engine knows. -/
abbrev Options := Table Json

namespace Json

mutual

/-- The value of a document: every object becomes a table. -/
def normal : Json → Json
  | .array items => .array (normalItems items)
  | .object members => .object (Table.ofList (normalMembers members)).entries
  | .null => .null
  | .bool b => .bool b
  | .number n => .number n
  | .string s => .string s

/-- The values of a list of documents. -/
def normalItems : List Json → List Json
  | [] => []
  | item :: rest => item.normal :: normalItems rest

/-- The values of a list of members. -/
def normalMembers : List (String × Json) → List (String × Json)
  | [] => []
  | (name, value) :: rest => (name, value.normal) :: normalMembers rest

end

/-- A table as an object. -/
def ofTable (t : Options) : Json := .object t.entries

/-- An object as a table. -/
def table? : Json → Option Options
  | .object members => some (Table.ofList members)
  | _ => none

/-- An optional value; `null` if there is none. -/
def ofOption {α : Type} (f : α → Json) : Option α → Json
  | none => .null
  | some a => f a

/-- A natural number. -/
def ofNat (n : Nat) : Json := .number (.integer n)

end Json

end FormatDaemon
