import FormatDaemon.Toml.Basic

/-!
# Building tables

A document is a list of statements: headers, and keys with values. Each is put
into the table that the statements before it have built, or refused if it would
define something twice.

* `Statement`, `Statement.apply`: one statement.
* `ofStatements?`: the table of a document.
* `ofPairs?`: the table between braces.
-/

namespace FormatDaemon.Toml

/-- A key: the names before its last dot, and the name behind it. -/
structure Key where
  above : List String
  name : String
  deriving DecidableEq, Repr

/-- All names of a key. -/
def Key.names (key : Key) : List String := key.above ++ [key.name]

/-- The members with a value under a name, in place of an earlier one. -/
def put (name : String) (value : Toml) : Members → Members
  | [] => [(name, value)]
  | (n, v) :: rest => if n = name then (n, value) :: rest else (n, v) :: put name value rest

/-- The members with a value under a name that has none. -/
def define (name : String) (value : Toml) (members : Members) : Option Members :=
  if (members.lookup name).isSome then none else some (members ++ [(name, value)])

/-- Changes the last table of a series. -/
def changeLast (f : Members → Option Members) (tables : List Members) : Option Toml := do
  let last ← tables.getLast?
  return .series (tables.dropLast ++ [← f last])

/-- Changes the table that a dotted key leads to. Only tables of dotted keys may
be added to in this way; those implied by headers may be passed through. -/
def atKey (f : Members → Option Members) : List String → Members → Option Members
  | [], members => f members
  | name :: rest, members => do
    let next ←
      match members.lookup name with
      | none => (atKey f rest []).map (.table .dotted)
      | some (.table .dotted inner) => (atKey f rest inner).map (.table .dotted)
      | some (.table .implied inner) =>
        if rest.isEmpty then none else (atKey f rest inner).map (.table .implied)
      | some (.series tables) => if rest.isEmpty then none else changeLast (atKey f rest) tables
      | some _ => none
    return put name next members

/-- Changes the table that a header leads to; in a series it is the last one. -/
def atHeader (f : Members → Option Members) : List String → Members → Option Members
  | [], members => f members
  | name :: rest, members => do
    let next ←
      match members.lookup name with
      | none => (atHeader f rest []).map (.table .implied)
      | some (.table .inline _) => none
      | some (.table origin inner) => (atHeader f rest inner).map (.table origin)
      | some (.series tables) => changeLast (atHeader f rest) tables
      | some _ => none
    return put name next members

/-- Opens a table under a header; it may have been implied before. -/
def openTable (name : String) (members : Members) : Option Members :=
  match members.lookup name with
  | none => some (put name (.table .header []) members)
  | some (.table .implied inner) => some (put name (.table .header inner) members)
  | some _ => none

/-- Opens the next table of a series. -/
def openElement (name : String) (members : Members) : Option Members :=
  match members.lookup name with
  | none => some (put name (.series [[]]) members)
  | some (.series tables) => some (put name (.series (tables ++ [[]])) members)
  | some _ => none

/-- A statement of a document. -/
inductive Statement where
  | table (key : Key)
  | element (key : Key)
  | assign (key : Key) (value : Toml)

/-- The root table, and the names of the table under the last header. -/
structure Draft where
  root : Members := []
  current : List String := []

/-- Puts a value under a key. -/
def defineAt (key : Key) (value : Toml) : Members → Option Members :=
  atKey (define key.name value) key.above

/-- Carries out a statement. -/
def Statement.apply (d : Draft) : Statement → Option Draft
  | .table key => (atHeader (openTable key.name) key.above d.root).map (⟨·, key.names⟩)
  | .element key => (atHeader (openElement key.name) key.above d.root).map (⟨·, key.names⟩)
  | .assign key value => (atHeader (defineAt key value) d.current d.root).map (⟨·, d.current⟩)

/-- The table of a document. -/
def ofStatements? (statements : List Statement) : Option Members :=
  (statements.foldlM Statement.apply {}).map (·.root)

/-- The table of keys with values between braces. -/
def ofPairs? (pairs : List (Key × Toml)) : Option Toml :=
  (pairs.foldlM (fun members (key, value) => defineAt key value members) []).map (.table .inline)

end FormatDaemon.Toml
