import FormatDaemon.Engine.Operation
import FormatDaemon.Json.Decoder

/-!
# Queries on the wire

Queries and their answers as JSON. A path is written as text, which fails for
bytes that are none.

* `ofPath`, `path`: paths.
* `ofConfigQuery`, `configQuery`; `ofFileInfoQuery`, `fileInfoQuery`;
  `ofFileInfo`, `fileInfo`: written and read.
-/

namespace FormatDaemon.Wire

open Json.Decoder

/-- A path as text. -/
def ofPath (p : Path) : Except Json.Fault Json :=
  match p.text? with
  | some text => .ok (.string text)
  | none => .error ⟨.pathNotText, none⟩

/-- A path. -/
def path : Json.Decoder Path := fun node => (textual "path string" node).map .ofText

/-- An optional path as text. -/
def ofPath? : Option Path → Except Json.Fault Json
  | none => .ok .null
  | some p => ofPath p

/-- A configuration query, written. -/
def ofConfigQuery (q : ConfigQuery) : Except Json.Fault Json := do
  let config ← ofPath? q.config?
  return .object [("config", config), ("editorconfig", .bool q.editorconfig),
    ("useCache", .bool q.useCache)]

/-- The fields of a configuration query, as far as they are read. -/
structure ConfigQueryDraft where
  config? : Option (Option Path) := none
  editorconfig? : Option Bool := none
  useCache? : Option Bool := none

/-- How a configuration query is read; without a file the engine searches. -/
def configQueryRecord : Record ConfigQueryDraft ConfigQuery where
  title := "struct ConfigQuery"
  slots := [
    field "config" (·.config?) (fun a s => { s with config? := some a }) (option path),
    field "editorconfig" (·.editorconfig?) (fun a s => { s with editorconfig? := some a }) boolean,
    field "useCache" (·.useCache?) (fun a s => { s with useCache? := some a }) boolean]
  blank := {}
  finish s := do
    let editorconfig ← required "editorconfig" s.editorconfig?
    let useCache ← required "useCache" s.useCache?
    return ⟨s.config?.getD none, editorconfig, useCache⟩

/-- A configuration query. -/
def configQuery : Json.Decoder ConfigQuery := configQueryRecord.decode

/-- A query on a file, written. -/
def ofFileInfoQuery (q : FileInfoQuery) : Except Json.Fault Json := do
  return .object [("ignorePath", ← ofPath q.ignorePath)]

/-- How a query on a file is read. -/
def fileInfoQueryRecord : Record (Option Path) FileInfoQuery where
  title := "struct FileInfoQuery"
  slots := [field "ignorePath" id (fun a _ => some a) path]
  blank := none
  finish s := (required "ignorePath" s).map (⟨·⟩)

/-- A query on a file. -/
def fileInfoQuery : Json.Decoder FileInfoQuery := fileInfoQueryRecord.decode

/-- What is known about a file, written. -/
def ofFileInfo (info : FileInfo) : Json :=
  .object [("ignored", .bool info.ignored),
    ("inferredParser", .ofOption .string info.inferredParser?)]

/-- The fields of what is known about a file, as far as they are read. -/
structure FileInfoDraft where
  ignored? : Option Bool := none
  inferredParser? : Option (Option String) := none

/-- How what is known about a file is read; the parser may be left out. -/
def fileInfoRecord : Record FileInfoDraft FileInfo where
  title := "struct FileInfo"
  slots := [
    field "ignored" (·.ignored?) (fun a s => { s with ignored? := some a }) boolean,
    trailing "inferredParser" (·.inferredParser?)
      (fun a s => { s with inferredParser? := some a }) (option string)]
  blank := {}
  finish s := do
    return ⟨← required "ignored" s.ignored?, s.inferredParser?.getD none⟩

/-- What is known about a file. -/
def fileInfo : Json.Decoder FileInfo := fileInfoRecord.decode

end FormatDaemon.Wire
