import FormatDaemon.Wire.Query

/-!
# Messages of the helper

The helper reads one request and writes one response, each a JSON object on one
line. The operation of a request and the status of a response are members of
that object, beside the content.

* `HelperRequest`, `ofRequest`, `request`: requests, written and read.
* `HelperResponse`, `ofResponse`, `response`: responses, written and read.
* `answer`: the result of a response as the answer to its operation.
-/

namespace FormatDaemon

/-- A request to the helper: the engine's module and the operation. -/
structure HelperRequest where
  module : Path
  operation : Operation

/-- A response of the helper. -/
inductive HelperResponse where
  | ok (result : Json)
  | error (message : String)

namespace Wire

open Json.Decoder

/-! ### Requests -/

/-- The content of an operation, written. -/
def ofOperation : Operation → Except Json.Fault (List (String × Json))
  | .resolveConfig path query => do
    return [("path", ← ofPath path), ("query", ← ofConfigQuery query)]
  | .fileInfo path query => do
    return [("path", ← ofPath path), ("query", ← ofFileInfoQuery query)]
  | .format text options | .check text options =>
    .ok [("text", .string text), ("options", .ofTable options)]

/-- A request, written. -/
def ofRequest (r : HelperRequest) : Except Json.Fault Json := do
  let module ← ofPath r.module
  let content ← ofOperation r.operation
  return .object (("module", module) :: ("operation", .string r.operation.name) :: content)

/-- Two fields of a record, as far as they are read. -/
structure PairDraft (α β : Type) where
  first? : Option α := none
  second? : Option β := none

/-- How a record of two fields is read. -/
def pairRecord {α β γ : Type} (title first second : String) (readFirst : Json.Decoder α)
    (readSecond : Json.Decoder β) (make : α → β → γ) : Record (PairDraft α β) γ where
  title := title
  slots := [
    field first (·.first?) (fun a s => { s with first? := some a }) readFirst,
    field second (·.second?) (fun b s => { s with second? := some b }) readSecond]
  blank := {}
  finish s := do
    let a ← required first s.first?
    let b ← required second s.second?
    return make a b

/-- The operations, by the names they have on the wire. -/
def operationNames : List String := ["resolve_config", "file_info", "format", "check"]

/-- The content of the operation with an index. -/
def operationContent : Nat → Json.Decoder Operation
  | 0 =>
    (pairRecord "struct variant BridgeOperation::ResolveConfig" "path" "query" path configQuery
      .resolveConfig).decode
  | 1 =>
    (pairRecord "struct variant BridgeOperation::FileInfo" "path" "query" path fileInfoQuery
      .fileInfo).decode
  | 2 =>
    (pairRecord "struct variant BridgeOperation::Format" "text" "options" string freeform
      .format).decode
  | _ =>
    (pairRecord "struct variant BridgeOperation::Check" "text" "options" string freeform
      .check).decode

/-- How the operation is marked among the members of a request. -/
def operationTag : Tagged where
  tag := "operation"
  title := "internally tagged enum BridgeOperation"
  known := operationNames
  numbered := true

/-- An operation among the members of a request that are not its module. -/
def operationOf (members : List (String × Json)) : Except Json.Fault Operation := do
  let (index, content) ← ofPart operationTag.split (.object members)
  ofPart (operationContent index) content

/-- The members of a request: its module and the others. -/
def requestMembers (module? : Option Path) : Json.Members →
    Except Json.Fault (Option Path × List (String × Json) × Json.Mark)
  | .close _ stop => .ok (module?, [], stop)
  | .stuck _ read _ => .error read
  | .misnamed _ fault => .error fault
  | .member _ _ name behind node rest => do
    let name ← name
    if name = "module" then
      match module? with
      | some _ => .error ⟨.repeatedField "module", behind⟩
      | none =>
        let module ← path node
        requestMembers (some module) rest
    else
      let part ← node.document
      let (module?, others, stop) ← requestMembers module? rest
      return (module?, (name, part) :: others, stop)

/-- A request. Whatever is wrong with it as a whole stands behind it. -/
def request : Json.Decoder HelperRequest
  | .object _ (some fault) _ => .error fault
  | .object _ none members => do
    let (module?, others, stop) ← requestMembers none members
    match module? with
    | none => .error ⟨.missingField "module", stop⟩
    | some module =>
      match operationOf others with
      | .ok operation => .ok ⟨module, operation⟩
      | .error fault => .error (fault.orAt stop)
  | node => .error (mismatch "struct BridgeRequest" node)

/-! ### Responses -/

/-- A response, written. -/
def ofResponse : HelperResponse → Json
  | .ok result => .object [("status", .string "ok"), ("result", result)]
  | .error message => .object [("status", .string "error"), ("message", .string message)]

/-- How the status is marked in a response. -/
def statusTag : Tagged where
  tag := "status"
  title := "internally tagged enum BridgeResponse"
  known := ["ok", "error"]
  numbered := false

/-- The content of a success; without a result it is `null`. -/
def successRecord : Record (Option Json) HelperResponse where
  title := "struct variant BridgeResponse::Ok"
  slots := [trailing "result" id (fun a _ => some a) value]
  blank := none
  finish s := .ok (.ok (s.getD .null))

/-- The content of a failure. -/
def failureRecord : Record (Option String) HelperResponse where
  title := "struct variant BridgeResponse::Error"
  slots := [field "message" id (fun a _ => some a) string]
  blank := none
  finish s := (required "message" s).map .error

/-- A response. -/
def response : Json.Decoder HelperResponse := fun node => do
  let (index, content) ← statusTag.split node
  if index = 0 then ofPart successRecord.decode content
  else ofPart failureRecord.decode content

/-- The answer to an operation. -/
def answer : (operation : Operation) → Json.Decoder operation.Answer
  | .resolveConfig .. => option freeform
  | .fileInfo .. => fileInfo
  | .format .. => string
  | .check .. => boolean

end Wire

end FormatDaemon
