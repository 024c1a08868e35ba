import FormatDaemon.Json.Decoder

/-!
# Call shapes

A client sends its arguments and changes of the environment as an object, or as
an array of one more argument and such an object.

* `Payload`, `ofPayload`, `payload`: the object, written and read.
* `callShape`: the shape of a value; `CallShape.payload`: its content.
-/

namespace FormatDaemon

/-- The arguments of a client, and its changes of the environment. -/
structure Payload where
  args : List String
  clientEnv : Table (Option String)
  deriving DecidableEq, Repr

/-- The two ways to call. -/
inductive CallShape where
  /-- An array of one more argument and a payload. -/
  | extended (first : String) (payload : Payload)
  /-- A payload alone. -/
  | plain (payload : Payload)
  deriving DecidableEq, Repr

namespace CallShape

/-- The payload of a call; an argument of its own comes first. -/
def payload : CallShape → Payload
  | .extended first p => { p with args := first :: p.args }
  | .plain p => p

end CallShape

namespace Wire

open Json.Decoder

/-- A payload, written. -/
def ofPayload (p : Payload) : Json :=
  .object [("args", .array (p.args.map .string)),
    ("clientEnv", .ofTable (p.clientEnv.map (.ofOption .string)))]

/-- The fields of a payload, as far as they are read. -/
structure PayloadDraft where
  args? : Option (List String) := none
  clientEnv? : Option (Table (Option String)) := none

/-- How a payload is read; without changes the environment stays. -/
def payloadRecord : Record PayloadDraft Payload where
  title := "struct RequestPayload"
  slots := [
    field "args" (·.args?) (fun a s => { s with args? := some a }) (list string),
    trailing "clientEnv" (·.clientEnv?) (fun a s => { s with clientEnv? := some a })
      (table (option string))]
  blank := {}
  finish s := do
    return ⟨← required "args" s.args?, s.clientEnv?.getD .empty⟩

/-- A payload. -/
def payload : Json.Decoder Payload := payloadRecord.decode

/-- An array of a text and a payload. -/
def extended : Json.Decoder CallShape
  | .array _ none (.item _ first (.item _ second rest)) => do
    let first ← string first
    let second ← payload second
    match rest with
    | .close _ => .ok (.extended first second)
    | .item surplus _ _ | .stuck _ _ surplus => .error surplus
  | node => .error (mismatch "tuple variant InvocationShape::Prefixed" node)

/-- A call in either shape. -/
def callShape (j : Json) : Except Json.Fault CallShape :=
  match ofPart extended j with
  | .ok shape => .ok shape
  | .error _ =>
    match ofPart payload j with
    | .ok p => .ok (.plain p)
    | .error _ => .error ⟨.noVariant "InvocationShape", none⟩

end Wire

end FormatDaemon
