import FormatDaemon.Request
import FormatDaemon.Wire.Payload

/-!
# Invocations

A client invokes the daemon with arguments, changes of the environment, and a
text. The environment of the request is taken when it arrives.

* `Base`: the environment below the client's changes.
* `Invocation.run`: an invocation as a dialogue.
* `invokeJson`: a call shape as a dialogue; another value calls nobody.
-/

namespace FormatDaemon

/-- The environment below the changes of clients. -/
inductive Base where
  /-- These variables. -/
  | fixed (vars : Table String)
  /-- The variables of the process, as bytes. -/
  | process (vars : List (List UInt8 × List UInt8))

/-- The environment of a request: the base with the client's changes on top. -/
def Base.snapshot (base : Base) (changes : Table (Option String)) : Environment :=
  match base with
  | .fixed vars => .layered vars.entries changes.entries
  | .process vars => .captured vars changes.entries

/-- An invocation by a client. -/
structure Invocation where
  cwd : Path
  args : List String
  clientEnv : Table (Option String)
  text : String

namespace Invocation

variable {ε : Type}

/-- The invocation of a payload. -/
def ofPayload (cwd : Path) (p : Payload) (text : String) : Invocation :=
  ⟨cwd, p.args, p.clientEnv, text⟩

/-- The request of an invocation. -/
def request (base : Base) (i : Invocation) : Request :=
  ⟨i.cwd, i.args, base.snapshot i.clientEnv, i.text⟩

/-- The request is over. -/
def finished (outcome : Outcome) : Event :=
  .debug "prettierd::invocation" "request finished" [("succeeded", .switch outcome.isOk)]

/-- An invocation as a dialogue. -/
def run (isFile : Path → Bool) (base : Base) (i : Invocation) : Dialogue ε Outcome :=
  ((i.request base).run isFile).bind fun outcome => .tell (finished outcome) (.done outcome)

end Invocation

/-- A call shape as a dialogue. -/
def invokeJson {ε : Type} (isFile : Path → Bool) (base : Base) (cwd : Path) (call : Json)
    (text : String) : Dialogue ε Outcome :=
  match Wire.callShape call with
  | .ok shape => (Invocation.ofPayload cwd shape.payload text).run isFile base
  | .error fault => .done (.error (.malformed fault))

end FormatDaemon
