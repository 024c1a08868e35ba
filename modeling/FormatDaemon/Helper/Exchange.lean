import FormatDaemon.Helper.Lookup
import FormatDaemon.Wire.Message

/-!
# Exchanges with helpers

An engine is asked through a helper: one request goes out on a line, one
response comes back on a line, and the helper ends.

* `launch`: the helper of an exchange, with the request as its input.
* `events`: what is told of an exchange once the helper has started.
* `response`: the response, or why there is none. A helper that failed outranks
  whatever else went wrong, since it says why on standard error.
* `answer`: the answer to the operation.
-/

namespace FormatDaemon.Helper

/-- An engine behind helpers: its module, the loader script, and the environment
it was loaded in. -/
structure Engine where
  module : Path
  shim? : Option Path
  env : Environment
  deriving DecidableEq, Repr

namespace Exchange

/-- The line that is sent to a helper, without its end. -/
def line (engine : Engine) (operation : Operation) : Except Json.Fault String :=
  (Wire.ofRequest ⟨engine.module, operation⟩).map Json.print

/-- What a helper can read: the line, or nothing if it cannot be written. -/
def input : Except Json.Fault String → List UInt8
  | .ok line => Utf8.encode (line ++ "\n")
  | .error _ => []

/-- The helper of an exchange. -/
def launch (program : Path) (engine : Engine) (operation : Operation) : Launch :=
  .ofScript program engine.shim? .bridge [] engine.env (input (line engine operation))

/-- The first line of a byte string, with its newline if it has one. -/
def firstLine (bytes : List UInt8) : List UInt8 :=
  bytes.takeWhile (· != 10) ++ (bytes.dropWhile (· != 10)).take 1

/-- The diagnostics of a helper; bytes that are no text count for nothing. -/
def diagnostics (run : Run) : String := (Utf8.decode? run.stderr).getD ""

/-! ### Events -/

/-- An exchange begins. -/
def started (engine : Engine) (operation : Operation) : Event :=
  .debug target "spawning bridge process"
    [("operation", .text operation.name), ("module", .shown engine.module.shown)]

/-- The request goes out. -/
def writing (line : String) : Event :=
  .debug target "writing request to bridge stdin"
    [("request_bytes", .count (Utf8.encode line).length)]

/-- A response came in. -/
def responded (bytes : List UInt8) : Event :=
  .debug target "read bridge response" [("bytes_read", .count bytes.length)]

/-- The helper had something to say. -/
def complained (text : String) : Event :=
  .debug target "bridge stderr output" [("stderr", .shown (Text.trim text))]

/-- What is told of the response. -/
def responseEvents (run : Run) : List Event :=
  match run.refused?, Utf8.decode? (firstLine run.stdout) with
  | none, some _ => [responded (firstLine run.stdout)]
  | _, _ => []

/-- What is told of the request and the response. -/
def lineEvents (sent : Except Json.Fault String) (run : Run) : List Event :=
  match sent with
  | .ok line => writing line :: responseEvents run
  | .error _ => []

/-- What is told of the diagnostics. -/
def diagnosticEvents (run : Run) : List Event :=
  if diagnostics run = "" then [] else [complained (diagnostics run)]

/-- What is told of an exchange once the helper has started. -/
def events (sent : Except Json.Fault String) (run : Run) : List Event :=
  lineEvents sent run ++ diagnosticEvents run

/-! ### Outcomes -/

/-- The line that came in, or why there is none. -/
def received (sent : Except Json.Fault String) (run : Run) : Except EngineError String :=
  match sent, run.refused? with
  | .error fault, _ => .error (.serializeRequest fault)
  | .ok _, some cause => .error (.io "writing the engine request" cause)
  | .ok _, none =>
    match Utf8.decode? (firstLine run.stdout) with
    | none => .error (.io "reading the engine response" .notText)
    | some "" => .error (.deserializeResponse "bridge produced no output on stdout" none)
    | some line => .ok line

/-- The response a line spells. -/
def parse (line : String) : Except EngineError HelperResponse :=
  (Json.Decoder.ofText Wire.response (Text.trim line)).mapError fun fault =>
    .deserializeResponse ("bridge produced invalid JSON: " ++ fault.message) (some fault)

/-- The response of a helper, or why there is none. -/
def response (program : Path) (sent : Except Json.Fault String) (run : Run) :
    Except EngineError HelperResponse :=
  if run.ending.isSuccess then (received sent run).bind parse
  else .error (.nonZeroExit program.shown run.ending.status (Text.trim (diagnostics run)))

/-- What a response says about an operation. -/
def answer (operation : Operation) : HelperResponse → Except EngineError operation.Answer
  | .ok result =>
    (Json.Decoder.ofValue (Wire.answer operation) result).mapError fun fault =>
      .unexpectedResult operation.name fault.message
  | .error message => .error (.engine operation.name message)

/-- The answer of a helper to an operation. -/
def outcome (program : Path) (engine : Engine) (operation : Operation) (run : Run) :
    Except EngineError operation.Answer :=
  (response program (line engine operation) run).bind (answer operation)

end Exchange

end FormatDaemon.Helper
