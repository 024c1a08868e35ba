import FormatDaemon.Arguments
import FormatDaemon.Discovery
import FormatDaemon.Resolution

/-!
# Requests

A request formats or checks one text. Its steps come in a fixed order: read the
arguments, find an engine, ask whether the file is ignored, discover its
configuration, merge that with the options, and format or check. A text without
an engine, or of an ignored file, comes back as it is.

* `Request.run`: a request as a dialogue.
* `RequestError`: what a request can fail with, its wording and exit status.
-/

namespace FormatDaemon

/-- Why a request failed. -/
inductive RequestError where
  | usage (error : UsageError)
  | engine (error : EngineError)
  | notFormatted (path : Path)
  | malformed (fault : Json.Fault)
  deriving DecidableEq, Repr

namespace RequestError

/-- The wording of a request error. -/
def message : RequestError → String
  | .usage error => error.message
  | .engine error => error.message
  | .notFormatted path => path.shown ++ " is not formatted"
  | .malformed fault => "malformed invocation payload: " ++ fault.message

/-- The exit status of a request error: two if the request itself was wrong. -/
def exitStatus : RequestError → Nat
  | .usage _ | .malformed _ => 2
  | .engine _ | .notFormatted _ => 1

/-- The wordings of the errors behind a request error, outermost first. -/
def causes : RequestError → List String
  | .engine error => error.causes
  | .malformed fault => [fault.message]
  | .usage _ | .notFormatted _ => []

end RequestError

/-- What a request ends with. -/
abbrev Outcome : Type := Except RequestError String

/-- A request. -/
structure Request where
  cwd : Path
  args : List String
  env : Environment
  text : String

namespace Request

variable {ε : Type}

/-- Who tells of the steps. -/
def target : String := "prettierd::execution"

/-- The name under which the engine gets the path of the file. -/
def filepathKey : String := "filepath"

/-- The name of a task in an event. -/
def taskName : Task → String
  | .format => "Format"
  | .check => "Check"

/-- The arguments were read. -/
def parsed (file : Path) (args : Arguments) : Event :=
  .debug target "parsed request"
    [("file", .shown file.shown), ("task", .shown (taskName args.task)),
      ("no_color", .switch args.noColor)]

/-- There is no engine. -/
def noEngine : Event := .debug target "no engine available, returning input"

/-- The file is ignored. -/
def ignored (file : Path) : Event :=
  .debug target "file is ignored, returning input" [("file", .shown file.shown)]

/-- What the engine is given: options and configuration merged, and the path of
the file. -/
def finalOptions (options : RequestOptions) (found? : Option Options) (file : Path) : Options :=
  (options.precedence.merge options.engineOptions found?).insert filepathKey
    (.string file.shown)

/-- Formats or checks. -/
def dispatch (engine : ε) (task : Task) (text : String) (options : Options) (file : Path) :
    Dialogue ε Outcome :=
  match task with
  | .format =>
    .ask (.perform engine (.format text options)) fun
      | .ok output => .done (.ok output)
      | .error error => .done (.error (.engine error))
  | .check =>
    .ask (.perform engine (.check text options)) fun
      | .ok true => .done (.ok "")
      | .ok false => .done (.error (.notFormatted file))
      | .error error => .done (.error (.engine error))

/-- Discovers the configuration, merges and dispatches. -/
def configured (r : Request) (args : Arguments) (options : RequestOptions) (file : Path)
    (engine : ε) : Dialogue ε Outcome :=
  (Discovery.discover r.env engine r.cwd file options.config options.editorconfig).andThen
    .engine fun found? =>
      dispatch engine args.task r.text (finalOptions options found? file) file

/-- Asks whether the file is ignored, and goes on if it is not. -/
def withEngine (r : Request) (args : Arguments) (options : RequestOptions) (file : Path)
    (engine : ε) : Dialogue ε Outcome :=
  .ask (.perform engine (.fileInfo file ⟨r.cwd.join (.ofText args.ignorePath)⟩)) fun
    | .ok info =>
      if info.ignored then .tell (ignored file) (.done (.ok r.text))
      else r.configured args options file engine
    | .error error => .done (.error (.engine error))

/-- Finds an engine, and goes on if there is one. -/
def withArguments (isFile : Path → Bool) (r : Request) (args : Arguments) :
    Dialogue ε Outcome :=
  let file := r.cwd.resolve args.target
  let options := RequestOptions.ofTokens args.options
  .tellAll (RequestOptions.reports args.options) <|
  .tell (parsed file args) <|
  (Resolution.resolve isFile r.env r.cwd (file.parent?.getD r.cwd)).andThen .engine fun
    | none => .tell noEngine (.done (.ok r.text))
    | some (engine, _) => r.withEngine args options file engine

/-- A request as a dialogue. -/
def run (isFile : Path → Bool) (r : Request) : Dialogue ε Outcome :=
  match Arguments.ofTokens? r.args with
  | .error error => .done (.error (.usage error))
  | .ok args => r.withArguments isFile args

end Request

end FormatDaemon
