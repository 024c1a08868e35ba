import FormatDaemon.Json.Fault
import FormatDaemon.SystemError

/-!
# Engine errors

* `EngineError`: why no engine was found, or why one did not answer.
* `EngineError.message`: the wording.
* `EngineError.causes`: the errors behind an error, outermost first.
-/

namespace FormatDaemon

/-- Why an engine could not be found, started or understood. -/
inductive EngineError where
  | notFound (package origin message : String)
  | spawnFailed (program : String) (cause : SystemError)
  | nonZeroExit (program : String) (status : Int) (stderr : String)
  | io (action : String) (cause : SystemError)
  | serializeRequest (fault : Json.Fault)
  | deserializeResponse (message : String) (fault? : Option Json.Fault)
  | unexpectedResult (operation message : String)
  | engine (operation message : String)
  deriving DecidableEq, Repr

namespace EngineError

/-- The wording of an engine error. -/
def message : EngineError → String
  | .notFound package origin text =>
    "cannot resolve '" ++ package ++ "' from " ++ origin ++ ": " ++ text
  | .spawnFailed program cause => "failed to start '" ++ program ++ "': " ++ cause.message
  | .nonZeroExit program status stderr =>
    "'" ++ program ++ "' exited with status " ++ toString status ++ ": " ++ stderr
  | .io action cause => "I/O error while " ++ action ++ ": " ++ cause.message
  | .serializeRequest fault => "failed to serialise engine request: " ++ fault.message
  | .deserializeResponse text _ => "failed to deserialise engine response: " ++ text
  | .unexpectedResult operation text =>
    "engine returned an unexpected result for " ++ operation ++ ": " ++ text
  | .engine operation text => operation ++ " failed: " ++ text

/-- The wordings of the errors behind an error, outermost first. -/
def causes : EngineError → List String
  | .spawnFailed _ cause | .io _ cause => [cause.message]
  | .serializeRequest fault | .deserializeResponse _ (some fault) => [fault.message]
  | .notFound .. | .nonZeroExit .. | .deserializeResponse _ none | .unexpectedResult ..
  | .engine .. => []

end EngineError

end FormatDaemon
