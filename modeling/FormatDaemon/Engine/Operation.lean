import FormatDaemon.Json.Basic
import FormatDaemon.Path

/-!
# Engine operations

An engine answers four questions about a file or a text.

* `Operation`: the questions; `Operation.Answer`: what each is answered with.
-/

namespace FormatDaemon

/-- How configuration is looked for. -/
structure ConfigQuery where
  /-- The file to read; without one the engine searches upwards. -/
  config? : Option Path
  editorconfig : Bool
  useCache : Bool
  deriving DecidableEq, Repr

/-- How a file is classified. -/
structure FileInfoQuery where
  ignorePath : Path
  deriving DecidableEq, Repr

/-- What an engine knows about a file. -/
structure FileInfo where
  ignored : Bool
  inferredParser? : Option String
  deriving DecidableEq, Repr

/-- A question to an engine. -/
inductive Operation where
  | resolveConfig (path : Path) (query : ConfigQuery)
  | fileInfo (path : Path) (query : FileInfoQuery)
  | format (text : String) (options : Options)
  | check (text : String) (options : Options)

namespace Operation

/-- What a question is answered with. -/
abbrev Answer : Operation → Type
  | .resolveConfig .. => Option Options
  | .fileInfo .. => FileInfo
  | .format .. => String
  | .check .. => Bool

/-- The name of a question, in messages and requests. -/
def name : Operation → String
  | .resolveConfig .. => "resolve_config"
  | .fileInfo .. => "file_info"
  | .format .. => "format"
  | .check .. => "check"

end Operation

end FormatDaemon
