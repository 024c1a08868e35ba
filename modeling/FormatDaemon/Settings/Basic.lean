import FormatDaemon.Settings.LogFormat

/-!
# Settings

What holds for every request of a process: logging, the program that runs the
engine, and where the global install is.

* `Settings.default`: what holds without any configuration.
* `Settings.decode`, `Settings.toJson`: settings as a document.
-/

namespace FormatDaemon

/-- The settings of a process. -/
structure Settings where
  logFilter : String
  logFormat : LogFormat
  nodeBinary : String
  globalEnginePath? : Option String
  deriving DecidableEq, Repr

namespace Settings

open Json.Decoder

/-- What holds without any configuration. -/
def default : Settings := ⟨"info", .compact, "node", none⟩

/-- The settings of a document, as far as they are read. -/
structure Draft where
  logFilter? : Option String := none
  logFormat? : Option LogFormat := none
  nodeBinary? : Option String := none
  globalEnginePath? : Option (Option String) := none

/-- The settings of a draft; what is not there keeps its default. -/
def Draft.finish (d : Draft) : Settings where
  logFilter := d.logFilter?.getD default.logFilter
  logFormat := d.logFormat?.getD default.logFormat
  nodeBinary := d.nodeBinary?.getD default.nodeBinary
  globalEnginePath? := d.globalEnginePath?.getD default.globalEnginePath?

/-- How settings are read; every one may be left out. -/
def record : Record Draft Settings where
  title := "struct Config"
  slots := [
    trailing "log_filter" (·.logFilter?) (fun a s => { s with logFilter? := some a }) string,
    trailing "log_format" (·.logFormat?) (fun a s => { s with logFormat? := some a })
      LogFormat.decode,
    trailing "node_binary" (·.nodeBinary?) (fun a s => { s with nodeBinary? := some a }) string,
    trailing "global_engine_path" (·.globalEnginePath?)
      (fun a s => { s with globalEnginePath? := some a })
      (option (textual "a UTF-8 path string"))]
  blank := {}
  finish d := .ok d.finish

/-- Settings. -/
def decode : Json.Decoder Settings := record.decode

/-- Settings, written. -/
def toJson (s : Settings) : Json :=
  .object [("log_filter", .string s.logFilter), ("log_format", s.logFormat.toJson),
    ("node_binary", .string s.nodeBinary),
    ("global_engine_path", .ofOption .string s.globalEnginePath?)]

end Settings

end FormatDaemon
