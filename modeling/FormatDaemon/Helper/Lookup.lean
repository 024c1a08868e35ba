import FormatDaemon.Engine.Error
import FormatDaemon.Helper.Launch
import FormatDaemon.Log
import FormatDaemon.Resolution
import FormatDaemon.Text.Blank
import FormatDaemon.Text.Quoted

/-!
# Looking up modules

A helper looks for the engine's package and prints where it is.

* `launch`: the helper of a lookup.
* `outcome`: the module it found, or why it found none.
-/

namespace FormatDaemon.Helper

/-- Who tells of helpers. -/
def target : String := "prettierd_engine::bridge"

namespace Lookup

/-- The helper that looks from a directory, or in the global install. -/
def launch (program : Path) (shim? start? : Option Path) (env : Environment) : Launch :=
  .ofScript program shim? .resolve
    (.text Resolution.package :: start?.toList.map .path) env []

/-- Where a lookup starts, for whoever reads a log. -/
def shownStart : Option Path → String
  | none => "None"
  | some dir => "Some(" ++ Text.quotedBytes dir.bytes ++ ")"

/-- A lookup begins. -/
def started (start? : Option Path) : Event :=
  .debug target "resolving engine module"
    [("package", .text Resolution.package), ("start_dir", .shown (shownStart start?))]

/-- Where a lookup starts, for whoever gave the request. -/
def origin : Option Path → String
  | none => "global install"
  | some dir => dir.shown

/-- The first line of diagnostics that says something. -/
def gist (diagnostics : String) : String :=
  (((Text.lines diagnostics).map Text.trim).find? (· != "")).getD "resolution failed"

/-- No module was found. -/
def notFound (start? : Option Path) (message : String) : EngineError :=
  .notFound Resolution.package (origin start?) message

/-- The module a lookup found, or why it found none. -/
def outcome (start? : Option Path) (run : Run) : Except EngineError Path :=
  if run.ending.isSuccess then
    let printed := Text.trim (Utf8.decodeLossy run.stdout)
    if printed = "" then .error (notFound start? "resolver printed nothing")
    else .ok (.ofText printed)
  else .error (notFound start? (gist (Utf8.decodeLossy run.stderr)))

end Lookup

end FormatDaemon.Helper
