import FormatDaemon.Json.Decoder
import FormatDaemon.Text.Blank

/-!
# Log formats

* `LogFormat.parse?`: the format a text names, in any letter case.
* `LogFormat.decode`: the format a document names, letter by letter.
-/

namespace FormatDaemon

/-- How log records are written. -/
inductive LogFormat where
  | json
  | compact
  deriving DecidableEq, Repr

namespace LogFormat

/-- The name of a format. -/
def name : LogFormat → String
  | .json => "json"
  | .compact => "compact"

/-- All formats. -/
def all : List LogFormat := [.json, .compact]

/-- The format a text names, in any letter case. -/
def parse? (text : String) : Option LogFormat :=
  all.find? fun format => Text.eqIgnoreAsciiCase format.name text

/-- The wording of a text that names no format, or no strategy. -/
def unknownName : String := "Matching variant not found"

/-- The format a document names, letter by letter. -/
def decode : Json.Decoder LogFormat := fun node => do
  let index ← Json.Decoder.bare (all.map name) node
  return if index = 0 then .json else .compact

/-- A format, written. -/
def toJson (format : LogFormat) : Json := .string format.name

end LogFormat

end FormatDaemon
