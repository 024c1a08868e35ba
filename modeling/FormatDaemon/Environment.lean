import FormatDaemon.Table
import FormatDaemon.Text.Blank
import FormatDaemon.Text.Utf8

/-!
# Environments

A request sees one environment: that of the daemon with the client's changes on
top, taken when the request arrives.

* `layered`: the base, then the changes; a change without a value removes.
* `captured`: the same over a base of bytes, of which only text is kept.
* `flag`: a variable read as a switch.
* `localOnly`, `defaultConfig?`: the two variables the daemon looks at.
-/

namespace FormatDaemon

/-- The variables a request sees. -/
structure Environment where
  vars : Table String
  deriving DecidableEq, Repr

namespace Environment

/-- The switch that keeps the engine search within the project. -/
def localOnlyName : String := "PRETTIERD_LOCAL_PRETTIER_ONLY"

/-- The variable with the configuration file of last resort. -/
def defaultConfigName : String := "PRETTIERD_DEFAULT_CONFIG"

/-- One change on top of a table of variables. -/
def change (vars : Table String) : String × Option String → Table String
  | (name, some value) => vars.insert name value
  | (name, none) => vars.erase name

/-- The base with the changes on top, both in order. -/
def layered (base : List (String × String)) (changes : List (String × Option String)) :
    Environment :=
  ⟨changes.foldl change (Table.ofList base)⟩

/-- A variable of bytes, if both sides are text. -/
def textVariable? : List UInt8 × List UInt8 → Option (String × String)
  | (name, value) => do return ((← Utf8.decode? name), (← Utf8.decode? value))

/-- The environment of a process with the changes on top; variables that are
not text are left out. -/
def captured (process : List (List UInt8 × List UInt8))
    (changes : List (String × Option String)) : Environment :=
  layered (process.filterMap textVariable?) changes

/-- The value of a variable. -/
def get? (env : Environment) (name : String) : Option String := env.vars.get? name

/-- The spellings of a switch that is off. -/
def offSpellings : List String := ["0", "false", "no", "off"]

/-- Whether a value switches on: it is not blank and, trimmed, spells no "off". -/
def isOn (value : String) : Bool :=
  let trimmed := Text.trim value
  trimmed != "" && !offSpellings.any (Text.eqIgnoreAsciiCase trimmed)

/-- A variable as a switch; a missing one is off. -/
def flag (env : Environment) (name : String) : Bool := (env.get? name).any isOn

/-- Whether the engine must come from the project. -/
def localOnly (env : Environment) : Bool := env.flag localOnlyName

/-- The configuration file of last resort, if one is named. -/
def defaultConfig? (env : Environment) : Option String :=
  (env.get? defaultConfigName).filter (· != "")

end Environment

end FormatDaemon
