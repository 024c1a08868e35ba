import FormatDaemon.Json.Basic
import FormatDaemon.Log
import FormatDaemon.Flag.Token

/-!
# Options of a request

Three names of the option table steer the request itself; the rest belongs to
the engine. A value that cannot be used leaves the default and is reported.

* `ConfigSource`, `Precedence`: what two of the names choose.
* `RequestOptions.ofTokens`: the options of a list of tokens.
* `RequestOptions.reports`: the events that tell of unusable values.
-/

namespace FormatDaemon

/-- Where the configuration of a file comes from. -/
inductive ConfigSource where
  | search
  | disabled
  | path (text : String)
  deriving DecidableEq, Repr

/-- Which side wins where options and configuration disagree. -/
inductive Precedence where
  | cliOverride
  | fileOverride
  | preferFile
  deriving DecidableEq, Repr

namespace Precedence

/-- The name of a strategy. -/
def name : Precedence → String
  | .cliOverride => "cli-override"
  | .fileOverride => "file-override"
  | .preferFile => "prefer-file"

/-- All strategies. -/
def all : List Precedence := [.cliOverride, .fileOverride, .preferFile]

/-- The strategy with a name, letter by letter. -/
def ofName? (text : String) : Option Precedence := all.find? (·.name == text)

end Precedence

/-- The options of a request. -/
structure RequestOptions where
  config : ConfigSource
  precedence : Precedence
  editorconfig : Bool
  engine : Table Flag.Value
  deriving DecidableEq, Repr

namespace RequestOptions

/-- The option that names or disables configuration. -/
def configKey : String := "config"

/-- The option that names the strategy. -/
def precedenceKey : String := "configPrecedence"

/-- The switch of the editor's configuration. -/
def editorconfigKey : String := "editorconfig"

/-- Who reports on options. -/
def target : String := "prettierd::options"

/-- The source of configuration a value chooses, if it is usable. -/
def source? : Flag.Value → Option ConfigSource
  | .switch false => some .disabled
  | .switch true => none
  | .text s => some (.path s)
  | .number n => some (.path n.text)

/-- The strategy a value chooses, if it is usable. -/
def precedence? : Flag.Value → Option Precedence
  | .text s => Precedence.ofName? s
  | .switch _ | .number _ => none

/-- The switch a value is, if it is usable. -/
def switch? : Flag.Value → Option Bool
  | .switch on => some on
  | .number _ | .text _ => none

/-- What the option table says about one name: the default without an entry or
with an unusable one. -/
def lift {α : Type} (table : Table Flag.Value) (key : String)
    (read? : Flag.Value → Option α) (default : α) : α :=
  ((table.get? key).bind read?).getD default

/-- The entry under a name that cannot be used. -/
def unusable? {α : Type} (table : Table Flag.Value) (key : String)
    (read? : Flag.Value → Option α) : Option Flag.Value :=
  (table.get? key).filter fun value => (read? value).isNone

/-- The options of a table. -/
def ofTable (table : Table Flag.Value) : RequestOptions where
  config := lift table configKey source? .search
  precedence := lift table precedenceKey precedence? .cliOverride
  editorconfig := lift table editorconfigKey switch? true
  engine := ((table.erase configKey).erase precedenceKey).erase editorconfigKey

/-- The options of a list of tokens. -/
def ofTokens (tokens : List String) : RequestOptions := ofTable (Flag.tableOf tokens)

/-- The report on a configuration option without a path. -/
def configReport : Event :=
  .warn target "--config was given without a path; searching for configuration instead"

/-- The report on an unknown strategy. -/
def precedenceReport (value : Flag.Value) : Event :=
  .warn target "unrecognised --config-precedence; using cli-override"
    [("value", .shown value.shown)]

/-- The report on a switch with a value. -/
def editorconfigReport (value : Flag.Value) : Event :=
  .warn target "--editorconfig takes no value; keeping the default"
    [("value", .shown value.shown)]

/-- The reports on the unusable values of a table. -/
def reportsOf (table : Table Flag.Value) : List Event :=
  ((unusable? table configKey source?).map fun _ => configReport).toList ++
    ((unusable? table precedenceKey precedence?).map precedenceReport).toList ++
    ((unusable? table editorconfigKey switch?).map editorconfigReport).toList

/-- The reports on the unusable values of a list of tokens. -/
def reports (tokens : List String) : List Event := reportsOf (Flag.tableOf tokens)

/-- The options that go to the engine. -/
def engineOptions (o : RequestOptions) : Options := o.engine.map Flag.Value.toJson

end RequestOptions

/-- Options and discovered configuration as one object: a value comes whole from
the side that wins. -/
def Precedence.merge (p : Precedence) (cli : Options) (discovered? : Option Options) : Options :=
  match discovered?, p with
  | none, _ => cli
  | some discovered, .preferFile => discovered
  | some discovered, .fileOverride => cli.overlay discovered
  | some discovered, .cliOverride => discovered.overlay cli

end FormatDaemon
