import FormatDaemon.Dialogue
import FormatDaemon.RequestOptions

/-!
# Discovering configuration

The engine is asked for the configuration of a file, and once more with the
configuration of last resort if it knows none.

* `discover`: the configuration of a file, if there is one.
-/

namespace FormatDaemon.Discovery

variable {ε : Type}

/-- Who tells of the discovery. -/
def target : String := "prettierd::discovery"

/-- Discovery is off. -/
def disabled : Event := .debug target "configuration discovery disabled"

/-- Configuration was found. -/
def discovered (file : Path) (found : Options) : Event :=
  .debug target "configuration discovered"
    [("file", .shown file.shown), ("keys", .count found.size)]

/-- The configuration of last resort is used. -/
def usingDefault (file : Path) : Event :=
  .debug target "no configuration found, using the default configuration file"
    [("default_config", .shown file.shown)]

/-- A query that reads its files afresh. -/
def fresh (config? : Option Path) (editorconfig : Bool) : ConfigQuery :=
  ⟨config?, editorconfig, false⟩

/-- Where the configuration of last resort is looked for: in the directory of
its file, or at the file itself if that has no directory. -/
def searchFrom (file : Path) : Path := file.parent?.getD file

/-- Asks for the configuration of last resort, if one is named. -/
def fallback (env : Environment) (engine : ε) (cwd : Path) (editorconfig : Bool) :
    Dialogue ε (Except EngineError (Option Options)) :=
  match env.defaultConfig? with
  | none => .done (.ok none)
  | some name =>
    let file := cwd.join (.ofText name)
    .tell (usingDefault file)
      (.ask (.perform engine (.resolveConfig (searchFrom file) (fresh (some file) editorconfig)))
        .done)

/-- Asks for the configuration of a file. -/
def search (env : Environment) (engine : ε) (cwd file : Path) (config? : Option Path)
    (editorconfig : Bool) : Dialogue ε (Except EngineError (Option Options)) :=
  .ask (.perform engine (.resolveConfig file (fresh config? editorconfig))) fun
    | .ok (some found) => .tell (discovered file found) (.done (.ok (some found)))
    | .ok none => fallback env engine cwd editorconfig
    | .error error => .done (.error error)

/-- The configuration of a file, if there is one. -/
def discover (env : Environment) (engine : ε) (cwd file : Path) (source : ConfigSource)
    (editorconfig : Bool) : Dialogue ε (Except EngineError (Option Options)) :=
  match source with
  | .disabled => .tell disabled (.done (.ok none))
  | .search => search env engine cwd file none editorconfig
  | .path text => search env engine cwd file (some (cwd.join (.ofText text))) editorconfig

end FormatDaemon.Discovery
