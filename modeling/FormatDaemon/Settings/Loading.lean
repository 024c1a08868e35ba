import FormatDaemon.Settings.Basic
import FormatDaemon.Settings.File
import FormatDaemon.Settings.Variable

/-!
# Loading settings

Settings come in layers, each over the ones before: the defaults, a settings file,
and the variables of the process.

* `Settings.load`: the settings of a process, or why they cannot be had.
-/

namespace FormatDaemon.Settings

/-- Why settings cannot be had. -/
inductive LoadError where
  | file (path : Path) (fault : File.Fault)
  | field (fault : Json.Fault)

/-- The wording. -/
def LoadError.message : LoadError → String
  | .file path fault => path.shown ++ ": " ++ fault.message
  | .field fault => fault.message

/-- The settings of the layers above the defaults. -/
def ofLayers (file? : Option Layer) (upper : Layer) : Except LoadError Settings :=
  let all := upper.over (file?.getD .empty)
  (Json.Decoder.ofValue decode (.ofTable all)).mapError .field

/-- The settings of a process with these files and variables. -/
def load (tree : FileTree) (vars : List (List UInt8 × List UInt8)) : Except LoadError Settings :=
  match File.firstLayer tree (File.candidates vars) with
  | .ok file? => ofLayers file? (Variable.layer vars)
  | .error (path, fault) => .error (.file path fault)

end FormatDaemon.Settings
