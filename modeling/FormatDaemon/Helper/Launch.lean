import FormatDaemon.Environment
import FormatDaemon.Path
import FormatDaemon.SystemError

/-!
# Launching helpers

Modules are found and engines are run by short-lived helper processes. A helper
sees the environment of its request and nothing else.

* `Launch`: what is started; `Launch.ofScript` says how arguments are laid out.
* `Run`: what a helper did.
* `System`: who starts helpers and knows files.
-/

namespace FormatDaemon.Helper

/-- The scripts a helper runs. -/
inductive Script where
  /-- Prints where a package is, seen from a directory if one is given. -/
  | resolve
  /-- Reads one request and answers it. -/
  | bridge
  deriving DecidableEq, Repr

/-- An argument of a helper. -/
inductive Argument where
  | bytes (value : List UInt8)
  | script (s : Script)
  deriving DecidableEq, Repr

/-- An argument in words. -/
def Argument.text (s : String) : Argument := .bytes (Utf8.encode s)

/-- An argument that is a path. -/
def Argument.path (p : Path) : Argument := .bytes p.bytes

/-- A helper to start. -/
structure Launch where
  program : Path
  args : List Argument
  env : Environment
  /-- What the helper can read. -/
  input : List UInt8
  deriving DecidableEq, Repr

/-- The arguments that load a script before all others. -/
def preload : Option Path → List Argument
  | none => []
  | some shim => [.text "-r", .path shim]

/-- A helper that runs a script on operands, behind the loader script. -/
def Launch.ofScript (program : Path) (shim? : Option Path) (script : Script)
    (operands : List Argument) (env : Environment) (input : List UInt8) : Launch where
  program := program
  args := preload shim? ++ .text "-e" :: .script script :: operands
  env := env
  input := input

/-- How a helper came to its end. -/
inductive Ending where
  | exit (code : UInt8)
  | signal (number : Nat)
  deriving DecidableEq, Repr

/-- Whether a helper says that it did its work. -/
def Ending.isSuccess : Ending → Bool
  | .exit code => code = 0
  | .signal _ => false

/-- The exit status; a helper that a signal ended has none and counts as -1. -/
def Ending.status : Ending → Int
  | .exit code => code.toNat
  | .signal _ => -1

/-- What a helper did. -/
structure Run where
  stdout : List UInt8
  stderr : List UInt8
  ending : Ending
  /-- What the helper read of its input. -/
  taken : List UInt8
  /-- Why the input could not be handed over, if it could not. -/
  refused? : Option SystemError
  deriving DecidableEq, Repr

/-- Who starts helpers and knows files, with a state of its own. -/
structure System (σ : Type) where
  start : Launch → σ → Except SystemError Run × σ
  isFile : Path → σ → Bool

end FormatDaemon.Helper
