import FormatDaemon.Dialogue

/-!
# Finding an engine

The engine of a file is the one its project uses. It is looked up from the
directory of the file; if that fails, from the global install, unless the
request insists on the project's own engine.

* `shim?`: the loader script of a plug-and-play project.
* `resolve`: the search, which ends with an engine and its module, with none, or
  with the failure of the last step.
-/

namespace FormatDaemon.Resolution

variable {ε : Type}

/-- The package an engine comes in. -/
def package : String := "prettier"

/-- The names a loader script may have, in the order of search. -/
def shimNames : List String := [".pnp.cjs", ".pnp.js"]

/-- The loader script in a directory, if there is one. -/
def shim? (isFile : Path → Bool) (cwd : Path) : Option Path :=
  (shimNames.map fun name => cwd.join (.ofText name)).find? isFile

/-- Who tells of the search. -/
def target : String := "prettierd_engine::resolver"

/-- The details of a failed search in a directory. -/
def failure (start : Path) (error : EngineError) : List (String × Detail) :=
  [("start_dir", .shown start.shown), ("error", .shown error.message)]

/-- The project has no engine, and no other one will do. -/
def noLocalEngine (start : Path) (error : EngineError) : Event :=
  .debug target "no local engine and local-only mode is set" (failure start error)

/-- The project has no engine. -/
def tryingGlobal (start : Path) (error : EngineError) : Event :=
  .debug target "local engine resolution failed, trying global install" (failure start error)

/-- A module that is no engine. -/
def notUsable (module : Path) : Event :=
  .debug target "resolved path holds no usable engine" [("resolved", .shown module.shown)]

/-- A module that is an engine. -/
def loaded (module : Path) : Event :=
  .debug target "engine loaded" [("resolved", .shown module.shown)]

/-- Loads the module that was found. -/
def load (shim? : Option Path) (env : Environment) (module : Path) :
    Dialogue ε (Except EngineError (Option (ε × Path))) :=
  .ask (.load module shim? env) fun
    | .ok (some engine) => .tell (loaded module) (.done (.ok (some (engine, module))))
    | .ok none => .tell (notUsable module) (.done (.ok none))
    | .error error => .done (.error error)

/-- Searches the global install. -/
def resolveGlobal (shim? : Option Path) (env : Environment) :
    Dialogue ε (Except EngineError (Option (ε × Path))) :=
  .ask (.locateGlobal shim? env) fun
    | .ok module => load shim? env module
    | .error error => .done (.error error)

/-- Searches from a directory, with a given loader script. -/
def resolveWith (shim? : Option Path) (env : Environment) (start : Path) :
    Dialogue ε (Except EngineError (Option (ε × Path))) :=
  .ask (.locate start shim? env) fun
    | .ok module => load shim? env module
    | .error error =>
      if env.localOnly then .tell (noLocalEngine start error) (.done (.ok none))
      else .tell (tryingGlobal start error) (resolveGlobal shim? env)

/-- Searches from a directory, with the loader script of the working directory. -/
def resolve (isFile : Path → Bool) (env : Environment) (cwd start : Path) :
    Dialogue ε (Except EngineError (Option (ε × Path))) :=
  resolveWith (shim? isFile cwd) env start

end FormatDaemon.Resolution
