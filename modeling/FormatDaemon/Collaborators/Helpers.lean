import FormatDaemon.Dialogue
import FormatDaemon.Helper.Exchange

/-!
# Helpers as collaborators

The collaborators of a real request: modules are looked up and engines are
asked through helpers, one for each call. Loading a module starts none.

* `Helper.Setup`: which program runs the helpers, and where the global install is.
* `Helper.collaborators`: who answers; `Helper.Memory`: what happened so far.
-/

namespace FormatDaemon.Helper

variable {σ : Type}

/-- Which program runs the helpers, and the directory of the global install; the
program itself knows one if none is given. -/
structure Setup where
  program : Path
  globalPath? : Option Path

/-- What happened so far: the helpers that were to be started and how that went,
and what was told. -/
structure Memory (σ : Type) where
  system : σ
  launches : List (Launch × Except SystemError Run) := []
  told : List Event := []

namespace Memory

/-- Some more events. -/
def hear (m : Memory σ) (events : List Event) : Memory σ := { m with told := m.told ++ events }

/-- Starts a helper. -/
def start (system : System σ) (launch : Launch) (m : Memory σ) :
    Except SystemError Run × Memory σ :=
  let (result, state) := system.start launch m.system
  (result, { m with system := state, launches := m.launches ++ [(launch, result)] })

end Memory

/-- No helper could be started. -/
def Setup.notStarted (s : Setup) (cause : SystemError) : EngineError :=
  .spawnFailed s.program.shown cause

/-- Looks a module up, from a directory or in the global install. -/
def find (system : System σ) (s : Setup) (start? shim? : Option Path) (env : Environment)
    (m : Memory σ) : Except EngineError Path × Memory σ :=
  match (m.hear [Lookup.started start?]).start system
      (Lookup.launch s.program shim? start? env) with
  | (.ok run, m) => (Lookup.outcome start? run, m)
  | (.error cause, m) => (.error (s.notStarted cause), m)

/-- The engine of a module. Without a loader script the module has to be a file;
a loader script may know modules that are none. -/
def load (system : System σ) (module : Path) (shim? : Option Path) (env : Environment)
    (m : Memory σ) : Option Engine :=
  if shim?.isSome || system.isFile module m.system then some ⟨module, shim?, env⟩ else none

/-- Asks an engine. -/
def perform (system : System σ) (s : Setup) (engine : Engine) (operation : Operation)
    (m : Memory σ) : Except EngineError operation.Answer × Memory σ :=
  match (m.hear [Exchange.started engine operation]).start system
      (Exchange.launch s.program engine operation) with
  | (.ok run, m) =>
    (Exchange.outcome s.program engine operation run,
      m.hear (Exchange.events (Exchange.line engine operation) run))
  | (.error cause, m) => (.error (s.notStarted cause), m)

/-- The reply to a call, and what happened. -/
def reply (system : System σ) (s : Setup) : (call : Call Engine) → Memory σ →
    call.Reply × Memory σ
  | .locate start shim? env, m => find system s (some start) shim? env m
  | .locateGlobal shim? env, m => find system s s.globalPath? shim? env m
  | .load module shim? env, m => (.ok (load system module shim? env m), m)
  | .perform engine operation, m => perform system s engine operation m

/-- The collaborators of real requests. -/
def collaborators (system : System σ) (s : Setup) : Collaborators Engine (Memory σ) where
  reply := reply system s
  hear event m := m.hear [event]

end FormatDaemon.Helper
