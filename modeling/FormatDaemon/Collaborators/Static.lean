import FormatDaemon.Dialogue
import FormatDaemon.Resolution

/-!
# Static collaborators

Collaborators that need no other program: two fixed modules, and one engine
that is given away on the first load.

* `Static.lending`: who answers, whatever the engine is.
* `Static.collaborators`: the same with an engine of fixed answers.
* `Static.Memory`: what was looked up, loaded and asked so far.
-/

namespace FormatDaemon.Static

/-- The answers of an engine. -/
structure Engine where
  discovered? : Option Options := none
  explicit? : Option Options := none
  formatted? : Option String := none
  alreadyFormatted : Bool := false
  ignored : Bool := false

/-- A lookup of a module. -/
inductive Lookup where
  | project (start : Path) (shim? : Option Path)
  | everywhere
  deriving DecidableEq, Repr

/-- The modules that are found. -/
structure Modules where
  project? : Option Path
  global? : Option Path

/-- What happened so far, and the engine as long as it was not given away. -/
structure Memory (ε : Type := Engine) where
  engine? : Option ε
  lookups : List Lookup := []
  loaded : List Path := []
  operations : List Operation := []
  told : List Event := []

/-- The module that was found, or that none was. -/
def found (module? : Option Path) (origin : String) : Except EngineError Path :=
  match module? with
  | some module => .ok module
  | none => .error (.notFound Resolution.package origin "not installed")

/-- The answer of an engine. -/
def Engine.answer (e : Engine) : (operation : Operation) → operation.Answer
  | .resolveConfig _ query => if query.config?.isSome then e.explicit? else e.discovered?
  | .fileInfo .. => ⟨e.ignored, none⟩
  | .format text _ => e.formatted?.getD text
  | .check .. => e.alreadyFormatted

/-- What engines answer to a question, behind the questions before it. -/
abbrev Answers (ε : Type) : Type :=
  ε → List Operation → (operation : Operation) → Except EngineError operation.Answer

/-- An engine with fixed answers answers whatever it was asked before. -/
def Engine.answers : Answers Engine := fun e _ operation => .ok (e.answer operation)

/-- The reply to a call, and what is remembered. -/
def reply {ε : Type} (answers : Answers ε) (modules : Modules) :
    (call : Call ε) → Memory ε → call.Reply × Memory ε
  | .locate start shim? _, m =>
    (found modules.project? start.shown, { m with lookups := m.lookups ++ [.project start shim?] })
  | .locateGlobal _ _, m =>
    (found modules.global? "global install", { m with lookups := m.lookups ++ [.everywhere] })
  | .load module _ _, m =>
    (.ok m.engine?, { m with engine? := none, loaded := m.loaded ++ [module] })
  | .perform engine operation, m =>
    (answers engine m.operations operation, { m with operations := m.operations ++ [operation] })

/-- The collaborators over two fixed modules and one engine. -/
def lending {ε : Type} (answers : Answers ε) (modules : Modules) :
    Collaborators ε (Memory ε) where
  reply := reply answers modules
  hear event m := { m with told := m.told ++ [event] }

/-- The collaborators over two fixed modules and one engine with fixed answers. -/
def collaborators (modules : Modules) : Collaborators Engine Memory :=
  lending Engine.answers modules

end FormatDaemon.Static
