import FormatDaemon.Engine.Error
import FormatDaemon.Engine.Operation
import FormatDaemon.Environment
import FormatDaemon.Log

/-!
# Dialogues

A request is carried out by asking others: who finds the engine's module, who
loads it, and the engine itself. What is asked next depends on the answers, so a
request is a tree of calls whose branches are the answers.

* `Call`, `Call.Answer`: what may be asked, and the answers.
* `Dialogue`: the tree, with the events told between the calls.
* `Dialogue.bind`: one dialogue after another.
* `Dialogue.run`: a dialogue with collaborators that may answer anything and may
  remember; the calls come out in the order in which they were made.
-/

namespace FormatDaemon

/-- A call to a collaborator. `ε` is what loading a module yields. -/
inductive Call (ε : Type) where
  | locate (start : Path) (shim? : Option Path) (env : Environment)
  | locateGlobal (shim? : Option Path) (env : Environment)
  | load (module : Path) (shim? : Option Path) (env : Environment)
  | perform (engine : ε) (operation : Operation)

/-- What a call is answered with, unless it fails. -/
abbrev Call.Answer {ε : Type} : Call ε → Type
  | .locate .. | .locateGlobal .. => Path
  | .load .. => Option ε
  | .perform _ operation => operation.Answer

/-- The answer to a call, or why there is none. -/
abbrev Call.Reply {ε : Type} (call : Call ε) : Type := Except EngineError call.Answer

/-- A tree of calls and events that ends in outcomes. -/
inductive Dialogue (ε : Type) (α : Type) where
  | done (a : α)
  | tell (event : Event) (next : Dialogue ε α)
  | ask (call : Call ε) (next : call.Reply → Dialogue ε α)

namespace Dialogue

variable {ε σ α β : Type}

/-- One dialogue after another. -/
def bind : Dialogue ε α → (α → Dialogue ε β) → Dialogue ε β
  | .done a, f => f a
  | .tell event next, f => .tell event (next.bind f)
  | .ask call next, f => .ask call fun reply => (next reply).bind f

instance : Monad (Dialogue ε) where
  pure := .done
  bind := bind

/-- Some events before a dialogue. -/
def tellAll (events : List Event) (next : Dialogue ε α) : Dialogue ε α :=
  events.foldr .tell next

/-- The next dialogue for a success; a failure ends the dialogue. -/
def andThen {κ κ' : Type} (raise : κ → κ') (d : Dialogue ε (Except κ α))
    (f : α → Dialogue ε (Except κ' β)) : Dialogue ε (Except κ' β) :=
  d.bind fun
    | .ok a => f a
    | .error e => .done (.error (raise e))

end Dialogue

/-- Collaborators with a memory: what they answer, and what they make of events. -/
structure Collaborators (ε σ : Type) where
  reply : (call : Call ε) → σ → call.Reply × σ
  hear : Event → σ → σ

namespace Dialogue

variable {ε σ α β : Type}

/-- A finished dialogue: its outcome, the calls made, and what is remembered. -/
structure Ending (ε σ α : Type) where
  outcome : α
  calls : List (Call ε)
  memory : σ

/-- A dialogue with collaborators. -/
def run (c : Collaborators ε σ) : Dialogue ε α → σ → Ending ε σ α
  | .done a, s => ⟨a, [], s⟩
  | .tell event next, s => next.run c (c.hear event s)
  | .ask call next, s =>
    let (reply, s) := c.reply call s
    let rest := (next reply).run c s
    { rest with calls := call :: rest.calls }

end Dialogue

end FormatDaemon
