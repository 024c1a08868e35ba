import FormatDaemon.Dialogue

/-!
# Planned collaborators

Collaborators whose answers are laid down beforehand: each kind of call has a
list of replies, of which the last one stays.

* `Plan`: the replies; `Plan.collaborators`: who gives them, and remembers what
  was told.
-/

namespace FormatDaemon

/-- The next reply of a list, and the list after it; the last reply stays. -/
def nextReply {α : Type} (default : α) : List α → α × List α
  | [] => (default, [])
  | [reply] => (reply, [reply])
  | reply :: rest => (reply, rest)

/-- A reply laid down: a failure, an answer, or no answer that fits. -/
abbrev Planned (α : Type) : Type := Except EngineError (Option α)

/-- The replies of all kinds of calls that are still to come. -/
structure Plan where
  locate : List (Planned Path) := []
  locateGlobal : List (Planned Path) := []
  load : List (Planned Bool) := []
  fileInfo : List (Planned Bool) := []
  resolveConfig : List (Planned Options) := []
  format : List (Planned String) := []
  check : List (Planned Bool) := []

namespace Plan

/-- What planned collaborators remember. -/
structure Memory where
  plan : Plan
  told : List Event := []

/-- Whether loading yields an engine. -/
def engine? (usable : Bool) : Option Unit := if usable then some () else none

/-- The reply to a call, and the plan after it. Without a plan a module is found
and is an engine that ignores nothing, knows no configuration, leaves texts as
they are and calls none of them formatted. -/
def reply (p : Plan) : (call : Call Unit) → call.Reply × Plan
  | .locate .. =>
    let (r, rest) := nextReply (.ok none) p.locate
    (r.map (·.getD (.ofText "/local/prettier.cjs")), { p with locate := rest })
  | .locateGlobal .. =>
    let (r, rest) := nextReply (.ok none) p.locateGlobal
    (r.map (·.getD (.ofText "/global/prettier.cjs")), { p with locateGlobal := rest })
  | .load .. =>
    let (r, rest) := nextReply (.ok none) p.load
    (r.map fun usable? => engine? (usable?.getD true), { p with load := rest })
  | .perform _ (.fileInfo ..) =>
    let (r, rest) := nextReply (.ok none) p.fileInfo
    (r.map fun ignored? => ⟨ignored?.getD false, none⟩, { p with fileInfo := rest })
  | .perform _ (.resolveConfig ..) =>
    let (r, rest) := nextReply (.ok none) p.resolveConfig
    (r, { p with resolveConfig := rest })
  | .perform _ (.format text _) =>
    let (r, rest) := nextReply (.ok none) p.format
    (r.map (·.getD text), { p with format := rest })
  | .perform _ (.check ..) =>
    let (r, rest) := nextReply (.ok none) p.check
    (r.map (·.getD false), { p with check := rest })

/-- The collaborators of a plan. -/
def collaborators : Collaborators Unit Memory where
  reply call m :=
    let (r, plan) := m.plan.reply call
    (r, { m with plan := plan })
  hear event m := { m with told := m.told ++ [event] }

end Plan

end FormatDaemon
