import FormatDaemon.Collaborators.Helpers
import FormatDaemon.Proofs.RequestCalls
import FormatDaemon.Proofs.Snapshot
import Mathlib.Data.List.Basic

/-!
# The helpers of a request

Every helper of a request is started in the same way: with the environment of the request
and behind the loader script of its directory.

* `Setup.launch?`: the helper a call starts; `launches_run`: **a dialogue starts one helper
  for each call, in their order**, but none to load an engine.
* `Setup.operands?`, `shimArguments`: what a helper is given.
* `launches_consistent`: **all helpers of a request agree on environment and loader
  script**.
-/

namespace FormatDaemon.Helper

variable {σ α : Type}

/-! ### One helper for each call -/

/-- The helper a call starts; loading an engine starts none. -/
def Setup.launch? (s : Setup) : Call Engine → Option Launch
  | .locate start shim? env => some (Lookup.launch s.program shim? (some start) env)
  | .locateGlobal shim? env => some (Lookup.launch s.program shim? s.globalPath? env)
  | .load .. => none
  | .perform engine operation => some (Exchange.launch s.program engine operation)

theorem launches_find (system : System σ) (s : Setup) (start? shim? : Option Path)
    (env : Environment) (m : Memory σ) :
    ∃ result, (find system s start? shim? env m).2.launches =
      m.launches ++ [(Lookup.launch s.program shim? start? env, result)] := by
  rcases hs : system.start (Lookup.launch s.program shim? start? env) m.system with
    ⟨result, state⟩
  refine ⟨result, ?_⟩
  simp only [find, Memory.start, Memory.hear, hs]
  cases result <;> rfl

theorem launches_perform (system : System σ) (s : Setup) (engine : Engine)
    (operation : Operation) (m : Memory σ) :
    ∃ result, (perform system s engine operation m).2.launches =
      m.launches ++ [(Exchange.launch s.program engine operation, result)] := by
  rcases hs : system.start (Exchange.launch s.program engine operation) m.system with
    ⟨result, state⟩
  refine ⟨result, ?_⟩
  simp only [perform, Memory.start, Memory.hear, hs]
  cases result <;> rfl

/-- A call starts its helper and no other. -/
theorem launches_reply (system : System σ) (s : Setup) (call : Call Engine) (m : Memory σ) :
    ∃ started, (reply system s call m).2.launches = m.launches ++ started ∧
      started.map Prod.fst = (s.launch? call).toList := by
  cases call with
  | locate start shim? env =>
    obtain ⟨result, h⟩ := launches_find system s (some start) shim? env m
    exact ⟨_, h, rfl⟩
  | locateGlobal shim? env =>
    obtain ⟨result, h⟩ := launches_find system s s.globalPath? shim? env m
    exact ⟨_, h, rfl⟩
  | load module shim? env => exact ⟨[], (List.append_nil _).symm, rfl⟩
  | perform engine operation =>
    obtain ⟨result, h⟩ := launches_perform system s engine operation m
    exact ⟨_, h, rfl⟩

/-- **A dialogue starts one helper for each call, in their order**, but none to load. -/
theorem launches_run (system : System σ) (s : Setup) (d : Dialogue Engine α) (m : Memory σ) :
    ∃ started, (d.run (collaborators system s) m).memory.launches = m.launches ++ started ∧
      started.map Prod.fst = (d.run (collaborators system s) m).calls.filterMap s.launch? := by
  induction d generalizing m with
  | done a => exact ⟨[], (List.append_nil _).symm, rfl⟩
  | tell event next ih => exact ih _
  | ask call next ih =>
    obtain ⟨first, hf, launched⟩ := launches_reply system s call m
    obtain ⟨rest, hr, later⟩ := ih ((collaborators system s).reply call m).1
      ((collaborators system s).reply call m).2
    refine ⟨first ++ rest, ?_, ?_⟩
    · rw [← List.append_assoc, ← hf]
      exact hr
    · rw [List.map_append, launched, later]
      simp only [Dialogue.run, List.filterMap_cons]
      cases s.launch? call <;> rfl

/-! ### What a helper is given -/

/-- What a call gives its helper behind the loader script. -/
def Setup.operands? (s : Setup) : Call Engine → Option (List Argument)
  | .locate start .. => some [.text "-e", .script .resolve, .text "prettier", .path start]
  | .locateGlobal .. =>
    some ([.text "-e", .script .resolve, .text "prettier"] ++ s.globalPath?.toList.map .path)
  | .load .. => none
  | .perform .. => some [.text "-e", .script .bridge]

/-- The loader script of a directory, as arguments. -/
def shimArguments (isFile : Path → Bool) (cwd : Path) : List Argument :=
  if isFile (cwd.join (.ofText ".pnp.cjs")) then
    [.text "-r", .path (cwd.join (.ofText ".pnp.cjs"))]
  else if isFile (cwd.join (.ofText ".pnp.js")) then
    [.text "-r", .path (cwd.join (.ofText ".pnp.js"))]
  else []

theorem preload_shim? (isFile : Path → Bool) (cwd : Path) :
    preload (Resolution.shim? isFile cwd) = shimArguments isFile cwd := by
  unfold Resolution.shim? shimArguments Resolution.shimNames
  simp only [List.map_cons, List.map_nil, List.find?_cons]
  cases isFile (cwd.join (.ofText ".pnp.cjs")) with
  | true => rfl
  | false => cases isFile (cwd.join (.ofText ".pnp.js")) <;> rfl

/-- A call that passes a loader script and an environment on to its helper. -/
def Bears (shim? : Option Path) (env : Environment) : Call Engine → Prop
  | .locate _ s e | .locateGlobal s e | .load _ s e => s = shim? ∧ e = env
  | .perform engine _ => engine.shim? = shim? ∧ engine.env = env

theorem launch?_of_bears {s : Setup} {shim? : Option Path} {env : Environment}
    {call : Call Engine} (h : Bears shim? env call) :
    (s.launch? call).map (fun l => (l.program, l.env, l.args)) =
      (s.operands? call).map fun operands => (s.program, env, preload shim? ++ operands) := by
  cases call with
  | locate | locateGlobal => obtain ⟨rfl, rfl⟩ := h; rfl
  | load => rfl
  | perform => obtain ⟨rfl, rfl⟩ := h; rfl

/-- An engine remembers what it was loaded with. -/
def Remembers : Turn Engine → Prop
  | ⟨.load module shim? env, .ok (some engine)⟩ => engine = ⟨module, shim?, env⟩
  | _ => True

theorem remembers_reply (system : System σ) (s : Setup) (call : Call Engine) (m : Memory σ) :
    Remembers ⟨call, ((collaborators system s).reply call m).1⟩ := by
  cases call with
  | load module shim? env =>
    change Remembers ⟨.load module shim? env, .ok (load system module shim? env m)⟩
    unfold load
    split
    · rfl
    · trivial
  | locate | locateGlobal | perform => trivial

end FormatDaemon.Helper

namespace FormatDaemon

open Helper

variable {σ : Type}

/-- All calls of a request bear its environment and the loader script of its directory. -/
theorem Request.Asks.bears {isFile : Path → Bool} {r : Request} {args : Arguments}
    {ts : List (Turn Engine)} (remembered : ∀ t ∈ ts, Remembers t) {call : Call Engine}
    (h : Asks isFile r args ts call) : Bears (Resolution.shim? isFile r.cwd) r.env call := by
  have engines : ∀ {engine}, Loaded isFile r ts engine →
      engine.shim? = Resolution.shim? isFile r.cwd ∧ engine.env = r.env := by
    rintro engine ⟨module, hm⟩
    obtain rfl : engine = ⟨module, _, _⟩ := remembered _ hm
    exact ⟨rfl, rfl⟩
  cases h with
  | locate | locateGlobal | load => exact ⟨rfl, rfl⟩
  | ignore loaded | first loaded | second loaded | final loaded => exact engines loaded

/-- **All helpers of a request agree on environment and loader script.** There is one for each
call, in their order, but none to load an engine. Each has the variables of the request and no
others, and after the loader script of the directory, if there is one, what its call says. -/
theorem Invocation.launches_consistent (isFile : Path → Bool) (base : Base) (i : Invocation)
    (system : System σ) (setup : Setup) (m : Memory σ) :
    let ending := (i.run isFile base).run (collaborators system setup) m
    ∃ started, ending.memory.launches = m.launches ++ started ∧
      started.map (fun l => (l.1.program, l.1.env, l.1.args)) =
        ending.calls.filterMap (fun call => (setup.operands? call).map fun operands =>
          (setup.program, base.snapshot i.clientEnv,
            shimArguments isFile i.cwd ++ operands)) ∧
      ∀ l ∈ started, ∀ name,
        l.1.env.get? name = (i.clientEnv.get? name).getD (base.value? name) := by
  intro ending
  obtain ⟨started, grown, launched⟩ := launches_run system setup (i.run isFile base) m
  have bears : ∀ call ∈ ending.calls,
      Bears (Resolution.shim? isFile i.cwd) (base.snapshot i.clientEnv) call := by
    intro call hc
    rw [Dialogue.calls_run, turns_run] at hc
    obtain ⟨t, ht, rfl⟩ := List.mem_map.1 hc
    obtain ⟨args, asks⟩ := Request.asks_run isFile (i.request base) _ m t ht
    exact asks.bears (Dialogue.forall_turns (remembers_reply system setup) _ m)
  have agreed : started.map (fun l => (l.1.program, l.1.env, l.1.args)) =
      ending.calls.filterMap (fun call => (setup.operands? call).map fun operands =>
        (setup.program, base.snapshot i.clientEnv, shimArguments isFile i.cwd ++ operands)) := by
    calc started.map (fun l => (l.1.program, l.1.env, l.1.args))
      _ = (started.map Prod.fst).map (fun l => (l.program, l.env, l.args)) := by
        rw [List.map_map]
        rfl
      _ = ending.calls.filterMap fun call =>
          (setup.launch? call).map fun l => (l.program, l.env, l.args) := by
        rw [launched, List.map_filterMap]
      _ = _ := by
        rw [← preload_shim?]
        exact List.filterMap_congr fun call hc => launch?_of_bears (bears call hc)
  refine ⟨started, grown, agreed, fun l hl name => ?_⟩
  have listed := List.mem_map_of_mem (f := fun l => (l.1.program, l.1.env, l.1.args)) hl
  rw [agreed] at listed
  obtain ⟨call, -, given⟩ := List.mem_filterMap.1 listed
  obtain ⟨operands, -, same⟩ := Option.map_eq_some_iff.1 given
  have own : base.snapshot i.clientEnv = l.1.env := congrArg (·.2.1) same
  rw [← own, Base.get?_snapshot]

/-- The lookup and the first question behind a loader script, with the variables of the daemon
as the client changed them. -/
example :
    let i : Invocation := ⟨.ofText "/p", ["a.js"], Table.ofList [("A", some "2"), ("B", none)], "x"⟩
    let base := Base.fixed (Table.ofList [("A", "1"), ("B", "1"), ("C", "1")])
    let found : Run := ⟨Utf8.encode "/p/engine.js\n", [], .exit 0, [], none⟩
    let ending := (i.run (· = .ofText "/p/.pnp.cjs") base).run
      (collaborators ⟨fun _ s => (.ok found, s), fun _ _ => true⟩ ⟨.ofText "node", none⟩)
      ⟨(), [], []⟩
    let shim := [Argument.text "-r", .path (.ofText "/p/.pnp.cjs"), .text "-e"]
    ending.memory.launches.map (fun l => (l.1.args, l.1.env.vars.entries)) =
      [(shim ++ [.script .resolve, .text "prettier", .path (.ofText "/p")],
          [("A", "2"), ("C", "1")]),
        (shim ++ [.script .bridge], [("A", "2"), ("C", "1")])] := by
  decide +kernel

end FormatDaemon
