import FormatDaemon.FileTree
import FormatDaemon.Proofs.Stages

/-!
# What a search for an engine ends with

* `Resolution.IsShim`: which loader script a working directory has.
* `Resolution.Concluded`: what every call of a search has in common, and which of its calls
  decided how it ended.
* `Way.concluded`, `resolve_concluded`: **every search is concluded so, whatever is replied**.
-/

namespace FormatDaemon

variable {ε σ : Type}

/-- The module a call loads. -/
def Call.loads? : Call ε → Option Path
  | .load module .. => some module
  | .locate .. | .locateGlobal .. | .perform .. => none

namespace Resolution

/-! ### The loader script -/

/-- The loader script of a working directory: of the two names the first one that is a file. -/
inductive IsShim (IsFile : Path → Prop) (cwd : Path) : Option Path → Prop
  | common (there : IsFile (cwd.join (.ofText ".pnp.cjs"))) :
    IsShim IsFile cwd (some (cwd.join (.ofText ".pnp.cjs")))
  | plain (missing : ¬ IsFile (cwd.join (.ofText ".pnp.cjs")))
      (there : IsFile (cwd.join (.ofText ".pnp.js"))) :
    IsShim IsFile cwd (some (cwd.join (.ofText ".pnp.js")))
  | absent (missing : ¬ IsFile (cwd.join (.ofText ".pnp.cjs")))
      (also : ¬ IsFile (cwd.join (.ofText ".pnp.js"))) :
    IsShim IsFile cwd none

theorem isShim_shim? (isFile : Path → Bool) (cwd : Path) :
    IsShim (fun p => isFile p = true) cwd (shim? isFile cwd) := by
  have searched : shim? isFile cwd =
      if isFile (cwd.join (.ofText ".pnp.cjs")) then some (cwd.join (.ofText ".pnp.cjs"))
      else if isFile (cwd.join (.ofText ".pnp.js")) then some (cwd.join (.ofText ".pnp.js"))
      else none := by
    simp only [shim?, shimNames, List.map_cons, List.map_nil, List.find?_cons, List.find?_nil]
    cases isFile (cwd.join (.ofText ".pnp.cjs")) <;>
      cases isFile (cwd.join (.ofText ".pnp.js")) <;> rfl
  rw [searched]
  split
  next there => exact .common there
  next missing =>
    split
    next there => exact .plain missing there
    next also => exact .absent missing also

/-- Whether a path leads to a file, all links followed. What leads to a directory does not. -/
def LeadsToFile (tree : FileTree) (p : Path) : Prop :=
  ∃ place content executable, tree.find p = .ok (place, .file content executable)

theorem isFile_iff (tree : FileTree) (p : Path) : tree.isFile p = true ↔ LeadsToFile tree p := by
  unfold FileTree.isFile
  split
  next place content executable led => exact iff_of_true rfl ⟨place, content, executable, led⟩
  next other => exact iff_of_false nofun fun ⟨_, _, _, led⟩ => other _ _ _ led

theorem isShim_of_tree (tree : FileTree) (cwd : Path) :
    IsShim (LeadsToFile tree) cwd (shim? tree.isFile cwd) := by
  have same : (fun p => tree.isFile p = true) = LeadsToFile tree :=
    funext fun p => propext (isFile_iff tree p)
  rw [← same]
  exact isShim_shim? tree.isFile cwd

/-! ### The search -/

/-- A search for an engine as its calls and the replies to them show it. -/
structure Concluded (shim? : Option Path) (env : Environment) (start : Path) (ts : List (Turn ε))
    (out : Except EngineError (Option (ε × Path))) : Prop where
  /-- All calls have the same loader script and the same environment. -/
  alike : ∀ t ∈ ts, t.call = .locate start shim? env ∨ t.call = .locateGlobal shim? env ∨
    ∃ module, t.call = .load module shim? env
  /-- Just the modules that lookups gave are loaded. -/
  loads : (ts.map (·.call)).filterMap Call.loads? = ts.filterMap Turn.module?
  once : (ts.filterMap Turn.module?).length ≤ 1
  engine : ∀ engine module, out = .ok (some (engine, module)) ↔
    ⟨.load module shim? env, .ok (some engine)⟩ ∈ ts
  absent : out = .ok none ↔
    (env.localOnly = true ∧ ∃ error, ⟨.locate start shim? env, .error error⟩ ∈ ts) ∨
      ∃ module, ⟨.load module shim? env, .ok none⟩ ∈ ts
  failed : ∀ error, out = .error error ↔
    ⟨.locateGlobal shim? env, .error error⟩ ∈ ts ∨
      ∃ module, ⟨.load module shim? env, .error error⟩ ∈ ts

section Loaded

variable {reply : Except EngineError (Option ε)} {module : Path}

/-- A load that gives an engine ends the search with it and its module, no other load does. -/
theorem map_eq_ok_some {engine : ε} {other : Path} :
    reply.map (·.map (·, module)) = .ok (some (engine, other)) ↔
      other = module ∧ .ok (some engine) = reply := by
  match reply with
  | .ok (some loaded) =>
    simp only [Except.map, Option.map_some, Except.ok.injEq, Option.some.injEq, Prod.mk.injEq]
    rw [and_comm, eq_comm, @eq_comm _ loaded]
  | .ok none => simp [Except.map]
  | .error error => simp [Except.map]

theorem map_eq_ok_none : reply.map (·.map (·, module)) = .ok none ↔ .ok none = reply := by
  match reply with
  | .ok (some loaded) => simp [Except.map]
  | .ok none => simp [Except.map]
  | .error error => simp [Except.map]

theorem map_eq_error {error : EngineError} :
    reply.map (·.map (·, module)) = .error error ↔ .error error = reply := by
  match reply with
  | .ok (some loaded) => simp [Except.map]
  | .ok none => simp [Except.map]
  | .error other => simp [Except.map, eq_comm]

end Loaded

variable {shim? : Option Path} {env : Environment} {start : Path} {ts : List (Turn ε)}
  {out : Except EngineError (Option (ε × Path))}

/-- **Every search is concluded so.** -/
theorem Way.concluded (h : Way shim? env start ts out) : Concluded shim? env start ts out := by
  cases h with
  | confined error kept =>
    exact {
      alike := by simp
      loads := rfl
      once := Nat.zero_le 1
      engine := by simp
      absent := by simp [kept]
      failed := by simp }
  | nowhere first last free =>
    exact {
      alike := by simp
      loads := rfl
      once := Nat.zero_le 1
      engine := by simp
      absent := by simp [free]
      failed := by simp [eq_comm] }
  | loaded found reply =>
    cases found with
    | project module =>
      exact {
        alike := by simp
        loads := rfl
        once := Nat.le_refl 1
        engine := by simp [map_eq_ok_some]
        absent := by simp [map_eq_ok_none]
        failed := by simp [map_eq_error] }
    | everywhere error module free =>
      exact {
        alike := by simp
        loads := rfl
        once := Nat.le_refl 1
        engine := by simp [map_eq_ok_some]
        absent := by simp [map_eq_ok_none, free]
        failed := by simp [map_eq_error] }

/-- **Every search ends with the engine of the module it found, with none, or with the failure
of its last step, and asks everyone with one loader script and one environment**, whoever
replies. Only a file of the working directory is a loader script. -/
theorem resolve_concluded (isFile : Path → Bool) (env : Environment) (cwd start : Path)
    (c : Collaborators ε σ) (s : σ) :
    let search := resolve (ε := ε) isFile env cwd start
    (search.run c s).calls = (search.turns c s).map (·.call) ∧
      ∃ shim?, Concluded shim? env start (search.turns c s) (search.run c s).outcome ∧
        IsShim (fun p => isFile p = true) cwd shim? ∧
        ∀ tree : FileTree, isFile = tree.isFile → IsShim (LeadsToFile tree) cwd shim? := by
  intro search
  have course : search.Course (search.turns c s) (search.run c s).outcome :=
    Dialogue.course_run c search s
  refine ⟨Dialogue.calls_run c search s, shim? isFile cwd, (way_of_course course).concluded,
    isShim_shim? isFile cwd, ?_⟩
  rintro tree rfl
  exact isShim_of_tree tree cwd

end Resolution

end FormatDaemon
