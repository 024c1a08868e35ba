import FormatDaemon.Invocation
import FormatDaemon.Proofs.DispatchedOptions

/-!
# The calls of a request

Which calls a request can make at all, whoever replies. Everything in a call is fixed by
the request, but for the answers it hands on: the module that was found, the engine that
was loaded, the configuration that was discovered.

* `Request.Loaded`: the engines a request was given.
* `Request.Asks`: the calls a request can make.
* `Way.asks`, `asks_run`: **a request makes no other calls**.
* `withEngine_congr`: what of the arguments counts once there is an engine.
-/

namespace FormatDaemon

variable {ε σ : Type}

/-- The engine of a search that ends with one was loaded in it. -/
theorem Resolution.Way.mem_of_found {shim? : Option Path} {env : Environment} {start : Path}
    {ts : List (Turn ε)} {engine : ε} {module : Path}
    (h : Way shim? env start ts (.ok (some (engine, module)))) :
    ⟨.load module shim? env, .ok (some engine)⟩ ∈ ts := by
  generalize hout : (Except.ok (some (engine, module)) :
    Except EngineError (Option (ε × Path))) = out at h
  cases h with
  | confined => cases hout
  | nowhere => cases hout
  | loaded found reply =>
    match reply with
    | .ok (some _) =>
      obtain ⟨rfl, rfl⟩ := Prod.mk.inj (Option.some.inj (Except.ok.inj hout))
      exact List.mem_append_right _ List.mem_cons_self
    | .ok none => cases hout
    | .error _ => cases hout

namespace Request

variable {isFile : Path → Bool} {r : Request} {args : Arguments} {ts us : List (Turn ε)}
  {out : Outcome} {engine : ε}

/-- Some turn loaded this engine. -/
def Loaded (isFile : Path → Bool) (r : Request) (ts : List (Turn ε)) (engine : ε) : Prop :=
  ∃ module, ⟨.load module (Resolution.shim? isFile r.cwd) r.env, .ok (some engine)⟩ ∈ ts

theorem loaded_of_search {module : Path}
    (search : Resolution.Way (Resolution.shim? isFile r.cwd) r.env (r.start args) ts
      (.ok (some (engine, module)))) (us : List (Turn ε)) : Loaded isFile r (ts ++ us) engine :=
  ⟨module, List.mem_append_left us search.mem_of_found⟩

/-- The calls a request can make. -/
inductive Asks (isFile : Path → Bool) (r : Request) (args : Arguments) (ts : List (Turn ε)) :
    Call ε → Prop
  | locate : Asks isFile r args ts
      (.locate (r.start args) (Resolution.shim? isFile r.cwd) r.env)
  | locateGlobal : Asks isFile r args ts
      (.locateGlobal (Resolution.shim? isFile r.cwd) r.env)
  | load (module : Path) : Asks isFile r args ts
      (.load module (Resolution.shim? isFile r.cwd) r.env)
  | ignore {engine : ε} (loaded : Loaded isFile r ts engine) : Asks isFile r args ts
      (r.ignoreCall args engine)
  | first {engine : ε} (loaded : Loaded isFile r ts engine) {config? : Option Path}
      (asked : (options args).config.explicit? r.cwd = some config?) : Asks isFile r args ts
      (Discovery.first engine (r.file args) config? (options args).editorconfig)
  | second {engine : ε} (loaded : Loaded isFile r ts engine) {name : String}
      (named : r.env.defaultConfig? = some name) : Asks isFile r args ts
      (Discovery.second engine r.cwd name (options args).editorconfig)
  | final {engine : ε} (loaded : Loaded isFile r ts engine) (found? : Option Options) :
      Asks isFile r args ts (r.finalCall args engine found?)

theorem asks_of_search {found : Except EngineError (Option (ε × Path))}
    (search : Resolution.Way (Resolution.shim? isFile r.cwd) r.env (r.start args) us found) :
    ∀ t ∈ us, Asks isFile r args ts t.call := by
  cases search with
  | confined =>
    rw [List.forall_mem_singleton]
    exact .locate
  | nowhere =>
    rw [List.forall_mem_cons, List.forall_mem_singleton]
    exact ⟨.locate, .locateGlobal⟩
  | loaded found =>
    rw [List.forall_mem_append, List.forall_mem_singleton]
    refine ⟨?_, .load _⟩
    cases found with
    | project =>
      rw [List.forall_mem_singleton]
      exact .locate
    | everywhere =>
      rw [List.forall_mem_cons, List.forall_mem_singleton]
      exact ⟨.locate, .locateGlobal⟩

theorem asks_of_discovery (loaded : Loaded isFile r ts engine)
    {found : Except EngineError (Option Options)}
    (discovery : Discovery.Way r.env engine r.cwd (r.file args) (options args).config
      (options args).editorconfig us found) : ∀ t ∈ us, Asks isFile r args ts t.call := by
  cases discovery with
  | off => simp
  | found asked | refused asked | nothing asked =>
    rw [List.forall_mem_singleton]
    exact .first loaded asked
  | fallback asked named =>
    rw [List.forall_mem_cons, List.forall_mem_singleton]
    exact ⟨.first loaded asked, .second loaded named⟩

/-- **A request makes no other calls.** -/
theorem Way.asks (h : Way isFile r args ts out) : ∀ t ∈ ts, Asks isFile r args ts t.call := by
  cases h with
  | unresolved search => exact asks_of_search search
  | noEngine search => exact asks_of_search search
  | unknown search | ignored search =>
    rw [List.forall_mem_append, List.forall_mem_singleton]
    exact ⟨asks_of_search search, .ignore (loaded_of_search search _)⟩
  | unconfigured search _ discovery =>
    have loaded := loaded_of_search search
    rw [List.forall_mem_append, List.forall_mem_cons]
    exact ⟨asks_of_search search, .ignore (loaded _), asks_of_discovery (loaded _) discovery⟩
  | dispatched search _ discovery =>
    have loaded := loaded_of_search search
    rw [List.forall_mem_append, List.forall_mem_cons, List.forall_mem_append,
      List.forall_mem_singleton]
    exact ⟨asks_of_search search, .ignore (loaded _), asks_of_discovery (loaded _) discovery,
      .final (loaded _) _⟩

/-- Nor does one whose arguments are refused. -/
theorem asks_run (isFile : Path → Bool) (r : Request) (c : Collaborators ε σ) (s : σ) :
    ∀ t ∈ (r.run isFile).turns c s, ∃ args,
      Asks isFile r args ((r.run isFile).turns c s) t.call := by
  have course := Dialogue.course_run c (r.run isFile) s
  unfold run at course ⊢
  cases ha : Arguments.ofTokens? r.args with
  | error error => intro t ht; cases ht
  | ok args =>
    simp only [ha] at course ⊢
    exact fun t ht => ⟨args, (way_of_course course).asks t ht⟩

/-! ### What of the arguments counts -/

/-- With an engine at hand, a request depends on the task and the ignore file alone. -/
theorem withEngine_congr {args' : Arguments} (tokens : List String) (ht : args'.task = args.task)
    (hi : args'.ignorePath = args.ignorePath) :
    withEngine (ε := ε) { r with args := tokens } args' = r.withEngine args := by
  funext options file engine
  unfold withEngine
  rw [hi]
  congr 1
  funext reply
  cases reply with
  | error => rfl
  | ok info =>
    unfold configured
    rw [ht]

end Request

/-! ### Invocations -/

/-- What follows the request of an invocation is only told. -/
theorem Invocation.turns_run {isFile : Path → Bool} {base : Base} {i : Invocation}
    (c : Collaborators ε σ) (s : σ) :
    (i.run isFile base).turns c s = ((i.request base).run isFile).turns c s := by
  rw [run, Dialogue.turns_bind]
  exact List.append_nil _

end FormatDaemon
