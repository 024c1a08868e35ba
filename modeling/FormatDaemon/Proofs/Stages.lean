import FormatDaemon.Proofs.Course
import FormatDaemon.Request

/-!
# The stages of a request

What each stage of a request can do, whoever replies: its turns and its outcome,
one rule for each place where it can stop.

* `Resolution.Found`, `Resolution.Way`: looking for an engine.
* `Discovery.Way`: asking for configuration.
* `Request.Way`: a request whose arguments were read.
* `way_of_course`: **every course of a stage is one of its ways**, for each stage.
-/

namespace FormatDaemon

variable {ε : Type}

/-! ### Looking for an engine -/

namespace Resolution

variable {shim? : Option Path} {env : Environment} {start : Path}

/-- The turns of a lookup that finds a module. -/
inductive Found (shim? : Option Path) (env : Environment) (start : Path) :
    List (Turn ε) → Path → Prop
  | project (module : Path) :
    Found shim? env start [⟨.locate start shim? env, .ok module⟩] module
  | everywhere (error : EngineError) (module : Path) (free : env.localOnly = false) :
    Found shim? env start
      [⟨.locate start shim? env, .error error⟩, ⟨.locateGlobal shim? env, .ok module⟩] module

/-- The turns and the outcome of looking for an engine. -/
inductive Way (shim? : Option Path) (env : Environment) (start : Path) :
    List (Turn ε) → Except EngineError (Option (ε × Path)) → Prop
  | confined (error : EngineError) (kept : env.localOnly = true) :
    Way shim? env start [⟨.locate start shim? env, .error error⟩] (.ok none)
  | nowhere (first last : EngineError) (free : env.localOnly = false) :
    Way shim? env start
      [⟨.locate start shim? env, .error first⟩, ⟨.locateGlobal shim? env, .error last⟩]
      (.error last)
  | loaded {ts : List (Turn ε)} {module : Path} (found : Found shim? env start ts module)
      (reply : Except EngineError (Option ε)) :
    Way shim? env start (ts ++ [⟨.load module shim? env, reply⟩])
      (reply.map (·.map (·, module)))

theorem course_load {module : Path} {ts : List (Turn ε)}
    {out : Except EngineError (Option (ε × Path))} (h : (load shim? env module).Course ts out) :
    ∃ reply : Except EngineError (Option ε), ts = [⟨.load module shim? env, reply⟩] ∧
      out = reply.map (·.map (·, module)) := by
  obtain ⟨reply, rest, rfl, h⟩ := h
  match reply, h with
  | .ok (some engine), h => obtain ⟨rfl, rfl⟩ := h; exact ⟨.ok (some engine), rfl, rfl⟩
  | .ok none, h => obtain ⟨rfl, rfl⟩ := h; exact ⟨.ok none, rfl, rfl⟩
  | .error error, h => obtain ⟨rfl, rfl⟩ := h; exact ⟨.error error, rfl, rfl⟩

theorem way_of_global {error : EngineError} (free : env.localOnly = false) {ts : List (Turn ε)}
    {out : Except EngineError (Option (ε × Path))} (h : (resolveGlobal shim? env).Course ts out) :
    Way shim? env start (⟨.locate start shim? env, .error error⟩ :: ts) out := by
  obtain ⟨reply, rest, rfl, h⟩ := h
  match reply, h with
  | .ok module, h =>
    obtain ⟨loaded, rfl, rfl⟩ := course_load h
    exact .loaded (.everywhere error module free) loaded
  | .error last, h =>
    obtain ⟨rfl, rfl⟩ := h
    exact .nowhere error last free

/-- Every course of the search for an engine is one of its ways. -/
theorem way_of_course {ts : List (Turn ε)} {out : Except EngineError (Option (ε × Path))}
    (h : (resolveWith shim? env start).Course ts out) : Way shim? env start ts out := by
  obtain ⟨reply, rest, rfl, h⟩ := h
  match reply, h with
  | .ok module, h =>
    obtain ⟨loaded, rfl, rfl⟩ := course_load h
    exact .loaded (.project module) loaded
  | .error error, h =>
    -- only where the global install counts does a failed lookup lead on
    cases hl : env.localOnly with
    | true =>
      simp only [hl, if_true, Dialogue.course_tell, Dialogue.course_done] at h
      obtain ⟨rfl, rfl⟩ := h
      exact .confined error hl
    | false =>
      simp only [hl, Bool.false_eq_true, if_false, Dialogue.course_tell] at h
      exact way_of_global hl h

end Resolution

/-! ### Asking for configuration -/

/-- The configuration file a source names, if the engine is to be asked at all. -/
def ConfigSource.explicit? (cwd : Path) : ConfigSource → Option (Option Path)
  | .disabled => none
  | .search => some none
  | .path text => some (some (cwd.join (.ofText text)))

namespace Discovery

variable {env : Environment} {engine : ε} {cwd file : Path} {source : ConfigSource}
  {editorconfig : Bool}

/-- The first question: what applies to the file. -/
def first (engine : ε) (file : Path) (config? : Option Path) (editorconfig : Bool) : Call ε :=
  .perform engine (.resolveConfig file (fresh config? editorconfig))

/-- The second question: what the file of last resort says. -/
def second (engine : ε) (cwd : Path) (name : String) (editorconfig : Bool) : Call ε :=
  first engine (searchFrom (cwd.join (.ofText name))) (some (cwd.join (.ofText name))) editorconfig

/-- The turns and the outcome of asking for configuration. -/
inductive Way (env : Environment) (engine : ε) (cwd file : Path) (source : ConfigSource)
    (editorconfig : Bool) : List (Turn ε) → Except EngineError (Option Options) → Prop
  | off (h : source.explicit? cwd = none) :
    Way env engine cwd file source editorconfig [] (.ok none)
  | found {config? : Option Path} (h : source.explicit? cwd = some config?) (options : Options) :
    Way env engine cwd file source editorconfig
      [⟨first engine file config? editorconfig, .ok (some options)⟩] (.ok (some options))
  | refused {config? : Option Path} (h : source.explicit? cwd = some config?)
      (error : EngineError) :
    Way env engine cwd file source editorconfig
      [⟨first engine file config? editorconfig, .error error⟩] (.error error)
  | nothing {config? : Option Path} (h : source.explicit? cwd = some config?)
      (unset : env.defaultConfig? = none) :
    Way env engine cwd file source editorconfig
      [⟨first engine file config? editorconfig, .ok none⟩] (.ok none)
  | fallback {config? : Option Path} (h : source.explicit? cwd = some config?) {name : String}
      (named : env.defaultConfig? = some name) (reply : Except EngineError (Option Options)) :
    Way env engine cwd file source editorconfig
      [⟨first engine file config? editorconfig, .ok none⟩,
        ⟨second engine cwd name editorconfig, reply⟩] reply

theorem way_of_search {config? : Option Path} (hs : source.explicit? cwd = some config?)
    {ts : List (Turn ε)} {out : Except EngineError (Option Options)}
    (h : (search env engine cwd file config? editorconfig).Course ts out) :
    Way env engine cwd file source editorconfig ts out := by
  obtain ⟨reply, rest, rfl, h⟩ := h
  match reply, h with
  | .ok (some options), h => obtain ⟨rfl, rfl⟩ := h; exact .found hs options
  | .error error, h => obtain ⟨rfl, rfl⟩ := h; exact .refused hs error
  | .ok none, h =>
    cases hd : env.defaultConfig? with
    | none =>
      simp only [Discovery.fallback, hd, Dialogue.course_done] at h
      obtain ⟨rfl, rfl⟩ := h
      exact .nothing hs hd
    | some name =>
      simp only [Discovery.fallback, hd, Dialogue.course_tell, Dialogue.course_ask] at h
      obtain ⟨_, _, rfl, rfl, rfl⟩ := h
      exact .fallback hs hd out

/-- Every course of the discovery is one of its ways. -/
theorem way_of_course {ts : List (Turn ε)} {out : Except EngineError (Option Options)}
    (h : (discover env engine cwd file source editorconfig).Course ts out) :
    Way env engine cwd file source editorconfig ts out := by
  cases source with
  | disabled => obtain ⟨rfl, rfl⟩ := h; exact .off rfl
  | search => exact way_of_search rfl h
  | path text => exact way_of_search rfl h

end Discovery

/-! ### A whole request -/

/-- What a task asks of the engine. -/
def Task.operation (task : Task) (text : String) (options : Options) : Operation :=
  match task with
  | .format => .format text options
  | .check => .check text options

/-- What a task's question is about. -/
def Task.kind : Task → Call.Kind
  | .format => .format
  | .check => .check

theorem Task.kind_operation (task : Task) (text : String) (options : Options) :
    (task.operation text options).kind = task.kind := by
  cases task <;> rfl

namespace Request

variable {isFile : Path → Bool} {r : Request} {args : Arguments}

/-- The file a request is about. -/
def file (r : Request) (args : Arguments) : Path := r.cwd.resolve args.target

/-- Where the search for an engine starts. -/
def start (r : Request) (args : Arguments) : Path := (r.file args).parent?.getD r.cwd

/-- The options a request was given. -/
def options (args : Arguments) : RequestOptions := .ofTokens args.options

/-- The question whether the file is ignored. -/
def ignoreCall (r : Request) (args : Arguments) (engine : ε) : Call ε :=
  .perform engine (.fileInfo (r.file args) ⟨r.cwd.join (.ofText args.ignorePath)⟩)

/-- The last call of a request that gets so far, with the configuration found. -/
def finalCall (r : Request) (args : Arguments) (engine : ε) (found? : Option Options) : Call ε :=
  .perform engine
    (args.task.operation r.text (finalOptions (options args) found? (r.file args)))

theorem kind_finalCall {engine : ε} {found? : Option Options} :
    (r.finalCall args engine found?).kind = args.task.kind :=
  Task.kind_operation _ _ _

/-- The outcome of a request that stops with a turn, if it can stop there. -/
def outcomeAt? (text : String) (file : Path) : Turn ε → Option Outcome
  | ⟨.locate .., .error _⟩ | ⟨.load .., .ok none⟩ => some (.ok text)
  | ⟨.perform _ (.fileInfo ..), .ok info⟩ => if info.ignored then some (.ok text) else none
  | ⟨.perform _ (.format ..), .ok output⟩ => some (.ok output)
  | ⟨.perform _ (.check ..), .ok formatted⟩ =>
    some (if formatted then .ok "" else .error (.notFormatted file))
  | ⟨.locate .., .ok _⟩ | ⟨.locateGlobal .., .ok _⟩ | ⟨.load .., .ok (some _)⟩
  | ⟨.perform _ (.resolveConfig ..), .ok _⟩ => none
  | ⟨.locateGlobal .., .error error⟩ | ⟨.load .., .error error⟩ | ⟨.perform .., .error error⟩ =>
    some (.error (.engine error))

/-- The turns and the outcome of a request whose arguments were read. -/
inductive Way (isFile : Path → Bool) (r : Request) (args : Arguments) :
    List (Turn ε) → Outcome → Prop
  | unresolved {ts : List (Turn ε)} {error : EngineError}
      (search : Resolution.Way (Resolution.shim? isFile r.cwd) r.env (r.start args) ts
        (.error error)) :
    Way isFile r args ts (.error (.engine error))
  | noEngine {ts : List (Turn ε)}
      (search : Resolution.Way (Resolution.shim? isFile r.cwd) r.env (r.start args) ts
        (.ok none)) :
    Way isFile r args ts (.ok r.text)
  | unknown {ts : List (Turn ε)} {engine : ε} {module : Path}
      (search : Resolution.Way (Resolution.shim? isFile r.cwd) r.env (r.start args) ts
        (.ok (some (engine, module)))) (error : EngineError) :
    Way isFile r args (ts ++ [⟨r.ignoreCall args engine, .error error⟩])
      (.error (.engine error))
  | ignored {ts : List (Turn ε)} {engine : ε} {module : Path}
      (search : Resolution.Way (Resolution.shim? isFile r.cwd) r.env (r.start args) ts
        (.ok (some (engine, module)))) {info : FileInfo} (h : info.ignored = true) :
    Way isFile r args (ts ++ [⟨r.ignoreCall args engine, .ok info⟩]) (.ok r.text)
  | unconfigured {ts : List (Turn ε)} {engine : ε} {module : Path}
      (search : Resolution.Way (Resolution.shim? isFile r.cwd) r.env (r.start args) ts
        (.ok (some (engine, module)))) {info : FileInfo} (h : info.ignored = false)
      {ds : List (Turn ε)} {error : EngineError}
      (discovery : Discovery.Way r.env engine r.cwd (r.file args) (options args).config
        (options args).editorconfig ds (.error error)) :
    Way isFile r args (ts ++ ⟨r.ignoreCall args engine, .ok info⟩ :: ds) (.error (.engine error))
  | dispatched {ts : List (Turn ε)} {engine : ε} {module : Path}
      (search : Resolution.Way (Resolution.shim? isFile r.cwd) r.env (r.start args) ts
        (.ok (some (engine, module)))) {info : FileInfo} (h : info.ignored = false)
      {ds : List (Turn ε)} {found? : Option Options}
      (discovery : Discovery.Way r.env engine r.cwd (r.file args) (options args).config
        (options args).editorconfig ds (.ok found?))
      {reply : (r.finalCall args engine found?).Reply} {out : Outcome}
      (ends : outcomeAt? r.text (r.file args) ⟨r.finalCall args engine found?, reply⟩ = some out) :
    Way isFile r args
      (ts ++ ⟨r.ignoreCall args engine, .ok info⟩ ::
        (ds ++ [⟨r.finalCall args engine found?, reply⟩])) out

theorem course_dispatch {engine : ε} {found? : Option Options} {ts : List (Turn ε)} {out : Outcome}
    (h : (dispatch engine args.task r.text (finalOptions (options args) found? (r.file args))
      (r.file args)).Course ts out) :
    ∃ reply, ts = [⟨r.finalCall args engine found?, reply⟩] ∧
      outcomeAt? r.text (r.file args) ⟨r.finalCall args engine found?, reply⟩ = some out := by
  unfold finalCall
  cases hk : args.task with
  | format =>
    rw [hk] at h
    obtain ⟨reply, _, rfl, h⟩ := h
    match reply, h with
    | .ok output, h => obtain ⟨rfl, rfl⟩ := h; exact ⟨.ok output, rfl, rfl⟩
    | .error error, h => obtain ⟨rfl, rfl⟩ := h; exact ⟨.error error, rfl, rfl⟩
  | check =>
    rw [hk] at h
    obtain ⟨reply, _, rfl, h⟩ := h
    match reply, h with
    | .ok true, h => obtain ⟨rfl, rfl⟩ := h; exact ⟨.ok true, rfl, rfl⟩
    | .ok false, h => obtain ⟨rfl, rfl⟩ := h; exact ⟨.ok false, rfl, rfl⟩
    | .error error, h => obtain ⟨rfl, rfl⟩ := h; exact ⟨.error error, rfl, rfl⟩

theorem way_of_engine {ts us : List (Turn ε)} {engine : ε} {module : Path} {out : Outcome}
    (search : Resolution.Way (Resolution.shim? isFile r.cwd) r.env (r.start args) ts
      (.ok (some (engine, module))))
    (h : (r.withEngine args (options args) (r.file args) engine).Course us out) :
    Way isFile r args (ts ++ us) out := by
  obtain ⟨reply, rest, rfl, h⟩ := h
  match reply, h with
  | .error error, h => obtain ⟨rfl, rfl⟩ := h; exact .unknown search error
  | .ok info, h =>
    cases hi : info.ignored with
    | true =>
      simp only [hi, if_true, Dialogue.course_tell, Dialogue.course_done] at h
      obtain ⟨rfl, rfl⟩ := h
      exact .ignored search hi
    | false =>
      simp only [hi, Bool.false_eq_true, if_false, configured] at h
      obtain ⟨error, hd, rfl⟩ | ⟨ds, found?, last, rfl, hd, hl⟩ := Dialogue.course_andThen.1 h
      · exact .unconfigured search hi (Discovery.way_of_course hd)
      · obtain ⟨reply, rfl, ends⟩ := course_dispatch hl
        exact .dispatched search hi (Discovery.way_of_course hd) ends

/-- Every course of a request whose arguments were read is one of its ways. -/
theorem way_of_course {ts : List (Turn ε)} {out : Outcome}
    (h : (r.withArguments isFile args).Course ts out) : Way isFile r args ts out := by
  simp only [withArguments, Dialogue.course_tellAll, Dialogue.course_tell] at h
  obtain ⟨error, hs, rfl⟩ | ⟨ts, engine?, us, rfl, hs, hu⟩ := Dialogue.course_andThen.1 h
  · exact .unresolved (Resolution.way_of_course hs)
  · cases engine? with
    | none =>
      obtain ⟨rfl, rfl⟩ := hu
      rw [List.append_nil]
      exact .noEngine (Resolution.way_of_course hs)
    | some found =>
      obtain ⟨engine, module⟩ := found
      exact way_of_engine (Resolution.way_of_course hs) hu

end Request

end FormatDaemon
