import FormatDaemon.Collaborators.Static
import FormatDaemon.Proofs.RequestCalls
import FormatDaemon.Session

/-!
# Sessions with one engine

Collaborators over two fixed modules have one engine to give away. What a request meets
depends on whether an earlier one has got it, and on nothing else of what went before.

* `Noted`, `noted_run`: what calls leave in the memory.
* `Lent`, `lent_turns`: the replies that can come from such collaborators.
* `Modules.located?`, `Modules.lookups`: what a request finds, and where it looks.
* `Request.Way.searched`: **a request in front of such collaborators**.
* `one_engine`: **a session of any length**: what it leaves in the memory, who is asked, and
  what a request ends with once the engine is gone.
-/

namespace FormatDaemon.Static

variable {ε α : Type} {modules : Modules} {engine? : Option ε}

/-! ### What calls leave in the memory -/

/-- The lookup that a call is. -/
def lookup? : Call ε → Option Lookup
  | .locate start shim? _ => some (.project start shim?)
  | .locateGlobal .. => some .everywhere
  | .load .. | .perform .. => none

/-- The module that a call loads. -/
def loaded? : Call ε → Option Path
  | .load module .. => some module
  | .locate .. | .locateGlobal .. | .perform .. => none

/-- The question to an engine that a call is. -/
def operation? : Call ε → Option Operation
  | .perform _ operation => some operation
  | .locate .. | .locateGlobal .. | .load .. => none

/-- Some calls led from one memory to another. -/
structure Noted (m : Memory ε) (calls : List (Call ε)) (m' : Memory ε) : Prop where
  lookups : m'.lookups = m.lookups ++ calls.filterMap lookup?
  loaded : m'.loaded = m.loaded ++ calls.filterMap loaded?
  operations : m'.operations = m.operations ++ calls.filterMap operation?
  engine : m'.engine? = if calls.filterMap loaded? = [] then m.engine? else none

theorem Noted.refl (m : Memory ε) : Noted m [] m where
  lookups := (List.append_nil _).symm
  loaded := (List.append_nil _).symm
  operations := (List.append_nil _).symm
  engine := rfl

theorem Noted.trans {m m' m'' : Memory ε} {calls more : List (Call ε)} (h : Noted m calls m')
    (h' : Noted m' more m'') : Noted m (calls ++ more) m'' where
  lookups := by rw [h'.lookups, h.lookups, List.filterMap_append, List.append_assoc]
  loaded := by rw [h'.loaded, h.loaded, List.filterMap_append, List.append_assoc]
  operations := by rw [h'.operations, h.operations, List.filterMap_append, List.append_assoc]
  engine := by
    rw [h'.engine, h.engine, List.filterMap_append]
    by_cases late : more.filterMap loaded? = []
    · rw [if_pos late, late, List.append_nil]
    · rw [if_neg late, if_neg fun none_loaded => late (List.append_eq_nil_iff.1 none_loaded).2]

/-- A call leaves itself in the memory. -/
theorem noted_reply (answers : Answers ε) (modules : Modules) (call : Call ε) (m : Memory ε) :
    Noted m [call] (reply answers modules call m).2 := by
  cases call with
  | locate | locateGlobal =>
    exact ⟨rfl, (List.append_nil _).symm, (List.append_nil _).symm, rfl⟩
  | load => exact ⟨(List.append_nil _).symm, rfl, (List.append_nil _).symm, rfl⟩
  | perform => exact ⟨(List.append_nil _).symm, (List.append_nil _).symm, rfl, rfl⟩

/-- **A dialogue leaves its calls in the memory.** -/
theorem noted_run (answers : Answers ε) (modules : Modules) (d : Dialogue ε α) (m : Memory ε) :
    let ending := d.run (lending answers modules) m
    Noted m ending.calls ending.memory := by
  induction d generalizing m with
  | done a => exact .refl m
  | tell event next ih =>
    obtain ⟨lookups, loaded, operations, engine⟩ := ih { m with told := m.told ++ [event] }
    exact ⟨lookups, loaded, operations, engine⟩
  | ask call next ih => exact (noted_reply answers modules call m).trans (ih _ _)

/-! ### Which replies there are -/

theorem found_eq_ok {module? : Option Path} {origin : String} {module : Path}
    (h : found module? origin = .ok module) : module? = some module := by
  cases module? with
  | none => cases h
  | some other => exact congrArg some (Except.ok.inj h)

theorem found_eq_error {module? : Option Path} {origin : String} {error : EngineError}
    (h : found module? origin = .error error) :
    module? = none ∧ error = .notFound Resolution.package origin "not installed" := by
  cases module? with
  | none => exact ⟨rfl, (Except.error.inj h).symm⟩
  | some other => cases h

/-- A turn with collaborators that have at most this engine to give away. -/
def Lent (modules : Modules) (engine? : Option ε) : Turn ε → Prop
  | ⟨.locate start _ _, reply⟩ => found modules.project? start.shown = reply
  | ⟨.locateGlobal .., reply⟩ => found modules.global? "global install" = reply
  | ⟨.load .., reply⟩ => reply = .ok none ∨ reply = .ok engine?
  | ⟨.perform .., _⟩ => True

/-- All turns of a dialogue are such turns, with the engine that there is at its start. -/
theorem lent_turns (answers : Answers ε) (modules : Modules) (d : Dialogue ε α) (m : Memory ε) :
    ∀ t ∈ d.turns (lending answers modules) m, Lent modules m.engine? t := by
  -- the engine may be gone by the time of a later load
  have general : ∀ engine? : Option ε, m.engine? = none ∨ m.engine? = engine? →
      ∀ t ∈ d.turns (lending answers modules) m, Lent modules engine? t := by
    intro engine? left
    induction d generalizing m with
    | done a => exact fun t ht => nomatch ht
    | tell event next ih => exact ih _ left
    | ask call next ih =>
      have after : ((lending answers modules).reply call m).2.engine? = none ∨
          ((lending answers modules).reply call m).2.engine? = engine? := by
        cases call with
        | load => exact .inl rfl
        | locate | locateGlobal | perform => exact left
      refine List.forall_mem_cons.2 ⟨?_, ih _ _ after⟩
      cases call with
      | locate | locateGlobal => exact rfl
      | load => exact left.imp (congrArg Except.ok) (congrArg Except.ok)
      | perform => trivial
  exact general m.engine? (.inr rfl)

/-! ### What a request finds -/

/-- The module that a request with this environment finds. -/
def Modules.located? (modules : Modules) (env : Environment) : Option Path :=
  match modules.project? with
  | some module => some module
  | none => if env.localOnly then none else modules.global?

/-- Where a request with this environment looks. -/
def Modules.lookups (modules : Modules) (env : Environment) (start : Path)
    (shim? : Option Path) : List Lookup :=
  .project start shim? ::
    if modules.project? = none ∧ env.localOnly = false then [.everywhere] else []

/-- How a search without an engine ends: it fails if nothing was found everywhere. -/
def Modules.idle (modules : Modules) (env : Environment) : Except EngineError Unit :=
  if modules.located? env = none ∧ env.localOnly = false then
    .error (.notFound Resolution.package "global install" "not installed")
  else .ok ()

/-- The calls of a search, and how it ends. -/
structure Searched (modules : Modules) (engine? : Option ε) (shim? : Option Path)
    (env : Environment) (start : Path) (calls : List (Call ε))
    (out : Except EngineError (Option (ε × Path))) : Prop where
  lookups : calls.filterMap lookup? = modules.lookups env start shim?
  loaded : calls.filterMap loaded? = (modules.located? env).toList
  quiet : calls.filterMap operation? = []
  ends : (∃ engine module, engine? = some engine ∧ modules.located? env = some module ∧
      out = .ok (some (engine, module))) ∨ out = (modules.idle env).map fun _ => none

end FormatDaemon.Static

namespace FormatDaemon.Resolution

open Static

variable {ε : Type} {modules : Modules} {engine? : Option ε} {shim? : Option Path}
  {env : Environment} {start : Path} {ts : List (Turn ε)}
  {out : Except EngineError (Option (ε × Path))}

theorem Found.searched {module : Path} (found : Found shim? env start ts module)
    (lent : ∀ t ∈ ts, Lent modules engine? t) :
    (ts.map (·.call)).filterMap lookup? = modules.lookups env start shim? ∧
      (ts.map (·.call)).filterMap loaded? = [] ∧ (ts.map (·.call)).filterMap operation? = [] ∧
      modules.located? env = some module := by
  cases found with
  | project =>
    have here := found_eq_ok (lent _ List.mem_cons_self)
    simp [lookup?, loaded?, operation?, Modules.lookups, Modules.located?, here]
  | everywhere error _ free =>
    have nowhere := (found_eq_error (lent _ List.mem_cons_self)).1
    have everywhere := found_eq_ok (lent _ (List.mem_cons_of_mem _ List.mem_cons_self))
    simp [lookup?, loaded?, operation?, Modules.lookups, Modules.located?, nowhere, everywhere,
      free]

/-- **A search in front of collaborators with two fixed modules.** -/
theorem Way.searched (search : Way shim? env start ts out)
    (lent : ∀ t ∈ ts, Lent modules engine? t) :
    Searched modules engine? shim? env start (ts.map (·.call)) out := by
  cases search with
  | confined error kept =>
    have nowhere := (found_eq_error (lent _ List.mem_cons_self)).1
    constructor <;>
      simp [lookup?, loaded?, operation?, Modules.lookups, Modules.located?, Modules.idle, nowhere,
        kept, Except.map]
  | nowhere first last free =>
    have nowhere := (found_eq_error (lent _ List.mem_cons_self)).1
    obtain ⟨missing, rfl⟩ := found_eq_error (lent _ (List.mem_cons_of_mem _ List.mem_cons_self))
    constructor <;>
      simp [lookup?, loaded?, operation?, Modules.lookups, Modules.located?, Modules.idle, nowhere,
        missing, free, Except.map]
  | @loaded ts module found reply =>
    obtain ⟨lookups, loaded, quiet, located⟩ :=
      found.searched fun t ht => lent t (List.mem_append_left _ ht)
    have replied : reply = .ok none ∨ reply = .ok engine? :=
      lent _ (List.mem_append_right _ List.mem_cons_self)
    have idle : modules.idle env = .ok () := by simp [Modules.idle, located]
    refine ⟨?_, ?_, ?_, ?_⟩
    · simp [lookups, lookup?]
    · simp [loaded, loaded?, located]
    · simp [quiet, operation?]
    · rw [idle]
      rcases replied with rfl | rfl
      · exact .inr rfl
      · cases engine? with
        | none => exact .inr rfl
        | some engine => exact .inl ⟨engine, module, rfl, located, rfl⟩

end FormatDaemon.Resolution

namespace FormatDaemon

open Static

variable {ε : Type} {modules : Modules} {engine? : Option ε}

theorem Discovery.Way.performs {env : Environment} {engine : ε} {cwd file : Path}
    {source : ConfigSource} {editorconfig : Bool} {ts : List (Turn ε)}
    {out : Except EngineError (Option Options)}
    (h : Discovery.Way env engine cwd file source editorconfig ts out) :
    ∀ t ∈ ts, ∃ operation, t.call = .perform engine operation := by
  cases h <;> simp [Discovery.first, Discovery.second]

namespace Request

variable {isFile : Path → Bool} {r : Request} {args : Arguments} {ts : List (Turn ε)}
  {out : Outcome}

/-- A request is a search and what is asked of the engine that the search ended with. -/
structure Split (isFile : Path → Bool) (r : Request) (args : Arguments) (out : Outcome)
    (search behind : List (Turn ε)) (found : Except EngineError (Option (ε × Path))) : Prop where
  way : Resolution.Way (Resolution.shim? isFile r.cwd) r.env (r.start args) search found
  performs : ∀ t ∈ behind, ∃ engine module operation, found = .ok (some (engine, module)) ∧
    t.call = .perform engine operation
  failed : ∀ error, found = .error error → out = .error (.engine error)
  idle : found = .ok none → out = .ok r.text

/-- What only notes other calls notes nothing behind the search. -/
theorem Split.filterMap_behind {β : Type} {search behind : List (Turn ε)}
    {found : Except EngineError (Option (ε × Path))}
    (split : Split isFile r args out search behind found) {f : Call ε → Option β}
    (other : ∀ engine operation, f (.perform engine operation) = none) :
    (behind.map (·.call)).filterMap f = [] := by
  refine List.filterMap_eq_nil_iff.2 (List.forall_mem_map.2 fun t ht => ?_)
  obtain ⟨engine, _, operation, -, asked⟩ := split.performs t ht
  rw [asked]
  exact other engine operation

theorem Split.of_engine {search behind : List (Turn ε)} {engine : ε} {module : Path}
    (way : Resolution.Way (Resolution.shim? isFile r.cwd) r.env (r.start args) search
      (.ok (some (engine, module))))
    (performs : ∀ t ∈ behind, ∃ operation, t.call = .perform engine operation) :
    Split isFile r args out search behind (.ok (some (engine, module))) where
  way := way
  performs := fun t ht => (performs t ht).elim fun operation asked =>
    ⟨engine, module, operation, rfl, asked⟩
  failed := nofun
  idle := nofun

theorem Way.split (h : Way isFile r args ts out) :
    ∃ search behind found, ts = search ++ behind ∧
      Split isFile r args out search behind found := by
  cases h with
  | unresolved search =>
    refine ⟨ts, [], _, (List.append_nil _).symm, search, List.forall_mem_nil _, ?_, nofun⟩
    intro error same
    rw [Except.error.inj same]
  | noEngine search =>
    exact ⟨ts, [], _, (List.append_nil _).symm, search, List.forall_mem_nil _, nofun,
      fun _ => rfl⟩
  | unknown search | ignored search =>
    refine ⟨_, _, _, rfl, .of_engine search ?_⟩
    rw [List.forall_mem_singleton]
    exact ⟨_, rfl⟩
  | unconfigured search _ discovery =>
    refine ⟨_, _, _, rfl, .of_engine search ?_⟩
    rw [List.forall_mem_cons]
    exact ⟨⟨_, rfl⟩, discovery.performs⟩
  | dispatched search _ discovery _ =>
    refine ⟨_, _, _, rfl, .of_engine search ?_⟩
    rw [List.forall_mem_cons, List.forall_mem_append, List.forall_mem_singleton]
    exact ⟨⟨_, rfl⟩, discovery.performs, ⟨_, rfl⟩⟩

end Request

/-! ### Arrivals -/

namespace Arrival

/-- The request of an arrival and its arguments, unless it is malformed or they are refused. -/
def read? (a : Arrival) : Option (Request × Arguments) :=
  a.request?.bind fun r => (Arguments.ofTokens? r.args).toOption.map (r, ·)

/-- The module that an arrival finds. -/
def located? (modules : Modules) (a : Arrival) : Option Path :=
  a.read?.bind fun (r, _) => modules.located? r.env

/-- Where an arrival looks. -/
def lookups (modules : Modules) (a : Arrival) : List Lookup :=
  match a.read? with
  | some (r, args) => modules.lookups r.env (r.start args) (Resolution.shim? a.isFile r.cwd)
  | none => []

variable {a : Arrival} {r : Request} {args : Arguments} {ts : List (Turn ε)} {out : Outcome}

theorem read?_eq_some_iff : a.read? = some (r, args) ↔
    ∃ i, a.invocation? = some i ∧ i.request a.base = r ∧ Arguments.ofTokens? r.args = .ok args := by
  rw [read?, request?]
  cases a.invocation? with
  | none => simp
  | some i =>
    simp only [Option.map_some, Option.bind_some, Option.some.injEq, exists_eq_left']
    cases ha : Arguments.ofTokens? (i.request a.base).args with
    | error =>
      simp only [Except.toOption, Option.map_none]
      refine iff_of_false nofun ?_
      rintro ⟨rfl, read⟩
      rw [ha] at read
      cases read
    | ok read =>
      simp only [Except.toOption, Option.map_some, Option.some.injEq, Prod.mk.injEq]
      refine and_congr_right ?_
      rintro rfl
      rw [ha, Except.ok.injEq]

theorem dialogue_of_some {i : Invocation} (h : a.invocation? = some i) :
    a.dialogue (ε := ε) = i.run a.isFile a.base := by
  obtain ⟨isFile, base, message⟩ := a
  cases message with
  | invocation j => rw [dialogue, Option.some.inj h]
  | call cwd shape text =>
    rw [invocation?] at h
    simp only [dialogue, invokeJson]
    cases hs : Wire.callShape shape with
    | error => simp [hs, Except.toOption] at h
    | ok s =>
      simp only [hs, Except.toOption, Option.map_some, Option.some.injEq] at h
      simp only [h]

theorem dialogue_of_none (h : a.invocation? = none) :
    ∃ fault, a.dialogue (ε := ε) = .done (.error (.malformed fault)) := by
  obtain ⟨isFile, base, message⟩ := a
  cases message with
  | invocation => cases h
  | call cwd shape text =>
    rw [invocation?] at h
    simp only [dialogue, invokeJson]
    cases hs : Wire.callShape shape with
    | ok => simp [hs, Except.toOption] at h
    | error fault => exact ⟨fault, rfl⟩

/-- An arrival that is read goes the ways of its request. -/
theorem way_of_course (read : a.read? = some (r, args)) (h : a.dialogue.Course ts out) :
    Request.Way a.isFile r args ts out := by
  obtain ⟨i, hi, rfl, ha⟩ := read?_eq_some_iff.1 read
  rw [dialogue_of_some hi] at h
  obtain ⟨before, _, after, rfl, course, rfl, rfl⟩ := Dialogue.course_bind.1 h
  rw [Request.run, ha] at course
  rw [List.append_nil]
  exact Request.way_of_course course

/-- An arrival that is not read calls nobody. -/
theorem quiet_of_course (unread : a.read? = none) (h : a.dialogue.Course ts out) : ts = [] := by
  cases hi : a.invocation? with
  | none =>
    obtain ⟨fault, ended⟩ := dialogue_of_none hi
    rw [ended] at h
    exact h.1
  | some i =>
    rw [dialogue_of_some hi] at h
    obtain ⟨before, _, after, rfl, course, rfl, -⟩ := Dialogue.course_bind.1 h
    rw [Request.run] at course
    cases ha : Arguments.ofTokens? (i.request a.base).args with
    | ok args => exact absurd unread (by rw [read?_eq_some_iff.2 ⟨i, hi, rfl, ha⟩]; nofun)
    | error =>
      rw [ha] at course
      rw [course.1, List.append_nil]

section Answered

variable (answers : Answers ε) (modules : Modules) (m : Memory ε)

/-- An arrival that is read searches, and asks the engine of its search. -/
theorem exists_searched (read : a.read? = some (r, args)) :
    let ending := a.dialogue.run (lending answers modules) m
    ∃ (search behind : List (Turn ε)) (found : Except EngineError (Option (ε × Path))),
      ending.calls = search.map (·.call) ++ behind.map (·.call) ∧
      Request.Split a.isFile r args ending.outcome search behind found ∧
      Searched modules m.engine? (Resolution.shim? a.isFile r.cwd) r.env (r.start args)
        (search.map (·.call)) found := by
  intro ending
  have course := Dialogue.course_run (lending answers modules) a.dialogue m
  have lent := lent_turns answers modules a.dialogue m
  obtain ⟨search, behind, found, turns, split⟩ := (way_of_course read course).split
  refine ⟨search, behind, found, ?_, split, split.way.searched fun t ht => lent t ?_⟩
  · rw [Dialogue.calls_run, turns, List.map_append]
  · rw [turns]
    exact List.mem_append_left _ ht

/-- An arrival that is not read leaves no trace. -/
theorem calls_of_unread (unread : a.read? = none) :
    (a.dialogue.run (lending answers modules) m).calls = [] := by
  rw [Dialogue.calls_run, quiet_of_course unread (Dialogue.course_run _ _ _), List.map_nil]

/-- **Where an arrival looks and what it loads**, whatever happened before. -/
theorem logged :
    let calls := (a.dialogue.run (lending answers modules) m).calls
    calls.filterMap lookup? = a.lookups modules ∧
      calls.filterMap loaded? = (a.located? modules).toList := by
  intro calls
  rw [lookups, located?]
  cases read : a.read? with
  | none =>
    have quiet : calls = [] := calls_of_unread answers modules m read
    rw [quiet]
    exact ⟨rfl, rfl⟩
  | some pair =>
    obtain ⟨r, args⟩ := pair
    obtain ⟨search, behind, found, parts, split, searched⟩ :=
      exists_searched answers modules m read
    have no_lookup := split.filterMap_behind (f := lookup?) fun _ _ => rfl
    have no_load := split.filterMap_behind (f := loaded?) fun _ _ => rfl
    simp only [calls, parts, List.filterMap_append, no_lookup, no_load, List.append_nil]
    exact ⟨searched.lookups, searched.loaded⟩

/-- **Who asks an engine**: an arrival that finds a module while there is one to give away. -/
theorem asked {engine : ε} {operation : Operation}
    (h : .perform engine operation ∈ (a.dialogue.run (lending answers modules) m).calls) :
    m.engine? = some engine ∧ (a.located? modules).isSome := by
  cases read : a.read? with
  | none =>
    rw [calls_of_unread answers modules m read] at h
    cases h
  | some pair =>
    obtain ⟨r, args⟩ := pair
    obtain ⟨search, behind, found, parts, split, searched⟩ :=
      exists_searched answers modules m read
    rw [parts] at h
    rcases List.mem_append.1 h with early | late
    · -- a search asks no engine
      have := List.filterMap_eq_nil_iff.1 searched.quiet _ early
      cases this
    · obtain ⟨t, ht, same⟩ := List.mem_map.1 late
      obtain ⟨_, module, _, rfl, asked⟩ := split.performs t ht
      obtain ⟨rfl, -⟩ := Call.perform.inj (same.symm.trans asked)
      rcases searched.ends with ⟨_, _, lent, located, ended⟩ | ended
      · obtain ⟨rfl, rfl⟩ := Prod.mk.inj (Option.some.inj (Except.ok.inj ended))
        rw [Arrival.located?, read]
        exact ⟨lent, by simp [located]⟩
      · cases idle : modules.idle r.env <;> simp [idle, Except.map] at ended

/-- Without an engine to give away no engine is asked. -/
theorem quiet_of_gone (gone : m.engine? = none) :
    (a.dialogue.run (lending answers modules) m).calls.filterMap operation? = [] := by
  refine List.filterMap_eq_nil_iff.2 fun call hc => ?_
  cases call with
  | perform => exact absurd ((asked answers modules m hc).1.symm.trans gone) nofun
  | locate | locateGlobal | load => rfl

/-- **What a request ends with when there is no engine left.** -/
theorem outcome_of_gone (gone : m.engine? = none) (read : a.read? = some (r, args)) :
    (a.dialogue.run (lending answers modules) m).outcome =
      if modules.located? r.env = none ∧ r.env.localOnly = false then
        .error (.engine (.notFound Resolution.package "global install" "not installed"))
      else .ok r.text := by
  obtain ⟨search, behind, found, -, split, searched⟩ := exists_searched answers modules m read
  rcases searched.ends with ⟨_, _, lent, -, -⟩ | ended
  · rw [gone] at lent
    cases lent
  · rw [Modules.idle] at ended
    by_cases missing : modules.located? r.env = none ∧ r.env.localOnly = false
    · rw [if_pos missing] at ended ⊢
      exact split.failed _ ended
    · rw [if_neg missing] at ended ⊢
      exact split.idle ended

end Answered

end Arrival

/-! ### Sessions -/

namespace Session

variable (answers : Answers ε) (modules : Modules) (arrivals : List Arrival)

/-- **What a session leaves in the memory.** -/
theorem noted_after (m : Memory ε) :
    ∃ calls, Noted m calls (after (lending answers modules) arrivals m) ∧
      calls.filterMap lookup? = arrivals.flatMap (·.lookups modules) ∧
      calls.filterMap loaded? = arrivals.filterMap (·.located? modules) ∧
      (m.engine? = none → calls.filterMap operation? = []) := by
  induction arrivals generalizing m with
  | nil => exact ⟨[], .refl m, rfl, rfl, fun _ => rfl⟩
  | cons a rest ih =>
    have noted := noted_run answers modules a.dialogue m
    obtain ⟨lookups, loaded⟩ := a.logged answers modules m
    obtain ⟨later, noted_later, later_lookups, later_loaded, later_quiet⟩ :=
      ih (a.dialogue.run (lending answers modules) m).memory
    refine ⟨_, noted.trans noted_later, ?_, ?_, fun gone => ?_⟩
    · rw [List.filterMap_append, lookups, later_lookups, List.flatMap_cons]
    · rw [List.filterMap_append, loaded, later_loaded]
      cases ha : a.located? modules <;> simp [ha]
    · have still_gone : (a.dialogue.run (lending answers modules) m).memory.engine? = none := by
        rw [noted.engine, gone, ite_self]
      rw [List.filterMap_append, a.quiet_of_gone answers modules m gone, later_quiet still_gone]
      rfl

end Session

/-- **Sessions over two fixed modules and one engine.** After any arrivals, the lookups are
those of the arrivals that were read, each in the project and then, unless it found something
there or may not leave it, everywhere; the modules loaded are those that they found. The next
arrival asks an engine only if there is one and nothing was loaded before; otherwise its text
comes back, or the failure to find a module. -/
theorem one_engine (answers : Answers ε) (modules : Modules) (engine? : Option ε)
    (arrivals : List Arrival) :
    let c := lending answers modules
    let memory := Session.after c arrivals ⟨engine?, [], [], [], []⟩
    memory.lookups = arrivals.flatMap (·.lookups modules) ∧
    memory.loaded = arrivals.filterMap (·.located? modules) ∧
    (engine? = none → memory.operations = []) ∧
    ∀ next : Arrival,
      let ending := next.dialogue.run c memory
      ending.memory.operations = memory.operations ++ ending.calls.filterMap operation? ∧
      (∀ engine operation, .perform engine operation ∈ ending.calls →
        engine? = some engine ∧ memory.loaded = [] ∧ (next.located? modules).isSome) ∧
      (memory.loaded ≠ [] ∨ engine? = none → ∀ r args, next.read? = some (r, args) →
        ending.outcome =
          if modules.located? r.env = none ∧ r.env.localOnly = false then
            .error (.engine (.notFound "prettier" "global install" "not installed"))
          else .ok r.text) := by
  intro c memory
  obtain ⟨calls, noted, lookups, loaded, quiet⟩ :=
    Session.noted_after answers modules arrivals ⟨engine?, [], [], [], []⟩
  have loaded_eq : memory.loaded = calls.filterMap loaded? := noted.loaded
  have engine_eq : memory.engine? = if memory.loaded = [] then engine? else none := by
    rw [loaded_eq]
    exact noted.engine
  refine ⟨noted.lookups.trans lookups, noted.loaded.trans loaded,
    fun gone => noted.operations.trans (quiet gone), fun next => ⟨?_, ?_, ?_⟩⟩
  · exact (noted_run answers modules next.dialogue memory).operations
  · intro engine operation h
    obtain ⟨lent, located⟩ := next.asked answers modules memory h
    rw [engine_eq] at lent
    by_cases first : memory.loaded = []
    · rw [if_pos first] at lent
      exact ⟨lent, first, located⟩
    · rw [if_neg first] at lent
      cases lent
  · intro late r args read
    refine next.outcome_of_gone answers modules memory ?_ read
    rw [engine_eq]
    rcases late with loaded_before | rfl
    · exact if_neg loaded_before
    · exact ite_self none

/-- The engine is asked by the first arrival that finds a module. A later check gives its text
back, behind an arrival that was refused and one that kept to its project. -/
theorem one_engine_asked :
    let modules : Modules := ⟨none, some (.ofText "/g/engine.js")⟩
    let c := lending Engine.answers modules
    let arrive (args : List String) (changes : Table (Option String)) : Arrival :=
      ⟨fun _ => false, .fixed .empty, .invocation ⟨.ofText "/p", args, changes, "x"⟩⟩
    let confined := arrive ["a.js"] (.ofList [("PRETTIERD_LOCAL_PRETTIER_ONLY", some "1")])
    let before := [arrive ["a.js", "b.js"] .empty, confined]
    let free := arrive ["a.js"] .empty
    let memory (engine? : Option Engine) (arrivals : List Arrival) :=
      Session.after c arrivals ⟨engine?, [], [], [], []⟩
    (∃ operation, .perform {} operation ∈ (free.dialogue.run c (memory (some {}) before)).calls ∧
        (memory (some {}) before).loaded = []) ∧
      (memory (some {}) (before ++ [free])).loaded = [.ofText "/g/engine.js"] ∧
      ((arrive ["--check", "a.js"] .empty).dialogue.run c
        (memory (some {}) (before ++ [free]))).outcome = .ok "x" ∧
      (memory none (before ++ [free])).operations = [] := by
  intro modules c arrive confined before free memory
  obtain ⟨-, -, -, first⟩ := one_engine Engine.answers modules (some {}) before
  obtain ⟨-, loaded, -, later⟩ := one_engine Engine.answers modules (some {}) (before ++ [free])
  obtain ⟨-, -, quiet, -⟩ := one_engine Engine.answers modules none (before ++ [free])
  have located : (before ++ [free]).filterMap (·.located? modules) = [.ofText "/g/engine.js"] := rfl
  rw [located] at loaded
  refine ⟨?_, loaded, ?_, quiet rfl⟩
  · have asked : .perform {} (.fileInfo (.ofText "/p/a.js") ⟨.ofText "/p/.prettierignore"⟩) ∈
        (free.dialogue.run c (memory (some {}) before)).calls :=
      .tail _ (.tail _ (.tail _ (.head _)))
    exact ⟨_, asked, ((first free).2.1 _ _ asked).2.1⟩
  · have late : (memory (some {}) (before ++ [free])).loaded ≠ [] := by
      rw [loaded]
      nofun
    exact (later (arrive ["--check", "a.js"] .empty)).2.2 (.inl late) _ _ rfl

end FormatDaemon
