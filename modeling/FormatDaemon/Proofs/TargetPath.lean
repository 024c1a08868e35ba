import FormatDaemon.Proofs.ArgumentWords
import FormatDaemon.Proofs.NormalPath
import FormatDaemon.Proofs.RequestCalls
import FormatDaemon.Proofs.RequestOrder

/-!
# The path of the target

The target of a request is made a path once, and everybody gets that path.

* `Request.Aimed`: where the path of the target shows up in a request.
* `Arguments.retarget`: an argument vector with its target spelled in another way.
* `target_agreed`: **every request is aimed at the normal form of its target, and how
  the target is spelled does not matter**.
-/

namespace FormatDaemon

variable {ε σ : Type}

/-- Where a lookup starts. -/
def Call.start? : Call ε → Option Path
  | .locate start .. => some start
  | _ => none

/-- The file a question to an engine is about. -/
def Call.path? : Call ε → Option Path
  | .perform _ (.resolveConfig path _) | .perform _ (.fileInfo path _) => some path
  | _ => none

/-- Whether the engine said that the text is not formatted. -/
def Turn.refused : Turn ε → Bool
  | ⟨.perform _ (.check ..), .ok formatted⟩ => !formatted
  | _ => false

theorem Turn.kind_of_refused {t : Turn ε} (h : t.refused = true) : t.kind = .check := by
  obtain ⟨call, reply⟩ := t
  match call, reply with
  | .perform _ (.check ..), _ => rfl
  | .locate .., _ | .locateGlobal .., _ | .load .., _ => cases h
  | .perform _ (.resolveConfig ..), _ | .perform _ (.format ..), _ | .perform _ (.fileInfo ..), _ =>
    cases h

theorem Task.kind_ne_fileInfo (task : Task) : task.kind ≠ .fileInfo := by
  cases task <;> decide

theorem Task.kind_ne_resolveConfig (task : Task) : task.kind ≠ .resolveConfig := by
  cases task <;> decide

/-! ### Another spelling of the target -/

namespace Arguments

/-- A word with another file in place of the one it names. -/
def Word.rename (name : String) : Word → Word
  | .file _ => .file name
  | w => w

/-- An argument vector with its target spelled in another way. -/
def retarget (name : String) (tokens : List String) : List String :=
  spell ((cut tokens).map (Word.rename name))

theorem Word.whole_file {name : String} (h : isDashed name = false) : (Word.file name).Whole := by
  rw [← Word.ofToken_of_not_isDashed h]
  refine Word.whole_ofToken ?_
  rintro rfl
  exact absurd h (by decide)

theorem Word.whole_rename {name : String} (h : isDashed name = false) {w : Word}
    (hw : w.Whole) : (w.rename name).Whole := by
  cases w with
  | file => exact Word.whole_file h
  | ignorePath | noColor | select | option | dangling => exact hw

/-- A word that names no file stays where it is. -/
theorem mem_map_rename {name : String} {words : List Word} {v : Word} (h : v.file? = none) :
    v ∈ words.map (Word.rename name) ↔ v ∈ words := by
  rw [List.mem_map]
  constructor
  · rintro ⟨w, hw, rfl⟩
    cases w with
    | file => cases h
    | ignorePath | noColor | select | option | dangling => exact hw
  · intro hv
    refine ⟨v, hv, ?_⟩
    cases v with
    | file => cases h
    | ignorePath | noColor | select | option | dangling => rfl

theorem filterMap_rename {α : Type} {name : String} {f : Word → Option α}
    (h : ∀ w, f (w.rename name) = f w) (words : List Word) :
    (words.map (Word.rename name)).filterMap f = words.filterMap f := by
  rw [List.filterMap_map]
  exact congrArg (List.filterMap · words) (funext h)

theorem filterMap_file?_rename (name : String) (words : List Word) :
    (words.map (Word.rename name)).filterMap Word.file? =
      (words.filterMap Word.file?).map fun _ => name := by
  rw [List.filterMap_map, List.map_filterMap]
  congr 1
  funext w
  cases w <;> rfl

/-- **Another spelling of the target changes the target alone.** -/
theorem ofTokens?_retarget {name : String} (hn : isDashed name = false) {tokens : List String}
    {args : Arguments} (h : ofTokens? tokens = .ok args) :
    ofTokens? (retarget name tokens) = .ok { args with target := name } := by
  have read := ofTokens?_eq_ok_iff.1 h
  have whole : ∀ w ∈ (cut tokens).map (Word.rename name), w.Whole := by
    intro v hv
    obtain ⟨w, hw, rfl⟩ := List.mem_map.1 hv
    exact Word.whole_rename hn (Word.whole_of_mem_cut hw fun e => read.whole (e ▸ hw))
  rw [ofTokens?_eq_ok_iff, retarget, cut_spell whole]
  constructor
  case whole =>
    rw [mem_map_rename rfl]
    exact read.whole
  case target =>
    have named : (cut tokens).filterMap Word.file? = [args.target] := read.target
    rw [filterMap_file?_rename, named]
    rfl
  case task =>
    rw [filterMap_rename (by rintro (_ | _) <;> rfl)]
    exact read.task
  case noColor =>
    simp only [mem_map_rename (v := .noColor) rfl]
    exact read.noColor
  case ignorePath =>
    rw [filterMap_rename (by rintro (_ | _) <;> rfl)]
    exact read.ignorePath
  case options =>
    rw [filterMap_rename (by rintro (_ | _) <;> rfl)]
    exact read.options

end Arguments

namespace Request

variable {isFile : Path → Bool} {r : Request} {args : Arguments} {ts : List (Turn ε)}
  {out : Outcome}

/-- The first turn that asks for configuration. -/
def query? (ts : List (Turn ε)) : Option (Turn ε) := ts.find? (·.kind == .resolveConfig)

/-- A request that is aimed at a file: the search starts at its parent, the questions
whether it is ignored and what configuration applies to it name it, the engine is handed
its text, and a failed check reports it. -/
structure Aimed (r : Request) (file : Path) (ts : List (Turn ε)) (out : Outcome) : Prop where
  located : ∀ t ∈ ts, ∀ start, t.call.start? = some start →
    file.parent? = some start ∨ file = Path.root ∧ start = r.cwd
  classified : ∀ t ∈ ts, t.kind = .fileInfo → t.call.path? = some file
  configured : ∀ t, query? ts = some t → t.call.path? = some file
  handed : ∀ t ∈ ts, ∀ o, t.call.options? = some o →
    o.get? filepathKey = some (.string file.shown)
  reported : ∀ path, out = .error (.notFormatted path) ↔ path = file ∧ ∃ t ∈ ts, t.refused

/-! ### The first question for configuration -/

theorem query?_search {shim? : Option Path} {env : Environment} {start : Path}
    {found : Except EngineError (Option (ε × Path))}
    (search : Resolution.Way shim? env start ts found) : query? ts = none := by
  refine List.find?_eq_none.2 fun t ht hk => ?_
  exact not_asked_search search (by decide) ⟨t, ht, beq_iff_eq.1 hk⟩

/-- A question for configuration comes after the search and the question about the ignore file. -/
theorem query?_append {shim? : Option Path} {env : Environment} {start : Path}
    {found : Except EngineError (Option (ε × Path))}
    (search : Resolution.Way shim? env start ts found) {engine : ε}
    {reply : (r.ignoreCall args engine).Reply} (us : List (Turn ε)) :
    query? (ts ++ ⟨r.ignoreCall args engine, reply⟩ :: us) = query? us := by
  have before := query?_search search
  unfold query? at before ⊢
  rw [List.find?_append, before, Option.none_or, List.find?_cons_of_neg]
  exact Bool.false_ne_true

/-- The first question of a discovery names the configuration file of its source. -/
theorem first_of_discovery {env : Environment} {engine : ε} {cwd file : Path}
    {source : ConfigSource} {editorconfig : Bool} {found : Except EngineError (Option Options)}
    (discovery : Discovery.Way env engine cwd file source editorconfig ts found) {t : Turn ε}
    (ht : query? ts = some t) :
    ∃ config?, source.explicit? cwd = some config? ∧
      t.call = Discovery.first engine file config? editorconfig := by
  cases discovery with
  | off => cases ht
  | found asked | refused asked | nothing asked | fallback asked =>
    obtain rfl := Option.some.inj ((List.find?_cons_of_pos rfl).symm.trans ht)
    exact ⟨_, asked, rfl⟩

/-- The first question for configuration is about the file of the request and names the
configuration file of its options. -/
theorem Way.query_first (h : Way isFile r args ts out) {t : Turn ε} (ht : query? ts = some t) :
    ∃ engine config?, (options args).config.explicit? r.cwd = some config? ∧
      t.call = Discovery.first engine (r.file args) config? (options args).editorconfig := by
  cases h with
  | unresolved search | noEngine search =>
    rw [query?_search search] at ht
    cases ht
  | unknown search | ignored search =>
    rw [query?_append search] at ht
    cases ht
  | unconfigured search _ discovery =>
    rw [query?_append search] at ht
    exact ⟨_, first_of_discovery discovery ht⟩
  | dispatched search _ discovery =>
    rw [query?_append search, query?, List.find?_append] at ht
    rcases Option.or_eq_some_iff.1 ht with ht | ⟨-, ht⟩
    · exact ⟨_, first_of_discovery discovery ht⟩
    · have hk := List.find?_some ht
      rw [List.mem_singleton.1 (List.mem_of_find?_eq_some ht), Turn.kind_mk, kind_finalCall] at hk
      exact absurd (beq_iff_eq.1 hk) (Task.kind_ne_resolveConfig _)

theorem Way.path?_query (h : Way isFile r args ts out) {t : Turn ε} (ht : query? ts = some t) :
    t.call.path? = some (r.file args) := by
  obtain ⟨engine, config?, -, first⟩ := h.query_first ht
  rw [first]
  rfl

/-! ### A failed check -/

theorem outcomeAt?_notFormatted {text : String} {file path : Path} {t : Turn ε} :
    outcomeAt? text file t = some (.error (.notFormatted path)) ↔ path = file ∧ t.refused := by
  obtain ⟨call, reply⟩ := t
  match call, reply with
  | .perform _ (.check ..), .ok formatted =>
    cases formatted <;> simp [outcomeAt?, Turn.refused, eq_comm]
  | .perform _ (.fileInfo ..), .ok info =>
    cases hi : info.ignored <;> simp [outcomeAt?, Turn.refused, hi]
  | .load .., .ok engine? => cases engine? <;> simp [outcomeAt?, Turn.refused]
  | .locate .., .ok _ | .locateGlobal .., .ok _ | .perform _ (.resolveConfig ..), .ok _
  | .perform _ (.format ..), .ok _ | .locate .., .error _ | .locateGlobal .., .error _
  | .load .., .error _ | .perform _ (.resolveConfig ..), .error _
  | .perform _ (.fileInfo ..), .error _ | .perform _ (.format ..), .error _
  | .perform _ (.check ..), .error _ => simp [outcomeAt?, Turn.refused]

/-- A failed check is the end of a request. -/
theorem Way.getLast?_of_refused (h : Way isFile r args ts out) {t : Turn ε} (ht : t ∈ ts)
    (hr : t.refused) : ts.getLast? = some t := by
  have hk := Turn.kind_of_refused hr
  have searching : ∀ {us found},
      Resolution.Way (Resolution.shim? isFile r.cwd) r.env (r.start args) us found → t ∉ us :=
    fun search hm => not_asked_search search (by decide) ⟨t, hm, hk⟩
  have discovering : ∀ {engine us found}, Discovery.Way r.env engine r.cwd (r.file args)
      (options args).config (options args).editorconfig us found → t ∉ us :=
    fun discovery hm => not_asked_of_sublist discovery.order (by decide) ⟨t, hm, hk⟩
  cases h with
  | unresolved search | noEngine search => exact absurd ht (searching search)
  | unknown search | ignored search =>
    rcases List.mem_append.1 ht with ht | ht
    · exact absurd ht (searching search)
    · rw [List.mem_singleton.1 ht] at hr
      cases hr
  | unconfigured search _ discovery =>
    rcases List.mem_append.1 ht with ht | ht
    · exact absurd ht (searching search)
    rcases List.mem_cons.1 ht with rfl | ht
    · cases hr
    · exact absurd ht (discovering discovery)
  | dispatched search _ discovery =>
    rcases List.mem_append.1 ht with ht | ht
    · exact absurd ht (searching search)
    rcases List.mem_cons.1 ht with rfl | ht
    · cases hr
    rcases List.mem_append.1 ht with ht | ht
    · exact absurd ht (discovering discovery)
    · rw [List.mem_singleton.1 ht, ← List.cons_append, ← List.append_assoc, List.getLast?_concat]

theorem Way.aimed (hc : r.cwd.isAbsolute = true) (h : Way isFile r args ts out) :
    Aimed r (r.file args) ts out where
  located := by
    intro t ht start hs
    have asks := h.asks t ht
    obtain ⟨call, reply⟩ := t
    cases asks with
    | locate =>
      obtain rfl : r.start args = start := Option.some.inj hs
      unfold Request.start
      cases hp : (r.file args).parent? with
      | none =>
        have normal : (r.file args).IsNormal := Path.isNormal_resolve hc args.target
        exact .inr ⟨normal.parent?_eq_none_iff.1 hp, rfl⟩
      | some parent => exact .inl rfl
    | locateGlobal | load | ignore | first | second | final => cases hs
  classified := by
    intro t ht hk
    have asks := h.asks t ht
    obtain ⟨call, reply⟩ := t
    cases asks with
    | ignore => rfl
    | locate | locateGlobal | load | first | second => cases hk
    | final =>
      rw [Turn.kind_mk, Call.kind, Task.kind_operation] at hk
      exact absurd hk (Task.kind_ne_fileInfo _)
  configured := fun t ht => h.path?_query ht
  handed := by
    intro t ht o ho
    rw [h.options_eq ht ho, options, get?_finalOptions, if_pos rfl]
  reported := by
    obtain ⟨last, hl, decided⟩ := h.orderly.decided
    intro path
    constructor
    · rintro rfl
      obtain ⟨rfl, hr⟩ := outcomeAt?_notFormatted.1 decided
      exact ⟨rfl, last, List.mem_of_getLast? hl, hr⟩
    · rintro ⟨rfl, t, ht, hr⟩
      obtain rfl : last = t := Option.some.inj (hl.symm.trans (h.getLast?_of_refused ht hr))
      exact Option.some.inj (decided.symm.trans (outcomeAt?_notFormatted.2 ⟨rfl, hr⟩))

/-! ### Whole requests -/

/-- Once read, an argument vector with another spelling of the same target is the same. -/
theorem withArguments_retarget {target : String} (tokens : List String)
    (same : r.cwd.resolve target = r.cwd.resolve args.target) :
    withArguments (ε := ε) isFile { r with args := tokens } { args with target := target } =
      r.withArguments isFile args := by
  have engine : withEngine (ε := ε) { r with args := tokens } { args with target := target } =
      r.withEngine args := withEngine_congr tokens rfl rfl
  unfold withArguments
  simp only [same, engine]
  rfl

/-- **Every request is aimed at the normal form of its target**, whoever replies, and a
request whose target is spelled in another way is the same one. -/
theorem target_agreed (isFile : Path → Bool) {r : Request} {args : Arguments}
    (hc : r.cwd.isAbsolute = true) (h : Arguments.ofTokens? r.args = .ok args) :
    let file := r.cwd.resolve args.target
    file.isAbsolute = true ∧ (∀ n ∈ file.names, n ≠ [Path.dot] ∧ n ≠ [Path.dot, Path.dot]) ∧
      (∀ (c : Collaborators ε σ) (s : σ),
        Aimed r file ((r.run isFile).turns c s) ((r.run isFile).run c s).outcome) ∧
      ∀ target, Arguments.isDashed target = false → r.cwd.resolve target = file →
        (run isFile { r with args := Arguments.retarget target r.args } : Dialogue ε Outcome) =
          r.run isFile := by
  intro file
  have normal : file.IsNormal := Path.isNormal_resolve hc args.target
  have hr : (r.run isFile : Dialogue ε Outcome) = r.withArguments isFile args := by
    unfold run; rw [h]
  refine ⟨normal.isAbsolute, normal.ne_dots, fun c s => ?_, fun target hd same => ?_⟩
  · rw [hr]
    exact (way_of_course (Dialogue.course_run c _ s)).aimed hc
  · rw [hr, run, Arguments.ofTokens?_retarget hd h]
    exact withArguments_retarget _ same

/-- The same file from the root and by a detour; the name of the ignore file stays. A check
that fails has asked about it all along, and reports it. -/
theorem target_agreed_detour :
    let r : Request :=
      ⟨.ofText "/p", ["--check", "x/..//a.js", "--ignore-path", "x/..//a.js"], ⟨.empty⟩, "x"⟩
    let file := Path.ofText "/p/a.js"
    let checked := (r.run fun _ => false).run
      (Static.collaborators ⟨some (.ofText "/p/engine"), none⟩) ⟨some {}, [], [], [], []⟩
    (run (fun _ => false)
        { r with args := ["--check", "/../p/./a.js", "--ignore-path", "x/..//a.js"] } :
      Dialogue Static.Engine Outcome) = r.run (fun _ => false) ∧
    r.cwd.resolve "/../p/./a.js" = file ∧
    checked.calls.map Call.kind = [.locate, .load, .fileInfo, .resolveConfig, .check] ∧
    checked.calls.filterMap Call.start? = [.ofText "/p"] ∧
    checked.calls.filterMap Call.path? = [file, file] ∧
    (∃ o, checked.calls.filterMap Call.options? = [o] ∧
      o.get? filepathKey = some (.string "/p/a.js")) ∧
    checked.outcome = .error (.notFormatted file) := by
  intro r file checked
  have named : r.cwd.resolve "x/..//a.js" = file := by decide
  have same : r.cwd.resolve "/../p/./a.js" = r.cwd.resolve "x/..//a.js" := by decide
  have absolute : r.cwd.isAbsolute = true := by decide
  obtain ⟨-, -, aimed, spelled⟩ := @target_agreed _ Static.Memory (fun _ => false) r
    ⟨"x/..//a.js", .check, false, "x/..//a.js", []⟩ absolute rfl
  have aims := aimed (Static.collaborators ⟨some (.ofText "/p/engine"), none⟩)
    ⟨some {}, [], [], [], []⟩
  rw [named] at aims
  refine ⟨spelled "/../p/./a.js" rfl same, by decide, rfl, by decide, by decide, ?_, ?_⟩
  · have once : (checked.calls.filterMap Call.options?).length = 1 := rfl
    obtain ⟨o, only⟩ := List.length_eq_one_iff.1 once
    refine ⟨o, only, ?_⟩
    obtain ⟨call, hc, ho⟩ := List.mem_filterMap.1 (only ▸ List.mem_singleton_self o)
    rw [Dialogue.calls_run] at hc
    obtain ⟨t, ht, rfl⟩ := List.mem_map.1 hc
    have shown : file.shown = "/p/a.js" := Utf8.decodeLossy_encode "/p/a.js"
    rw [← shown]
    exact aims.handed t ht o ho
  · have refused : ((r.run fun _ => false).turns
        (Static.collaborators ⟨some (.ofText "/p/engine"), none⟩)
        ⟨some {}, [], [], [], []⟩).any Turn.refused = true := rfl
    obtain ⟨t, ht, hr⟩ := List.any_eq_true.1 refused
    exact (aims.reported file).2 ⟨rfl, t, ht, hr⟩

end Request

end FormatDaemon
