import FormatDaemon.Collaborators.Static
import FormatDaemon.Proofs.FlagTable
import FormatDaemon.Proofs.Stages

/-!
# The options an engine is given

* `RequestOptions.given?`, `RequestOptions.strategy`: what the tokens say, name by name.
* `Precedence.choose`: which side a single value comes from.
* `get?_finalOptions`: the final options, name by name.
* `dispatched_options`: **what a request that gets to the engine hands over**, name by
  name, and that with configuration preferred the other tokens do not matter.
-/

namespace FormatDaemon

variable {ε σ : Type}

/-! ### Options of a request -/

namespace RequestOptions

/-- The names that steer the request itself. -/
def reserved : List String := [configKey, precedenceKey, editorconfigKey]

/-- What the tokens give the engine under a name. -/
def given? (tokens : List String) (name : String) : Option Json :=
  if name ∈ reserved then none else (Flag.lastValue? tokens name).map Flag.Value.toJson

/-- The strategy the last token for it names; an unusable one counts as none. -/
def strategy (tokens : List String) : Precedence :=
  ((Flag.lastValue? tokens precedenceKey).bind precedence?).getD .cliOverride

theorem precedence_ofTokens (tokens : List String) :
    (ofTokens tokens).precedence = strategy tokens := by
  simp only [ofTokens, ofTable, lift, Flag.get?_tableOf, strategy]

/-- Whether a token steers the request itself. -/
def steers (token : String) : Bool := (Flag.entry token).1 ∈ reserved

/-- The last value under a reserved name only depends on the tokens that steer. -/
theorem lastValue?_congr {tokens tokens' : List String}
    (h : tokens'.filter steers = tokens.filter steers) {name : String} (hn : name ∈ reserved) :
    Flag.lastValue? tokens' name = Flag.lastValue? tokens name := by
  -- tokens that do not steer have no reserved name
  have hfilter : ∀ ts : List String,
      Flag.lastValue? (ts.filter steers) name = Flag.lastValue? ts name := by
    intro ts
    simp only [Flag.lastValue?, ← List.filter_reverse, List.find?_filter]
    congr 2
    funext token
    by_cases he : (Flag.entry token).1 = name
    · simp [steers, he, hn]
    · simp [he]
  rw [← hfilter tokens', h, hfilter tokens]

section Steering

variable {α : Type} {tokens tokens' : List String} {key : String}

theorem get?_tableOf_congr (h : tokens'.filter steers = tokens.filter steers)
    (hk : key ∈ reserved) : (Flag.tableOf tokens').get? key = (Flag.tableOf tokens).get? key := by
  rw [Flag.get?_tableOf, Flag.get?_tableOf, lastValue?_congr h hk]

/-- What is lifted from a reserved name only depends on the tokens that steer. -/
theorem lift_congr (h : tokens'.filter steers = tokens.filter steers) (hk : key ∈ reserved)
    (read? : Flag.Value → Option α) (default : α) :
    lift (Flag.tableOf tokens') key read? default =
      lift (Flag.tableOf tokens) key read? default := by
  rw [lift, lift, get?_tableOf_congr h hk]

/-- So does what is unusable there. -/
theorem unusable?_congr (h : tokens'.filter steers = tokens.filter steers) (hk : key ∈ reserved)
    (read? : Flag.Value → Option α) :
    unusable? (Flag.tableOf tokens') key read? = unusable? (Flag.tableOf tokens) key read? := by
  rw [unusable?, unusable?, get?_tableOf_congr h hk]

theorem mem_reserved : configKey ∈ reserved ∧ precedenceKey ∈ reserved ∧
    editorconfigKey ∈ reserved := by
  decide

theorem strategy_congr (h : tokens'.filter steers = tokens.filter steers) :
    strategy tokens' = strategy tokens := by
  rw [← precedence_ofTokens, ← precedence_ofTokens]
  exact lift_congr h mem_reserved.2.1 precedence? .cliOverride

/-- Only the tokens that steer are reported on. -/
theorem reports_congr (h : tokens'.filter steers = tokens.filter steers) :
    reports tokens' = reports tokens := by
  obtain ⟨config, precedence, editorconfig⟩ := mem_reserved
  rw [reports, reports, reportsOf, reportsOf, unusable?_congr h config,
    unusable?_congr h precedence, unusable?_congr h editorconfig]

end Steering

/-- What the table has under other keys goes to the engine. -/
theorem get?_engine (tokens : List String) (key : String) :
    (ofTokens tokens).engine.get? key =
      if key ∈ reserved then none else (Flag.tableOf tokens).get? key := by
  have listed : key ∈ reserved ↔ key = configKey ∨ key = precedenceKey ∨ key = editorconfigKey := by
    simp only [reserved, List.mem_cons, List.not_mem_nil, or_false]
  simp only [ofTokens, ofTable, Table.get?_erase, listed]
  by_cases he : key = editorconfigKey
  · simp [he]
  by_cases hp : key = precedenceKey
  · simp [hp]
  by_cases hc : key = configKey
  · simp [hc]
  simp [hc, hp, he]

theorem get?_engineOptions (tokens : List String) (name : String) :
    (ofTokens tokens).engineOptions.get? name = given? tokens name := by
  rw [engineOptions, Table.get?_map, get?_engine, Flag.get?_tableOf, given?]
  split <;> rfl

end RequestOptions

/-! ### Merging -/

/-- The value under a name, whole from one side: `cli?` is what the tokens give, and
`file??` what the configuration says, if there is one. -/
def Precedence.choose (p : Precedence) (cli? : Option Json) (file?? : Option (Option Json)) :
    Option Json :=
  match file??, p with
  | none, _ => cli?
  | some file?, .preferFile => file?
  | some file?, .fileOverride => file?.or cli?
  | some file?, .cliOverride => cli?.or file?

theorem Precedence.get?_merge (p : Precedence) (cli : Options) (found? : Option Options)
    (name : String) :
    (p.merge cli found?).get? name = p.choose (cli.get? name) (found?.map (·.get? name)) := by
  cases found? with
  | none => rfl
  | some found =>
    cases p with
    | cliOverride => exact Table.get?_overlay found cli name
    | fileOverride => exact Table.get?_overlay cli found name
    | preferFile => rfl

namespace Request

/-- The final options, name by name. -/
theorem get?_finalOptions (tokens : List String) (found? : Option Options) (file : Path)
    (name : String) :
    (finalOptions (.ofTokens tokens) found? file).get? name =
      if name = filepathKey then some (.string file.shown)
      else (RequestOptions.strategy tokens).choose (RequestOptions.given? tokens name)
        (found?.map (·.get? name)) := by
  rw [finalOptions, Table.get?_insert, Precedence.get?_merge, RequestOptions.get?_engineOptions,
    RequestOptions.precedence_ofTokens]

end Request

/-! ### What is handed over -/

/-- The options an engine is given to format or to check with. -/
def Call.options? : Call ε → Option Options
  | .perform _ (.format _ options) | .perform _ (.check _ options) => some options
  | _ => none

/-- A turn that hands options over is none of those that do not. -/
theorem Turn.not_mem_of_options? {ts : List (Turn ε)} (h : ∀ t ∈ ts, t.call.options? = none)
    {t : Turn ε} {o : Options} (ho : t.call.options? = some o) : t ∉ ts := fun ht => by
  rw [h t ht] at ho
  cases ho

theorem Turn.config?_eq_none {t : Turn ε} (h : t.kind ≠ .resolveConfig) : t.config? = none := by
  obtain ⟨call, reply⟩ := t
  match call, reply with
  | .perform _ (.resolveConfig ..), _ => exact absurd rfl h
  | .locate .., _ | .locateGlobal .., _ | .load .., _ => rfl
  | .perform _ (.fileInfo ..), _ | .perform _ (.format ..), _ | .perform _ (.check ..), _ => rfl

namespace Resolution.Way

variable {shim? : Option Path} {env : Environment} {start : Path} {ts : List (Turn ε)}
  {out : Except EngineError (Option (ε × Path))}

theorem options?_eq_none (h : Way shim? env start ts out) : ∀ t ∈ ts, t.call.options? = none := by
  cases h with
  | confined => simp [Call.options?]
  | nowhere => simp [Call.options?]
  | loaded found => cases found <;> simp [Call.options?]

theorem findSome?_config? (h : Way shim? env start ts out) : ts.findSome? Turn.config? = none := by
  cases h with
  | confined => simp [Turn.config?]
  | nowhere => simp [Turn.config?]
  | loaded found => cases found <;> simp [Turn.config?]

end Resolution.Way

namespace Discovery.Way

variable {env : Environment} {engine : ε} {cwd file : Path} {source : ConfigSource}
  {editorconfig : Bool} {ts : List (Turn ε)} {out : Except EngineError (Option Options)}

theorem options?_eq_none (h : Way env engine cwd file source editorconfig ts out) :
    ∀ t ∈ ts, t.call.options? = none := by
  cases h <;> simp [Call.options?, first, second]

/-- The discovery ends with the configuration that some answer gave. -/
theorem findSome?_config? (h : Way env engine cwd file source editorconfig ts out) :
    ts.findSome? Turn.config? = (out.toOption).getD none := by
  cases h with
  | off => rfl
  | found => rfl
  | refused => rfl
  | nothing => rfl
  | fallback =>
    cases out with
    | error => rfl
    | ok found? => cases found? <;> rfl

end Discovery.Way

namespace Request

variable {isFile : Path → Bool} {r : Request} {args : Arguments} {ts : List (Turn ε)}
  {out : Outcome}

theorem options?_finalCall {engine : ε} {found? : Option Options} :
    (r.finalCall args engine found?).options? =
      some (finalOptions (options args) found? (r.file args)) := by
  unfold finalCall
  cases args.task <;> rfl

theorem config?_finalCall {engine : ε} {found? : Option Options}
    {reply : (r.finalCall args engine found?).Reply} :
    (⟨r.finalCall args engine found?, reply⟩ : Turn ε).config? = none := by
  refine Turn.config?_eq_none ?_
  rw [Turn.kind_mk, kind_finalCall]
  cases args.task <;> decide

/-- What a request discovers is what its discovery does. -/
theorem findSome?_config?_append {shim? : Option Path} {env : Environment} {start : Path}
    {found : Except EngineError (Option (ε × Path))}
    (search : Resolution.Way shim? env start ts found) {engine : ε}
    {reply : (r.ignoreCall args engine).Reply} (us : List (Turn ε)) :
    (ts ++ ⟨r.ignoreCall args engine, reply⟩ :: us).findSome? Turn.config? =
      us.findSome? Turn.config? := by
  rw [List.findSome?_append, search.findSome?_config?, Option.none_or]
  rfl

/-- A request that gets to the engine hands over the final options of what was discovered. -/
theorem Way.options_eq (h : Way isFile r args ts out) {t : Turn ε} (ht : t ∈ ts) {o : Options}
    (ho : t.call.options? = some o) :
    o = finalOptions (options args) (ts.findSome? Turn.config?) (r.file args) := by
  -- only the last of the four parts of a request hands options over
  cases h with
  | unresolved search => exact absurd ht (Turn.not_mem_of_options? search.options?_eq_none ho)
  | noEngine search => exact absurd ht (Turn.not_mem_of_options? search.options?_eq_none ho)
  | unknown search =>
    rcases List.mem_append.1 ht with ht | ht
    · exact absurd ht (Turn.not_mem_of_options? search.options?_eq_none ho)
    · rw [List.mem_singleton.1 ht] at ho; cases ho
  | ignored search =>
    rcases List.mem_append.1 ht with ht | ht
    · exact absurd ht (Turn.not_mem_of_options? search.options?_eq_none ho)
    · rw [List.mem_singleton.1 ht] at ho; cases ho
  | unconfigured search _ discovery =>
    rcases List.mem_append.1 ht with ht | ht
    · exact absurd ht (Turn.not_mem_of_options? search.options?_eq_none ho)
    rcases List.mem_cons.1 ht with rfl | ht
    · cases ho
    · exact absurd ht (Turn.not_mem_of_options? discovery.options?_eq_none ho)
  | @dispatched ts _ _ search _ _ ds found? discovery =>
    rcases List.mem_append.1 ht with ht | ht
    · exact absurd ht (Turn.not_mem_of_options? search.options?_eq_none ho)
    rcases List.mem_cons.1 ht with rfl | ht
    · cases ho
    rcases List.mem_append.1 ht with ht | ht
    · exact absurd ht (Turn.not_mem_of_options? discovery.options?_eq_none ho)
    rw [List.mem_singleton.1 ht, options?_finalCall] at ho
    rw [findSome?_config?_append search, List.findSome?_append, discovery.findSome?_config?,
      List.findSome?_singleton, config?_finalCall, Option.or_none]
    exact (Option.some.inj ho).symm

/-! ### Tokens that do not matter -/

variable {c : Collaborators ε σ} {s : σ} {o o' : RequestOptions} {file : Path} {engine : ε}

/-- The last call of a request gives no configuration. -/
theorem findSome?_config?_dispatch (found? : Option Options) :
    ((dispatch engine args.task r.text
      (finalOptions (options args) found? (r.file args)) (r.file args)).turns c s).findSome?
        Turn.config? = none := by
  obtain ⟨reply, hts, -⟩ := course_dispatch (Dialogue.course_run c _ s)
  rw [hts, List.findSome?_singleton, config?_finalCall]

/-- From the discovery on, requests with the same final options over a configuration go the
same way if there is one. -/
theorem same_configured (hc : o.config = (options args).config)
    (he : o.editorconfig = (options args).editorconfig)
    (hf : ∀ d, finalOptions o (some d) (r.file args) =
      finalOptions (options args) (some d) (r.file args))
    (hd : ((r.configured args (options args) (r.file args) engine).turns c s).findSome?
      Turn.config? ≠ none) :
    Dialogue.Same c s (r.configured args o (r.file args) engine)
      (r.configured args (options args) (r.file args) engine) := by
  unfold configured Dialogue.andThen at hd ⊢
  rw [hc, he]
  refine Dialogue.Same.bind ?_
  rw [Dialogue.turns_bind, List.findSome?_append,
    (Discovery.way_of_course (Dialogue.course_run c _ s)).findSome?_config?] at hd
  -- without a configuration the tokens would matter, but then nothing gives one
  match ho : ((Discovery.discover r.env engine r.cwd (r.file args) (options args).config
      (options args).editorconfig).run c s).outcome with
  | .error error => exact Dialogue.Same.refl c _ _
  | .ok none =>
    rw [ho] at hd
    exact absurd (findSome?_config?_dispatch none) hd
  | .ok (some d) =>
    simp only [hf d]
    exact Dialogue.Same.refl c _ _

theorem same_withEngine (hc : o.config = (options args).config)
    (he : o.editorconfig = (options args).editorconfig)
    (hf : ∀ d, finalOptions o (some d) (r.file args) =
      finalOptions (options args) (some d) (r.file args))
    (hd : ((r.withEngine args (options args) (r.file args) engine).turns c s).findSome?
      Turn.config? ≠ none) :
    Dialogue.Same c s (r.withEngine args o (r.file args) engine)
      (r.withEngine args (options args) (r.file args) engine) := by
  unfold withEngine at hd ⊢
  refine Dialogue.Same.ask ?_
  simp only [Dialogue.turns, List.findSome?_cons, Turn.config?] at hd
  cases ho : (c.reply (.perform engine
      (.fileInfo (r.file args) ⟨r.cwd.join (.ofText args.ignorePath)⟩)) s).1 with
  | error error => exact Dialogue.Same.refl c _ _
  | ok info =>
    simp only [ho] at hd ⊢
    cases hi : info.ignored with
    | true => exact Dialogue.Same.refl c _ _
    | false =>
      simp only [hi, Bool.false_eq_true, if_false] at hd ⊢
      exact same_configured hc he hf hd

/-- Once read, the argument vector of a request does not matter, and with an engine at hand
neither do the tokens of its options. -/
theorem withEngine_eq (r : Request) (args : Arguments) (tokens more : List String) :
    withEngine (ε := ε) { r with args := tokens } { args with options := more } =
      r.withEngine args := by
  funext o file engine
  unfold withEngine
  congr 1
  funext reply
  cases reply <;> rfl

theorem withArguments_args {tokens : List String} :
    withArguments isFile { r with args := tokens } args =
      (r.withArguments isFile args : Dialogue ε Outcome) := by
  unfold withArguments
  simp only [withEngine_eq r args tokens args.options]

/-- With configuration preferred, other tokens leave a request as it is if there is
configuration. -/
theorem same_withArguments {tokens : List String}
    (hp : RequestOptions.strategy args.options = .preferFile)
    (hs : tokens.filter RequestOptions.steers = args.options.filter RequestOptions.steers)
    (hd : ((r.withArguments isFile args).turns c s).findSome? Turn.config? ≠ none) :
    Dialogue.Same c s (r.withArguments isFile { args with options := tokens })
      (r.withArguments isFile args) := by
  -- over a configuration the strategy never looks at the tokens
  have hf : ∀ d, finalOptions (.ofTokens tokens) (some d) (r.file args) =
      finalOptions (options args) (some d) (r.file args) := by
    intro d
    refine Table.ext_get? fun name => ?_
    rw [options, get?_finalOptions, get?_finalOptions, RequestOptions.strategy_congr hs, hp]
    rfl
  unfold withArguments Resolution.resolve Dialogue.andThen at hd ⊢
  have told : parsed (r.cwd.resolve args.target) { args with options := tokens } =
      parsed (r.cwd.resolve args.target) args := rfl
  simp only [RequestOptions.reports_congr hs, told]
  refine Dialogue.Same.tellAll (Dialogue.Same.tell (Dialogue.Same.bind ?_))
  rw [Dialogue.turns_tellAll, Dialogue.turns, Dialogue.turns_bind, List.findSome?_append,
    (Resolution.way_of_course (Dialogue.course_run c _ _)).findSome?_config?, Option.none_or] at hd
  split
  next engine? ho =>
    rw [ho] at hd
    cases engine? with
    | none => exact Dialogue.Same.refl c _ _
    | some found =>
      obtain ⟨engine, module⟩ := found
      simp only [withEngine_eq r args r.args tokens]
      obtain ⟨config, -, editorconfig⟩ := RequestOptions.mem_reserved
      exact same_withEngine (RequestOptions.lift_congr hs config _ _)
        (RequestOptions.lift_congr hs editorconfig _ _) hf hd
  next => exact Dialogue.Same.refl c _ _

/-- **The options a request hands over.** Whoever replies, they name the file; under any
other name they have a value whole from one side, the one the strategy says. With
configuration preferred and found, tokens that do not steer the request change nothing. -/
theorem dispatched_options (h : Arguments.ofTokens? r.args = .ok args)
    (c : Collaborators ε σ) (s : σ) :
    let turns := (r.run isFile).turns c s
    let found? := turns.findSome? Turn.config?
    (∀ t ∈ turns, ∀ o, t.call.options? = some o →
      o.get? filepathKey = some (.string (r.cwd.resolve args.target).shown) ∧
      ∀ key, key ≠ filepathKey → o.get? key =
        (RequestOptions.strategy args.options).choose (RequestOptions.given? args.options key)
          (found?.map (·.get? key))) ∧
    (RequestOptions.strategy args.options = .preferFile → found?.isSome = true →
      ∀ tokens more,
        Arguments.ofTokens? tokens = .ok { args with options := more } →
        more.filter RequestOptions.steers = args.options.filter RequestOptions.steers →
        (run isFile { r with args := tokens }).turns c s = turns ∧
        (run isFile { r with args := tokens }).run c s = (r.run isFile).run c s) := by
  have hr : (r.run isFile : Dialogue ε Outcome) = r.withArguments isFile args := by
    unfold run; rw [h]
  refine ⟨fun t ht o ho => ?_, fun hp hd tokens more ht hs => ?_⟩
  · rw [hr] at ht ⊢
    rw [(way_of_course (Dialogue.course_run c _ s)).options_eq ht ho]
    refine ⟨?_, fun key hk => ?_⟩
    · rw [options, get?_finalOptions, if_pos rfl, file]
    · rw [options, get?_finalOptions, if_neg hk]
  · rw [hr] at hd ⊢
    have hr' : (run isFile { r with args := tokens } : Dialogue ε Outcome) =
        r.withArguments isFile { args with options := more } := by
      unfold run; rw [ht]; exact withArguments_args
    have same := same_withArguments hp hs (Option.isSome_iff_ne_none.1 hd)
    rw [hr']
    exact ⟨same.turns, same.run⟩

/-- The turns of a request over a configuration that is preferred and switches `semi` off. -/
def settled (tokens : List String) : List (Turn Static.Engine) :=
  (run (fun _ => false) ⟨.ofText "/p", tokens, ⟨.empty⟩, "x"⟩).turns
    (Static.collaborators ⟨some (.ofText "/p/engine"), none⟩)
    ⟨some { discovered? := some (Table.empty.insert "semi" (.bool false)) }, [], [], [], []⟩

theorem dispatched_options_settled :
    settled ["--config-precedence=prefer-file", "--tab-width=4", "a.js"] =
      settled ["--config-precedence=prefer-file", "--semi", "a.js"] ∧
    ∃ t ∈ settled ["--config-precedence=prefer-file", "--semi", "a.js"], ∃ o,
      t.call.options? = some o ∧ o.get? filepathKey = some (.string "/p/a.js") ∧
        o.get? "semi" = some (.bool false) := by
  obtain ⟨handed, same⟩ := @dispatched_options _ _ (fun _ => false)
    ⟨.ofText "/p", ["--config-precedence=prefer-file", "--semi", "a.js"], ⟨.empty⟩, "x"⟩
    ⟨"a.js", .format, false, ".prettierignore", ["--config-precedence=prefer-file", "--semi"]⟩
    rfl (Static.collaborators ⟨some (.ofText "/p/engine"), none⟩)
    ⟨some { discovered? := some (Table.empty.insert "semi" (.bool false)) }, [], [], [], []⟩
  refine ⟨(same rfl rfl _ ["--config-precedence=prefer-file", "--tab-width=4"] rfl rfl).1, ?_⟩
  have reached : (settled ["--config-precedence=prefer-file", "--semi", "a.js"]).any
      (·.call.options?.isSome) = true := rfl
  obtain ⟨t, ht, hs⟩ := List.any_eq_true.1 reached
  obtain ⟨o, ho⟩ := Option.isSome_iff_exists.1 hs
  obtain ⟨named, chosen⟩ := handed t ht o ho
  have shown : ((Path.ofText "/p").resolve "a.js").shown = "/p/a.js" := by decide +kernel
  rw [shown] at named
  exact ⟨t, ht, o, ho, named, chosen "semi" (by decide)⟩

end Request

end FormatDaemon
