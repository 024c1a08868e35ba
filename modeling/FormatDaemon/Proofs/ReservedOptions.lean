import FormatDaemon.Proofs.DispatchedOptions

/-!
# Reserved options

Three keys of the option table steer the request itself. Each is lifted into a field of its own,
and the rest of the table stays as it is.

* `RequestOptions.Lifted`: what the last value under a reserved key makes of its field, and what
  is reported on it; `Lifted.unique`: it makes one thing of it.
* `Dialogue.told`, `Dialogue.Calm`: the events of a run; dialogues without warnings.
* `warnings_run`: **the warnings of a request are the reports on its options**.
* `reserved_lifted`: **each reserved field is decided by the last token for its key alone**, and
  an unusable value leaves the default and is warned of once.
-/

namespace FormatDaemon

variable {ε σ α β : Type}

/-- The strategy a text names is the one with that name, letter by letter. -/
theorem Precedence.ofName?_eq_some_iff {text : String} {p : Precedence} :
    ofName? text = some p ↔ text = p.name := by
  constructor
  · intro found
    have named : (p.name == text) = true :=
      List.find?_some (p := fun q : Precedence => q.name == text) found
    exact (beq_iff_eq.1 named).symm
  · rintro rfl
    cases p <;> decide

/-! ### Usable values -/

namespace RequestOptions

/-- The values that say where configuration comes from. A number is a path of digits. -/
inductive ChoosesSource : Flag.Value → ConfigSource → Prop
  | off : ChoosesSource (.switch false) .disabled
  | path (text : String) : ChoosesSource (.text text) (.path text)
  | digits (n : Number) : ChoosesSource (.number n) (.path n.text)

/-- The values that say which side wins: the names of the strategies. -/
inductive ChoosesPrecedence : Flag.Value → Precedence → Prop
  | named (p : Precedence) : ChoosesPrecedence (.text p.name) p

/-- The values that are a switch. -/
inductive ChoosesSwitch : Flag.Value → Bool → Prop
  | switch (on : Bool) : ChoosesSwitch (.switch on) on

theorem source?_eq_some_iff {value : Flag.Value} {source : ConfigSource} :
    source? value = some source ↔ ChoosesSource value source := by
  constructor
  · intro read
    cases value with
    | switch on =>
      cases on with
      | false => obtain rfl := Option.some.inj read; exact .off
      | true => cases read
    | text s => obtain rfl := Option.some.inj read; exact .path s
    | number n => obtain rfl := Option.some.inj read; exact .digits n
  · intro chosen
    cases chosen <;> rfl

theorem precedence?_eq_some_iff {value : Flag.Value} {p : Precedence} :
    precedence? value = some p ↔ ChoosesPrecedence value p := by
  constructor
  · intro read
    cases value with
    | text s =>
      obtain rfl : s = p.name := Precedence.ofName?_eq_some_iff.1 read
      exact .named p
    | switch on => cases read
    | number n => cases read
  · rintro ⟨⟩
    exact Precedence.ofName?_eq_some_iff.2 rfl

theorem switch?_eq_some_iff {value : Flag.Value} {on : Bool} :
    switch? value = some on ↔ ChoosesSwitch value on := by
  constructor
  · intro read
    cases value with
    | switch set => obtain rfl := Option.some.inj read; exact .switch set
    | number n => cases read
    | text s => cases read
  · rintro ⟨⟩
    rfl

/-! ### Lifting -/

/-- What the last value under a key makes of a field, and the reports on it. Without a value the
field has its default; a usable value sets it; an unusable one leaves the default, whatever was
said before, and is reported on once. -/
inductive Lifted (Chooses : Flag.Value → α → Prop) (default : α) (report : Flag.Value → Event) :
    Option Flag.Value → α → List Event → Prop
  | unset : Lifted Chooses default report none default []
  | set {value : Flag.Value} {a : α} (usable : Chooses value a) :
    Lifted Chooses default report (some value) a []
  | kept {value : Flag.Value} (unusable : ∀ a, ¬ Chooses value a) :
    Lifted Chooses default report (some value) default [report value]

section Lifted

variable {Chooses : Flag.Value → α → Prop} {default : α} {report : Flag.Value → Event}
  {read? : Flag.Value → Option α} (reads : ∀ {value a}, read? value = some a ↔ Chooses value a)

include reads

/-- Nothing but the last value counts. -/
theorem Lifted.unique {value? : Option Flag.Value} {a b : α} {es fs : List Event}
    (ha : Lifted Chooses default report value? a es)
    (hb : Lifted Chooses default report value? b fs) : a = b ∧ es = fs := by
  cases ha with
  | unset => cases hb; exact ⟨rfl, rfl⟩
  | set usable =>
    cases hb with
    | set also =>
      have same : some a = some b := (reads.2 usable).symm.trans (reads.2 also)
      exact ⟨Option.some.inj same, rfl⟩
    | kept unusable => exact absurd usable (unusable _)
  | kept unusable =>
    cases hb with
    | set usable => exact absurd usable (unusable _)
    | kept => exact ⟨rfl, rfl⟩

/-- A field is lifted if its reader knows the usable values. -/
theorem lifted (table : Table Flag.Value) (key : String) :
    Lifted Chooses default report (table.get? key) (lift table key read? default)
      ((unusable? table key read?).map report).toList := by
  unfold lift unusable?
  cases table.get? key with
  | none => exact .unset
  | some value =>
    cases hr : read? value with
    | none =>
      have unusable : ∀ a, ¬ Chooses value a := by
        intro a chosen
        rw [reads.2 chosen] at hr
        cases hr
      have reported : (some value).filter (fun v => (read? v).isNone) = some value := by
        simp [hr]
      rw [Option.bind_some, hr, reported]
      exact .kept unusable
    | some a =>
      have passed : (some value).filter (fun v => (read? v).isNone) = none := by simp [hr]
      rw [Option.bind_some, hr, passed]
      exact .set (reads.1 hr)

end Lifted

theorem lifted_config (tokens : List String) :
    Lifted ChoosesSource .search (fun _ => configReport) (Flag.lastValue? tokens configKey)
      (ofTokens tokens).config
      ((unusable? (Flag.tableOf tokens) configKey source?).map fun _ => configReport).toList := by
  rw [← Flag.get?_tableOf]
  exact lifted source?_eq_some_iff _ configKey

theorem lifted_precedence (tokens : List String) :
    Lifted ChoosesPrecedence .cliOverride precedenceReport (Flag.lastValue? tokens precedenceKey)
      (ofTokens tokens).precedence
      ((unusable? (Flag.tableOf tokens) precedenceKey precedence?).map
        precedenceReport).toList := by
  rw [← Flag.get?_tableOf]
  exact lifted precedence?_eq_some_iff _ precedenceKey

theorem lifted_editorconfig (tokens : List String) :
    Lifted ChoosesSwitch true editorconfigReport (Flag.lastValue? tokens editorconfigKey)
      (ofTokens tokens).editorconfig
      ((unusable? (Flag.tableOf tokens) editorconfigKey switch?).map
        editorconfigReport).toList := by
  rw [← Flag.get?_tableOf]
  exact lifted switch?_eq_some_iff _ editorconfigKey

/-- All reports are warnings. -/
theorem filter_reports (tokens : List String) :
    (reports tokens).filter (·.level == .warn) = reports tokens := by
  rw [List.filter_eq_self]
  intro event reported
  simp only [reports, reportsOf, List.mem_append, Option.mem_toList,
    Option.map_eq_some_iff] at reported
  obtain (⟨value, -, rfl⟩ | ⟨value, -, rfl⟩) | ⟨value, -, rfl⟩ := reported <;> rfl

/-- Tokens of other keys have no influence on the last value under a key. -/
theorem lastValue?_of_named {tokens tokens' : List String} {key : String}
    (same : Flag.named key tokens' = Flag.named key tokens) :
    Flag.lastValue? tokens' key = Flag.lastValue? tokens key := by
  rw [← Flag.lastValue?_named tokens', same, Flag.lastValue?_named]

end RequestOptions

/-! ### What is told -/

namespace Dialogue

/-- The events of a dialogue with collaborators. -/
def told (c : Collaborators ε σ) : Dialogue ε α → σ → List Event
  | .done _, _ => []
  | .tell event next, s => event :: next.told c (c.hear event s)
  | .ask call next, s => (next (c.reply call s).1).told c (c.reply call s).2

/-- A dialogue without warnings. -/
def Calm : Dialogue ε α → Prop
  | .done _ => True
  | .tell event next => event.level ≠ .warn ∧ next.Calm
  | .ask _ next => ∀ reply, (next reply).Calm

theorem Calm.bind {d : Dialogue ε α} {f : α → Dialogue ε β} (hd : d.Calm)
    (hf : ∀ a, (f a).Calm) : (d.bind f).Calm := by
  induction d with
  | done a => exact hf a
  | tell event next ih => exact ⟨hd.1, ih hd.2⟩
  | ask call next ih => exact fun reply => ih reply (hd reply)

theorem Calm.andThen {κ κ' : Type} {raise : κ → κ'} {d : Dialogue ε (Except κ α)}
    {f : α → Dialogue ε (Except κ' β)} (hd : d.Calm) (hf : ∀ a, (f a).Calm) :
    (d.andThen raise f).Calm := by
  refine hd.bind fun result => ?_
  cases result with
  | ok a => exact hf a
  | error e => trivial

/-- Whoever replies, a dialogue without warnings tells none. -/
theorem Calm.told {d : Dialogue ε α} (hd : d.Calm) (c : Collaborators ε σ) (s : σ) :
    (d.told c s).filter (·.level == .warn) = [] := by
  induction d generalizing s with
  | done a => rfl
  | tell event next ih =>
    have mild : (event.level == .warn) = false := by simpa using hd.1
    rw [Dialogue.told, List.filter_cons_of_neg (by simp [mild])]
    exact ih hd.2 _
  | ask call next ih => exact ih _ (hd _) _

theorem told_tellAll (c : Collaborators ε σ) (events : List Event) (d : Dialogue ε α) (s : σ) :
    (tellAll events d).told c s =
      events ++ d.told c (events.foldl (fun s event => c.hear event s) s) := by
  induction events generalizing s with
  | nil => rfl
  | cons event rest ih => exact congrArg (event :: ·) (ih _)

end Dialogue

/-! ### The stages of a request -/

theorem Resolution.calm_load (shim? : Option Path) (env : Environment) (module : Path) :
    (load (ε := ε) shim? env module).Calm := by
  intro reply
  match reply with
  | .ok (some engine) => exact ⟨nofun, trivial⟩
  | .ok none => exact ⟨nofun, trivial⟩
  | .error error => trivial

theorem Resolution.calm_resolve (isFile : Path → Bool) (env : Environment) (cwd start : Path) :
    (resolve (ε := ε) isFile env cwd start).Calm := by
  intro reply
  match reply with
  | .ok module => exact calm_load _ env module
  | .error error =>
    dsimp only
    split
    · exact ⟨nofun, trivial⟩
    · refine ⟨nofun, fun last => ?_⟩
      match last with
      | .ok module => exact calm_load _ env module
      | .error error => trivial

theorem Discovery.calm_search (env : Environment) (engine : ε) (cwd file : Path)
    (config? : Option Path) (editorconfig : Bool) :
    (search env engine cwd file config? editorconfig).Calm := by
  intro reply
  match reply with
  | .ok (some found) => exact ⟨nofun, trivial⟩
  | .error error => trivial
  | .ok none =>
    show (fallback env engine cwd editorconfig).Calm
    unfold fallback
    split
    · trivial
    · exact ⟨nofun, fun _ => trivial⟩

theorem Discovery.calm_discover (env : Environment) (engine : ε) (cwd file : Path)
    (source : ConfigSource) (editorconfig : Bool) :
    (discover env engine cwd file source editorconfig).Calm := by
  cases source with
  | disabled => exact ⟨nofun, trivial⟩
  | search => exact calm_search env engine cwd file none editorconfig
  | path text => exact calm_search env engine cwd file _ editorconfig

namespace Request

variable {r : Request} {args : Arguments}

theorem calm_dispatch (engine : ε) (task : Task) (text : String) (options : Options)
    (file : Path) : (dispatch engine task text options file).Calm := by
  cases task with
  | format =>
    intro reply
    cases reply <;> trivial
  | check =>
    intro reply
    match reply with
    | .ok true => trivial
    | .ok false => trivial
    | .error error => trivial

theorem calm_withEngine (options : RequestOptions) (file : Path) (engine : ε) :
    (r.withEngine args options file engine).Calm := by
  intro reply
  match reply with
  | .error error => trivial
  | .ok info =>
    dsimp only
    split
    · exact ⟨nofun, trivial⟩
    · exact (Discovery.calm_discover _ engine _ file _ _).andThen fun found? =>
        calm_dispatch engine _ _ _ file

/-- Behind the reports on its options a request warns of nothing. -/
theorem calm_search (isFile : Path → Bool) (r : Request) (args : Arguments) :
    ((Resolution.resolve (ε := ε) isFile r.env r.cwd (r.start args)).andThen
      RequestError.engine fun
        | none => .tell noEngine (.done (.ok r.text))
        | some (engine, _) => r.withEngine args (options args) (r.file args) engine).Calm := by
  refine (Resolution.calm_resolve isFile r.env r.cwd _).andThen fun found? => ?_
  match found? with
  | none => exact ⟨nofun, trivial⟩
  | some (engine, _) => exact calm_withEngine _ _ engine

/-- **The warnings of a request are the reports on its options.** One whose arguments are refused
warns of nothing. -/
theorem warnings_run (isFile : Path → Bool) (r : Request) (c : Collaborators ε σ) (s : σ) :
    ((r.run isFile).told c s).filter (·.level == .warn) =
      match Arguments.ofTokens? r.args with
      | .ok args => RequestOptions.reports args.options
      | .error _ => [] := by
  unfold run
  cases Arguments.ofTokens? r.args with
  | error error => rfl
  | ok args =>
    have rest : (Dialogue.tell (parsed (r.file args) args) _).Calm :=
      ⟨nofun, calm_search (ε := ε) isFile r args⟩
    show (Dialogue.told c (.tellAll (RequestOptions.reports args.options) _) s).filter _ = _
    rw [Dialogue.told_tellAll, List.filter_append, RequestOptions.filter_reports]
    exact (congrArg _ (rest.told c _)).trans (List.append_nil _)

open RequestOptions in
/-- **Each reserved field is decided by the last token for its key alone.** The engine gets the
rest of the table as it is. A usable value sets the field; an unusable one leaves the default and
is reported on once, and these reports, in the order of the fields, are all that a request with
these options warns of. Tokens of other keys, more or fewer or others, change no field. -/
theorem reserved_lifted (tokens : List String) :
    let options := ofTokens tokens
    let last := Flag.lastValue? tokens
    (∀ key, options.engine.get? key =
      if key ∈ reserved then none else (Flag.tableOf tokens).get? key) ∧
    (∃ first second third,
      Lifted ChoosesSource .search (fun _ => configReport) (last configKey) options.config first ∧
      Lifted ChoosesPrecedence .cliOverride precedenceReport (last precedenceKey)
        options.precedence second ∧
      Lifted ChoosesSwitch true editorconfigReport (last editorconfigKey) options.editorconfig
        third ∧
      reports tokens = first ++ second ++ third ∧
      ∀ (isFile : Path → Bool) (r : Request) (args : Arguments),
        Arguments.ofTokens? r.args = .ok args → args.options = tokens →
        ∀ (c : Collaborators ε σ) (s : σ),
          ((r.run isFile).told c s).filter (·.level == .warn) = first ++ second ++ third) ∧
    ∀ tokens',
      (Flag.named configKey tokens' = Flag.named configKey tokens →
        (ofTokens tokens').config = options.config) ∧
      (Flag.named precedenceKey tokens' = Flag.named precedenceKey tokens →
        (ofTokens tokens').precedence = options.precedence) ∧
      (Flag.named editorconfigKey tokens' = Flag.named editorconfigKey tokens →
        (ofTokens tokens').editorconfig = options.editorconfig) := by
  intro options last
  have config := lifted_config tokens
  have precedence := lifted_precedence tokens
  have editorconfig := lifted_editorconfig tokens
  refine ⟨get?_engine tokens, ⟨_, _, _, config, precedence, editorconfig, rfl, ?_⟩,
    fun tokens' => ⟨fun same => ?_, fun same => ?_, fun same => ?_⟩⟩
  · intro isFile r args read passed c s
    rw [warnings_run, read]
    subst passed
    rfl
  · have other := lifted_config tokens'
    rw [lastValue?_of_named same] at other
    exact (Lifted.unique source?_eq_some_iff other config).1
  · have other := lifted_precedence tokens'
    rw [lastValue?_of_named same] at other
    exact (Lifted.unique precedence?_eq_some_iff other precedence).1
  · have other := lifted_editorconfig tokens'
    rw [lastValue?_of_named same] at other
    exact (Lifted.unique switch?_eq_some_iff other editorconfig).1

/-- Later values that cannot be used take the earlier ones with them. -/
example :
    let tokens := ["--config=a.json", "--no-editorconfig", "--config-precedence=prefer-file",
      "--semi", "--editorconfig=maybe", "--configPrecedence=Prefer-File", "--config"]
    RequestOptions.ofTokens tokens =
        ⟨.search, .cliOverride, true, Table.empty.insert "semi" (.switch true)⟩ ∧
      RequestOptions.reports tokens =
        [RequestOptions.configReport, RequestOptions.precedenceReport (.text "Prefer-File"),
          RequestOptions.editorconfigReport (.text "maybe")] := by
  decide +kernel

end Request

end FormatDaemon
