import FormatDaemon.Proofs.Stages

/-!
# The order of a request's calls

* `Request.Orderly`: which calls a request makes, in which order, and how the place
  where it stopped decides its outcome.
* `run_orderly`: **every request is orderly, whatever its collaborators reply**; one
  whose arguments are refused calls nobody.

The proof goes stage by stage: the turns of a request are those of the search for an
engine, of the question about the ignore file, of the discovery, and a last one
(`Request.Way`), and each stage only makes calls of its own kinds.
-/

namespace FormatDaemon

variable {ε σ : Type}

theorem Task.kind_not_mem (task : Task) :
    task.kind ∉ [Call.Kind.locate, .locateGlobal, .load] := by
  cases task <;> decide

namespace Turn

theorem kind_of_engine? {t : Turn ε} (h : t.engine?.isSome) : t.kind = .load := by
  obtain ⟨call, reply⟩ := t
  cases call with
  | load => rfl
  | locate => cases h
  | locateGlobal => cases h
  | perform => cases h

theorem kind_of_spared {t : Turn ε} (h : t.spared) : t.kind = .fileInfo := by
  obtain ⟨call, reply⟩ := t
  match call, reply with
  | .perform _ (.fileInfo ..), _ => rfl
  | .locate .., _ | .locateGlobal .., _ | .load .., _ => cases h
  | .perform _ (.resolveConfig ..), _ | .perform _ (.format ..), _ | .perform _ (.check ..), _ =>
    cases h

end Turn

namespace Request

/-- The kinds of calls a request may make, in their order. -/
def stages (task : Task) : List Call.Kind :=
  [.locate, .locateGlobal, .load, .fileInfo, .resolveConfig, .resolveConfig, task.kind]

/-- A request whose calls come in order, each exactly when it is due, and whose outcome is
decided by the last of them. -/
structure Orderly (r : Request) (args : Arguments) (ts : List (Turn ε)) (out : Outcome) : Prop where
  order : (ts.map Turn.kind).Sublist (stages args.task)
  located : Asked .locate ts
  everywhere : Asked .locateGlobal ts ↔
    (∃ t ∈ ts, t.kind = .locate ∧ t.failed) ∧ r.env.localOnly = false
  loaded : Asked .load ts ↔ ∃ t ∈ ts, t.module?.isSome
  classified : Asked .fileInfo ts ↔ ∃ t ∈ ts, t.engine?.isSome
  configured : Asked .resolveConfig ts ↔
    (∃ t ∈ ts, t.spared) ∧ (options args).config ≠ .disabled
  dispatched : Asked args.task.kind ts ↔
    (∃ t ∈ ts, t.module?.isSome) ∧ (∃ t ∈ ts, t.engine?.isSome) ∧ (∃ t ∈ ts, t.spared) ∧
      ∀ t ∈ ts, t.kind = .resolveConfig → t.failed = false
  stopped : ts.Pairwise fun t _ => t.failed → t.kind = .locate
  decided : ∃ last, ts.getLast? = some last ∧ outcomeAt? r.text (r.file args) last = some out

end Request

/-! ### The search for an engine -/

namespace Resolution.Way

variable {shim? : Option Path} {env : Environment} {start : Path} {ts : List (Turn ε)}
  {out : Except EngineError (Option (ε × Path))}

theorem order (h : Way shim? env start ts out) :
    (ts.map Turn.kind).Sublist [.locate, .locateGlobal, .load] := by
  cases h with
  | confined => simp
  | nowhere => simp
  | loaded found => cases found <;> simp

theorem located (h : Way shim? env start ts out) : Asked .locate ts := by
  cases h with
  | confined => simp
  | nowhere => simp
  | loaded found => cases found <;> simp

theorem everywhere (h : Way shim? env start ts out) : Asked .locateGlobal ts ↔
    (∃ t ∈ ts, t.kind = .locate ∧ t.failed) ∧ env.localOnly = false := by
  cases h with
  | confined error kept => simp [kept]
  | nowhere first last free => simp [Turn.failed, Except.isOk, Except.toBool, free]
  | loaded found =>
    cases found with
    | project => simp [Turn.failed, Except.isOk, Except.toBool]
    | everywhere error module free => simp [Turn.failed, Except.isOk, Except.toBool, free]

theorem loaded_iff (h : Way shim? env start ts out) :
    Asked .load ts ↔ ∃ t ∈ ts, t.module?.isSome := by
  cases h with
  | confined => simp [Turn.module?]
  | nowhere => simp [Turn.module?]
  | loaded found => cases found <;> simp [Turn.module?]

/-- The search ends with an engine exactly if a load gave one. -/
theorem engine_iff (h : Way shim? env start ts out) :
    (∃ t ∈ ts, t.engine?.isSome) ↔ ∃ found, out = .ok (some found) := by
  cases h with
  | confined => simp [Turn.engine?]
  | nowhere => simp [Turn.engine?]
  | loaded found reply =>
    match reply with
    | .ok (some engine) => simp [Turn.engine?, Except.map]
    | .ok none => cases found <;> simp [Turn.engine?, Except.map]
    | .error error => cases found <;> simp [Turn.engine?, Except.map]

theorem stopped (h : Way shim? env start ts out) :
    ts.Pairwise fun t _ => t.failed → t.kind = .locate := by
  cases h with
  | confined => simp
  | nowhere => simp
  | loaded found => cases found <;> simp [Turn.failed, Except.isOk, Except.toBool]

/-- Where the search found an engine, only the lookup in the project can have failed. -/
theorem failed_locate {found : ε × Path} (h : Way shim? env start ts (.ok (some found))) :
    ∀ t ∈ ts, t.failed → t.kind = .locate := by
  generalize hout : (Except.ok (some found) : Except EngineError (Option (ε × Path))) = out at h
  cases h with
  | confined => simp at hout
  | nowhere => simp at hout
  | loaded lookup reply =>
    match reply with
    | .ok (some engine) =>
      cases lookup <;> simp [Turn.failed, Except.isOk, Except.toBool]
    | .ok none => simp [Except.map] at hout
    | .error error => simp [Except.map] at hout

/-- A search without an engine is over with its last turn. -/
theorem decided_error {error : EngineError} (h : Way shim? env start ts (.error error)) :
    ∃ last, ts.getLast? = some last ∧
      ∀ text file, Request.outcomeAt? text file last = some (.error (.engine error)) := by
  generalize hout : (Except.error error : Except EngineError (Option (ε × Path))) = out at h
  cases h with
  | confined => simp at hout
  | nowhere => cases hout; exact ⟨_, rfl, fun _ _ => rfl⟩
  | loaded lookup reply =>
    match reply with
    | .error last => cases hout; exact ⟨_, List.getLast?_concat .., fun _ _ => rfl⟩
    | .ok _ => simp [Except.map] at hout

theorem decided_none (h : Way shim? env start ts (.ok none)) :
    ∃ last, ts.getLast? = some last ∧
      ∀ text file, Request.outcomeAt? text file last = some (.ok text) := by
  generalize hout : (Except.ok none : Except EngineError (Option (ε × Path))) = out at h
  cases h with
  | confined => exact ⟨_, rfl, fun _ _ => rfl⟩
  | nowhere => simp at hout
  | loaded lookup reply =>
    match reply with
    | .ok none => exact ⟨_, List.getLast?_concat .., fun _ _ => rfl⟩
    | .ok (some _) => simp [Except.map] at hout
    | .error _ => simp [Except.map] at hout

end Resolution.Way

/-! ### The discovery -/

namespace Discovery.Way

variable {env : Environment} {engine : ε} {cwd file : Path} {source : ConfigSource}
  {editorconfig : Bool} {ts : List (Turn ε)} {out : Except EngineError (Option Options)}

theorem order (h : Way env engine cwd file source editorconfig ts out) :
    (ts.map Turn.kind).Sublist [.resolveConfig, .resolveConfig] := by
  cases h <;> simp [first, second]

theorem explicit?_eq_none {source : ConfigSource} :
    source.explicit? cwd = none ↔ source = .disabled := by
  cases source <;> simp [ConfigSource.explicit?]

/-- The engine is asked exactly if the discovery is on. -/
theorem asked_iff (h : Way env engine cwd file source editorconfig ts out) :
    Asked .resolveConfig ts ↔ source ≠ .disabled := by
  rw [ne_eq, ← @explicit?_eq_none cwd]
  cases h with
  | off hs => simp [hs]
  | found hs => simp [first, hs]
  | refused hs => simp [first, hs]
  | nothing hs => simp [first, hs]
  | fallback hs => simp [first, hs]

theorem stopped (h : Way env engine cwd file source editorconfig ts out) :
    ts.Pairwise fun t _ => t.failed = false := by
  cases h <;> simp [Turn.failed, Except.isOk, Except.toBool]

theorem failed_eq_false {found? : Option Options}
    (h : Way env engine cwd file source editorconfig ts (.ok found?)) :
    ∀ t ∈ ts, t.failed = false := by
  cases h <;> simp [Turn.failed, Except.isOk, Except.toBool]

/-- A discovery that fails does so with its last question. -/
theorem getLast?_of_error {error : EngineError}
    (h : Way env engine cwd file source editorconfig ts (.error error)) :
    ∃ last, ts.getLast? = some last ∧ last.kind = .resolveConfig ∧ last.failed = true ∧
      ∀ text path, Request.outcomeAt? text path last = some (.error (.engine error)) := by
  cases h with
  | refused => exact ⟨_, rfl, rfl, rfl, fun _ _ => rfl⟩
  | fallback => exact ⟨_, rfl, rfl, rfl, fun _ _ => rfl⟩

end Discovery.Way

/-! ### The whole request -/

namespace Request

variable {isFile : Path → Bool} {r : Request} {args : Arguments} {ts us : List (Turn ε)}
  {out : Outcome}

theorem not_asked_search {k : Call.Kind} {shim? : Option Path} {env : Environment} {start : Path}
    {found : Except EngineError (Option (ε × Path))}
    (search : Resolution.Way shim? env start ts found)
    (hk : k ∉ [Call.Kind.locate, .locateGlobal, .load]) : ¬ Asked k ts :=
  not_asked_of_sublist search.order hk

theorem not_spared_search {shim? : Option Path} {env : Environment} {start : Path}
    {found : Except EngineError (Option (ε × Path))}
    (search : Resolution.Way shim? env start ts found) : ¬ ∃ t ∈ ts, t.spared := by
  rintro ⟨t, ht, hs⟩
  exact not_asked_search search (by decide) ⟨t, ht, Turn.kind_of_spared hs⟩

/-- A request that finds no engine is orderly. -/
theorem orderly_of_search {found : Except EngineError (Option (ε × Path))}
    (search : Resolution.Way (Resolution.shim? isFile r.cwd) r.env (r.start args) ts found)
    (none : ∀ f, found ≠ .ok (some f))
    (decided : ∃ last, ts.getLast? = some last ∧
      outcomeAt? r.text (r.file args) last = some out) : Orderly r args ts out where
  order := search.order.trans (List.sublist_append_left _ _)
  located := search.located
  everywhere := search.everywhere
  loaded := search.loaded_iff
  classified := by
    have h : ¬ ∃ f, found = .ok (some f) := fun ⟨f, hf⟩ => none f hf
    rw [search.engine_iff]
    exact iff_of_false (not_asked_search search (by decide)) h
  configured := iff_of_false (not_asked_search search (by decide))
    fun h => not_spared_search search h.1
  dispatched := iff_of_false (not_asked_search search (Task.kind_not_mem _))
    fun h => not_spared_search search h.2.2.1
  stopped := search.stopped
  decided := decided

/-- A request that finds an engine is orderly if what follows is. -/
theorem orderly_append {found : ε × Path}
    (search : Resolution.Way (Resolution.shim? isFile r.cwd) r.env (r.start args) ts
      (.ok (some found)))
    (order : (us.map Turn.kind).Sublist
      [.fileInfo, .resolveConfig, .resolveConfig, args.task.kind])
    (classified : Asked .fileInfo us)
    (configured : Asked .resolveConfig us ↔
      (∃ t ∈ us, t.spared) ∧ (options args).config ≠ .disabled)
    (dispatched : Asked args.task.kind us ↔
      (∃ t ∈ us, t.spared) ∧ ∀ t ∈ us, t.kind = .resolveConfig → t.failed = false)
    (stopped : us.Pairwise fun t _ => t.failed = false)
    (decided : ∃ last, us.getLast? = some last ∧
      outcomeAt? r.text (r.file args) last = some out) : Orderly r args (ts ++ us) out := by
  obtain ⟨loading, hmem, hgave⟩ := search.engine_iff.2 ⟨found, rfl⟩
  have hload : Asked .load ts := ⟨loading, hmem, Turn.kind_of_engine? hgave⟩
  obtain ⟨finding, hmem', hmodule⟩ := search.loaded_iff.1 hload
  -- the search and what follows it have no kind of call in common
  have hearly : ∀ k ∉ [Call.Kind.locate, .locateGlobal, .load], ¬ Asked k ts :=
    fun k hk => not_asked_of_sublist search.order hk
  have hlater : ∀ k ∉ [Call.Kind.fileInfo, .resolveConfig, .resolveConfig, args.task.kind],
      ¬ Asked k us := fun k hk => not_asked_of_sublist order hk
  have hspared : (∃ t ∈ ts ++ us, t.spared) ↔ ∃ t ∈ us, t.spared := by
    simp only [List.mem_append, or_and_right, exists_or, not_spared_search search, false_or]
  have hchosen : ∃ t ∈ ts ++ us, t.engine?.isSome :=
    ⟨loading, List.mem_append_left us hmem, hgave⟩
  have hfound : ∃ t ∈ ts ++ us, t.module?.isSome :=
    ⟨finding, List.mem_append_left us hmem', hmodule⟩
  constructor
  case order =>
    rw [List.map_append]
    exact search.order.append order
  case located => exact asked_append.2 (.inl search.located)
  case everywhere =>
    have hg := hlater .locateGlobal (by cases args.task <;> decide)
    have hl : ¬ ∃ t ∈ us, t.kind = .locate ∧ t.failed := fun ⟨t, ht, hk, _⟩ =>
      hlater .locate (by cases args.task <;> decide) ⟨t, ht, hk⟩
    simp only [asked_append, hg, or_false, search.everywhere, List.mem_append, or_and_right,
      exists_or, hl]
  case loaded => exact iff_of_true (asked_append.2 (.inl hload)) hfound
  case classified => exact iff_of_true (asked_append.2 (.inr classified)) hchosen
  case configured =>
    rw [hspared, ← configured, asked_append]
    exact or_iff_right (hearly _ (by decide))
  case dispatched =>
    have hfail : (∀ t ∈ ts ++ us, t.kind = .resolveConfig → t.failed = false) ↔
        ∀ t ∈ us, t.kind = .resolveConfig → t.failed = false := by
      simp only [List.mem_append, or_imp, forall_and]
      exact and_iff_right fun t ht hk => absurd ⟨t, ht, hk⟩ (hearly _ (by decide))
    rw [hspared, hfail, ← dispatched, asked_append]
    simp only [hfound, hchosen, true_and]
    exact or_iff_right (hearly _ (Task.kind_not_mem _))
  case stopped =>
    refine List.pairwise_append.2 ⟨search.stopped, ?_, fun t ht _ _ => search.failed_locate t ht⟩
    exact stopped.imp fun ht hf => absurd (ht.symm.trans hf) (by decide)
  case decided =>
    obtain ⟨last, hl, ho⟩ := decided
    exact ⟨last, by rw [List.getLast?_append, hl, Option.some_or], ho⟩

/-- A request that stops at the question about the ignore file is orderly. -/
theorem orderly_of_info {found : ε × Path}
    (search : Resolution.Way (Resolution.shim? isFile r.cwd) r.env (r.start args) ts
      (.ok (some found))) {t : Turn ε} (hk : t.kind = .fileInfo) (hs : t.spared = false)
    (decided : outcomeAt? r.text (r.file args) t = some out) :
    Orderly r args (ts ++ [t]) out := by
  have htask : args.task.kind ≠ .fileInfo := by cases args.task <;> decide
  refine orderly_append search ?_ ?_ ?_ ?_ ?_ ⟨_, rfl, decided⟩
  · simp [hk]
  · simp [hk]
  · simp [hk, hs]
  · simp [hk, hs, htask.symm]
  · simp

/-- A request whose file is not ignored is orderly if its discovery and what follows are. -/
theorem orderly_of_spared {found : ε × Path} {engine : ε}
    (search : Resolution.Way (Resolution.shim? isFile r.cwd) r.env (r.start args) ts
      (.ok (some found))) {t : Turn ε} (hk : t.kind = .fileInfo) (hs : t.spared = true)
    (hf : t.failed = false) {ds : List (Turn ε)} {discovered : Except EngineError (Option Options)}
    (discovery : Discovery.Way r.env engine r.cwd (r.file args) (options args).config
      (options args).editorconfig ds discovered)
    (final : (us.map Turn.kind).Sublist [args.task.kind])
    (dispatched : Asked args.task.kind us ↔ ∀ u ∈ ds, u.failed = false)
    (decided : ∃ last, (ds ++ us).getLast? = some last ∧
      outcomeAt? r.text (r.file args) last = some out) :
    Orderly r args (ts ++ t :: (ds ++ us)) out := by
  have htask : args.task.kind ∉ [Call.Kind.fileInfo, .resolveConfig] := by
    cases args.task <;> decide
  have hds : ∀ u ∈ ds, u.kind = .resolveConfig := fun u hu => by
    simpa using discovery.order.subset (List.mem_map_of_mem hu)
  have hus : ¬ Asked .resolveConfig us :=
    not_asked_of_sublist final (by cases args.task <;> decide)
  have hspared : ∃ u ∈ t :: (ds ++ us), u.spared := ⟨t, List.mem_cons_self, hs⟩
  refine orderly_append search ?_ ?_ ?_ ?_ ?_ ?_
  -- the order: the question, the discovery, and what follows it
  · rw [List.map_cons, List.map_append, hk]
    exact (discovery.order.append final).cons_cons _
  · exact asked_cons.2 (.inl hk)
  · simp only [asked_cons, asked_append, hk, hus, discovery.asked_iff, hspared, true_and, or_false,
      reduceCtorEq, false_or]
  -- only what follows the discovery can be about the task
  · have hasked : ¬ Asked args.task.kind ds := by
      rintro ⟨u, hu, h⟩
      exact htask (by simp [← h, hds u hu])
    have hfail : (∀ u ∈ t :: (ds ++ us), u.kind = .resolveConfig → u.failed = false) ↔
        ∀ u ∈ ds, u.failed = false := by
      constructor
      · intro h u hu
        exact h u (List.mem_cons_of_mem _ (List.mem_append_left _ hu)) (hds u hu)
      · intro h u hu huk
        rcases List.mem_cons.1 hu with rfl | hu
        · exact hf
        rcases List.mem_append.1 hu with hu | hu
        · exact h u hu
        · exact absurd ⟨u, hu, huk⟩ hus
    rw [asked_cons, asked_append, hfail, ← dispatched]
    have hne : ¬ t.kind = args.task.kind := fun h => htask (by simp [← h, hk])
    simp only [hne, hasked, false_or, hspared, true_and]
  -- nothing follows a failure
  · refine List.pairwise_cons.2 ⟨fun _ _ => hf, List.pairwise_append.2 ⟨discovery.stopped, ?_, ?_⟩⟩
    · cases us with
      | nil => exact .nil
      | cons u rest =>
        have hrest : rest = [] := by simpa using final.length_le
        rw [hrest]
        exact List.pairwise_singleton _ _
    -- something follows the discovery, so none of it failed
    · intro u hu v hv
      refine dispatched.1 ⟨v, hv, ?_⟩ u hu
      simpa using final.subset (List.mem_map_of_mem hv)
  · obtain ⟨last, hl, ho⟩ := decided
    refine ⟨last, ?_, ho⟩
    rw [List.getLast?_cons, hl, Option.getD_some]

theorem spared_ignoreCall {engine : ε} {info : FileInfo} (h : info.ignored = false) :
    (⟨r.ignoreCall args engine, .ok info⟩ : Turn ε).spared = true := by
  show (!info.ignored) = true
  rw [h, Bool.not_false]

/-- **Every way of a request is orderly.** -/
theorem Way.orderly (h : Way isFile r args ts out) : Orderly r args ts out := by
  cases h with
  | unresolved search =>
    obtain ⟨last, hl, ho⟩ := search.decided_error
    exact orderly_of_search search (fun _ h => by simp at h) ⟨last, hl, ho _ _⟩
  | noEngine search =>
    obtain ⟨last, hl, ho⟩ := search.decided_none
    exact orderly_of_search search (fun _ h => by simp at h) ⟨last, hl, ho _ _⟩
  | unknown search error => exact orderly_of_info search rfl rfl rfl
  | ignored search hi =>
    refine orderly_of_info search rfl ?_ ?_
    · simp [ignoreCall, Turn.spared, hi]
    · simp [ignoreCall, outcomeAt?, hi]
  | @unconfigured _ _ _ search _ hi ds _ discovery =>
    obtain ⟨last, hl, hk, hfail, ho⟩ := discovery.getLast?_of_error
    rw [← List.append_nil ds]
    refine orderly_of_spared search rfl (spared_ignoreCall hi) rfl discovery (List.nil_sublist _) ?_
      ⟨last, by rwa [List.append_nil], ho _ _⟩
    -- the discovery failed, and nothing follows it
    refine iff_of_false asked_nil fun h => ?_
    rw [h last (List.mem_of_getLast? hl)] at hfail
    exact absurd hfail (by decide)
  | dispatched search hi discovery ends =>
    refine orderly_of_spared search rfl (spared_ignoreCall hi) rfl discovery ?_ ?_
      ⟨_, List.getLast?_concat .., ends⟩
    · simp only [List.map_singleton, Turn.kind_mk, kind_finalCall, List.Sublist.refl]
    · exact iff_of_true (asked_cons.2 (.inl kind_finalCall)) discovery.failed_eq_false

/-- **The order of a request's calls.** Whatever its collaborators reply, a request calls nobody
if its arguments are refused, and is orderly otherwise. -/
theorem run_orderly (isFile : Path → Bool) (r : Request) (c : Collaborators ε σ) (s : σ) :
    let ending := (r.run isFile).run c s
    let ts := (r.run isFile).turns c s
    ending.calls = ts.map (·.call) ∧
      match Arguments.ofTokens? r.args with
      | .error error => ts = [] ∧ ending.outcome = .error (.usage error)
      | .ok args => Orderly r args ts ending.outcome := by
  intro ending ts
  have hc : (r.run isFile).Course ts ending.outcome := Dialogue.course_run c _ s
  refine ⟨Dialogue.calls_run c _ s, ?_⟩
  unfold run at hc
  cases ha : Arguments.ofTokens? r.args with
  | error error =>
    rw [ha] at hc
    exact hc
  | ok args =>
    rw [ha] at hc
    exact (way_of_course hc).orderly

end Request

end FormatDaemon
