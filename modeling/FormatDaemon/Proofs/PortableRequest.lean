import FormatDaemon.Helper.Exchange
import FormatDaemon.Proofs.DispatchedOptions
import FormatDaemon.Proofs.Portable

/-!
# Requests that only ask what can cross a line

* `Request.Portable`: a request from a directory that is text, without numbers beyond 64
  bits among its options.
* `Turn.Kept`: a turn whose answer can cross a line.
* `Request.Way.portable`: **if all answers can cross a line, all calls can**.
-/

namespace FormatDaemon

variable {isFile : Path → Bool}

/-- A request whose directory is text and whose numbers are kept exactly. -/
structure Request.Portable (r : Request) : Prop where
  cwd : r.cwd.IsText
  numbers : ∀ args, Arguments.ofTokens? r.args = .ok args → ∀ name n,
    Flag.lastValue? args.options name = some (.number n) → n.Exact

/-- A call with which a helper can be sent. -/
def Call.Portable (isFile : Path → Bool) : Call Helper.Engine → Prop
  | .locate .. | .locateGlobal .. => True
  | .load module _ _ => isFile module = true
  | .perform engine operation => engine.module.IsText ∧ operation.Portable

/-- A turn whose answer, if there is one, can cross a line. -/
def Turn.Kept (isFile : Path → Bool) : Turn Helper.Engine → Prop
  | ⟨.locate .., .ok module⟩ | ⟨.locateGlobal .., .ok module⟩ =>
    module.IsText ∧ isFile module = true
  | ⟨.load module shim? env, reply⟩ => reply = .ok (some ⟨module, shim?, env⟩)
  | ⟨.perform _ operation, .ok answer⟩ => operation.PortableAnswer answer
  | ⟨.locate .., .error _⟩ | ⟨.locateGlobal .., .error _⟩ | ⟨.perform .., .error _⟩ => True

/-! ### Final options -/

theorem portable_scalar {v : Flag.Value} (h : ∀ n, v = .number n → n.Exact) :
    v.toJson.Portable := by
  cases v with
  | switch on => exact ⟨trivial, rfl, (by decide : 0 + 2 ≤ 127)⟩
  | number n => exact ⟨h n rfl, rfl, (by decide : 0 + 2 ≤ 127)⟩
  | text s => exact ⟨trivial, rfl, (by decide : 0 + 2 ≤ 127)⟩

theorem portable_given {tokens : List String} (h : ∀ name n,
    Flag.lastValue? tokens name = some (.number n) → n.Exact) {name : String} {j : Json}
    (hj : RequestOptions.given? tokens name = some j) : j.Portable := by
  unfold RequestOptions.given? at hj
  split at hj
  · cases hj
  · obtain ⟨v, hv, rfl⟩ := Option.map_eq_some_iff.1 hj
    exact portable_scalar fun n hn => h name n (hn ▸ hv)

/-- The side a value comes from lets it cross. -/
theorem portable_choose {p : Precedence} {cli? : Option Json} {file?? : Option (Option Json)}
    {j : Json} (hc : ∀ j, cli? = some j → j.Portable)
    (hf : ∀ j, file?? = some (some j) → j.Portable) (h : p.choose cli? file?? = some j) :
    j.Portable := by
  match file??, p, h with
  | none, _, h => exact hc j h
  | some file?, .preferFile, h => exact hf j (congrArg some h)
  | some file?, .fileOverride, h =>
    rcases Option.or_eq_some_iff.1 h with h | ⟨-, h⟩
    · exact hf j (congrArg some h)
    · exact hc j h
  | some file?, .cliOverride, h =>
    rcases Option.or_eq_some_iff.1 h with h | ⟨-, h⟩
    · exact hc j h
    · exact hf j (congrArg some h)

theorem portable_finalOptions {tokens : List String} (h : ∀ name n,
    Flag.lastValue? tokens name = some (.number n) → n.Exact) {found? : Option Options}
    (hf : ∀ o, found? = some o → Options.Portable o) (file : Path) :
    Options.Portable (Request.finalOptions (.ofTokens tokens) found? file) := by
  intro name j hj
  rw [Request.get?_finalOptions] at hj
  split at hj
  · rw [← Option.some.inj hj]
    exact ⟨trivial, rfl, (by decide : 0 + 2 ≤ 127)⟩
  · refine portable_choose (fun j hj => portable_given h hj) (fun j hj => ?_) hj
    obtain ⟨o, ho, hj⟩ := Option.map_eq_some_iff.1 hj
    exact hf o ho name j hj

/-! ### Stages -/

theorem Resolution.Way.portable {shim? : Option Path} {env : Environment} {start : Path}
    {ts : List (Turn Helper.Engine)} {out : Except EngineError (Option (Helper.Engine × Path))}
    (h : Way shim? env start ts out) (kept : ∀ t ∈ ts, t.Kept isFile) :
    (∀ t ∈ ts, t.call.Portable isFile) ∧
      ∀ engine module, out = .ok (some (engine, module)) → engine.module.IsText := by
  cases h with
  | confined error => exact ⟨by simp [Call.Portable], by simp⟩
  | nowhere first last => exact ⟨by simp [Call.Portable], by simp⟩
  | @loaded ts module found reply =>
    -- the module is the answer of the last lookup, the only one that did not fail
    have hm : module.IsText ∧ isFile module = true := by
      cases found with
      | project => exact kept _ List.mem_cons_self
      | everywhere => exact kept _ (List.mem_cons_of_mem _ List.mem_cons_self)
    have hr : reply = .ok (some ⟨module, shim?, env⟩) :=
      kept _ (List.mem_append_right _ List.mem_cons_self)
    refine ⟨?_, ?_⟩
    · cases found <;> simp [Call.Portable, hm.2]
    · subst hr
      rintro engine _ he
      obtain ⟨rfl, -⟩ := Prod.mk.inj (Option.some.inj (Except.ok.inj he))
      exact hm.1

theorem ConfigSource.isText_explicit? {source : ConfigSource} {cwd : Path} (hc : cwd.IsText)
    {config? : Option Path} (h : source.explicit? cwd = some config?) :
    ∀ p, config? = some p → p.IsText := by
  rintro p rfl
  cases source with
  | disabled => cases h
  | search => cases h
  | path text =>
    rw [← Option.some.inj (Option.some.inj h)]
    exact Path.isText_join hc (Path.isText_ofText text)

namespace Discovery

/-- A question for configuration whose paths are text. -/
theorem portable_first {engine : Helper.Engine} {file : Path} {config? : Option Path}
    {editorconfig : Bool} (he : engine.module.IsText) (hf : file.IsText)
    (hc : ∀ p, config? = some p → p.IsText) :
    (first engine file config? editorconfig).Portable isFile := by
  refine ⟨he, ⟨?_, by simp [Operation.options?]⟩⟩
  intro p hp
  rcases List.mem_cons.1 hp with rfl | hp
  · exact hf
  · exact hc p (Option.mem_toList.1 hp)

theorem portable_second {engine : Helper.Engine} {cwd : Path} {name : String}
    {editorconfig : Bool} (he : engine.module.IsText) (hc : cwd.IsText) :
    (second engine cwd name editorconfig).Portable isFile := by
  have hj := Path.isText_join hc (Path.isText_ofText name)
  refine portable_first he ?_ fun p hp => Option.some.inj hp ▸ hj
  unfold searchFrom
  cases hp : (cwd.join (.ofText name)).parent? with
  | none => exact hj
  | some parent => exact Path.isText_parent? hj hp

theorem Way.portable {env : Environment} {engine : Helper.Engine} {cwd file : Path}
    {source : ConfigSource} {editorconfig : Bool} {ts : List (Turn Helper.Engine)}
    {out : Except EngineError (Option Options)}
    (h : Way env engine cwd file source editorconfig ts out) (kept : ∀ t ∈ ts, t.Kept isFile)
    (he : engine.module.IsText) (hc : cwd.IsText) (hf : file.IsText) :
    (∀ t ∈ ts, t.call.Portable isFile) ∧ ∀ o, out = .ok (some o) → Options.Portable o := by
  cases h with
  | off => exact ⟨by simp, by simp⟩
  | found hs options =>
    refine ⟨?_, ?_⟩
    · rw [List.forall_mem_singleton]
      exact portable_first he hf (ConfigSource.isText_explicit? hc hs)
    · rintro o ho
      exact kept _ List.mem_cons_self o (Except.ok.inj ho)
  | refused hs error =>
    refine ⟨?_, by simp⟩
    rw [List.forall_mem_singleton]
    exact portable_first he hf (ConfigSource.isText_explicit? hc hs)
  | nothing hs =>
    refine ⟨?_, by simp⟩
    rw [List.forall_mem_singleton]
    exact portable_first he hf (ConfigSource.isText_explicit? hc hs)
  | fallback hs named reply =>
    refine ⟨?_, ?_⟩
    · rw [List.forall_mem_cons, List.forall_mem_singleton]
      exact ⟨portable_first he hf (ConfigSource.isText_explicit? hc hs), portable_second he hc⟩
    · rintro o rfl
      exact kept _ (List.mem_cons_of_mem _ List.mem_cons_self) o rfl

end Discovery

namespace Request

variable {r : Request} {args : Arguments}

theorem portable_ignoreCall {engine : Helper.Engine} (hr : r.cwd.IsText)
    (he : engine.module.IsText) : (r.ignoreCall args engine).Portable isFile := by
  refine ⟨he, ⟨?_, by simp [Operation.options?]⟩⟩
  simp only [Operation.paths, List.forall_mem_cons]
  exact ⟨Path.isText_resolve hr _, Path.isText_join hr (Path.isText_ofText _), by simp⟩

theorem portable_finalCall {engine : Helper.Engine} {found? : Option Options}
    (numbers : ∀ name n, Flag.lastValue? args.options name = some (.number n) → n.Exact)
    (he : engine.module.IsText) (hf : ∀ o, found? = some o → Options.Portable o) :
    (r.finalCall args engine found?).Portable isFile := by
  have final := portable_finalOptions numbers hf (r.file args)
  unfold finalCall
  cases args.task with
  | format | check =>
    refine ⟨he, ⟨by simp [Operation.paths, Task.operation], fun o ho => ?_⟩⟩
    exact Option.some.inj ho ▸ final

/-- **If all answers can cross a line, all calls can.** -/
theorem Way.portable {shims : Path → Bool} {ts : List (Turn Helper.Engine)} {out : Outcome}
    (h : Way shims r args ts out) (kept : ∀ t ∈ ts, t.Kept isFile) (hr : r.cwd.IsText)
    (numbers : ∀ name n, Flag.lastValue? args.options name = some (.number n) → n.Exact) :
    ∀ t ∈ ts, t.call.Portable isFile := by
  have hfile : (r.file args).IsText := Path.isText_resolve hr _
  cases h with
  | unresolved search => exact (search.portable kept).1
  | noEngine search => exact (search.portable kept).1
  | unknown search | ignored search =>
    rw [List.forall_mem_append] at kept ⊢
    obtain ⟨calls, module⟩ := search.portable kept.1
    refine ⟨calls, ?_⟩
    rw [List.forall_mem_singleton]
    exact portable_ignoreCall hr (module _ _ rfl)
  | unconfigured search _ discovery =>
    rw [List.forall_mem_append, List.forall_mem_cons] at kept ⊢
    obtain ⟨calls, module⟩ := search.portable kept.1
    have he := module _ _ rfl
    exact ⟨calls, portable_ignoreCall hr he, (discovery.portable kept.2.2 he hr hfile).1⟩
  | dispatched search _ discovery =>
    rw [List.forall_mem_append, List.forall_mem_cons, List.forall_mem_append] at kept ⊢
    obtain ⟨calls, module⟩ := search.portable kept.1
    have he := module _ _ rfl
    obtain ⟨asked, found⟩ := discovery.portable kept.2.2.1 he hr hfile
    refine ⟨calls, portable_ignoreCall hr he, asked, ?_⟩
    rw [List.forall_mem_singleton]
    exact portable_finalCall numbers he fun o ho => found o (congrArg _ ho)

end Request

end FormatDaemon
