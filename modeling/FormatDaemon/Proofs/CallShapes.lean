import FormatDaemon.Collaborators.Static
import FormatDaemon.Invocation
import FormatDaemon.Proofs.Payloads
import FormatDaemon.Proofs.Stages

/-!
# Calls as values

What a call does that arrives as a value.

* `Invocation.outcome_ne_malformed`: an invocation never ends malformed.
* `invokeJson_grammar`: **which values run as an invocation, and what becomes of others**.
* `invokeJson_agree`: **a request runs the same in either shape, and without one**.
-/

namespace FormatDaemon

/-! ### Requests -/

namespace Request

variable {ε σ : Type}

theorem outcomeAt?_ne_malformed {text : String} {file : Path} {t : Turn ε} {fault : Json.Fault} :
    outcomeAt? text file t ≠ some (.error (.malformed fault)) := by
  obtain ⟨call, reply⟩ := t
  match call, reply with
  | .perform _ (.check ..), .ok formatted => cases formatted <;> simp [outcomeAt?]
  | .perform _ (.fileInfo ..), .ok info => cases hi : info.ignored <;> simp [outcomeAt?, hi]
  | .load .., .ok engine? => cases engine? <;> simp [outcomeAt?]
  | .locate .., .ok _ | .locateGlobal .., .ok _ | .perform _ (.resolveConfig ..), .ok _
  | .perform _ (.format ..), .ok _ | .locate .., .error _ | .locateGlobal .., .error _
  | .load .., .error _ | .perform _ (.resolveConfig ..), .error _
  | .perform _ (.fileInfo ..), .error _ | .perform _ (.format ..), .error _
  | .perform _ (.check ..), .error _ => simp [outcomeAt?]

/-- A request is never malformed. -/
theorem outcome_ne_malformed {isFile : Path → Bool} {r : Request} {ts : List (Turn ε)}
    {out : Outcome} (h : (r.run isFile).Course ts out) (fault : Json.Fault) :
    out ≠ .error (.malformed fault) := by
  unfold run at h
  cases ha : Arguments.ofTokens? r.args with
  | error error =>
    rw [ha] at h
    obtain ⟨-, rfl⟩ := h
    exact nofun
  | ok args =>
    simp only [ha] at h
    cases way_of_course h with
    | unresolved | noEngine | unknown | ignored | unconfigured => exact nofun
    | dispatched _ _ _ ends =>
      rintro rfl
      exact outcomeAt?_ne_malformed ends

end Request

/-! ### Invocations -/

section Invocations

variable {ε σ : Type}

/-- What follows the request of an invocation does not change its outcome. -/
theorem Invocation.outcome_ne_malformed (isFile : Path → Bool) (base : Base) (i : Invocation)
    (c : Collaborators ε σ) (s : σ) (fault : Json.Fault) :
    ((i.run isFile base).run c s).outcome ≠ .error (.malformed fault) := by
  have course := Dialogue.course_run c (i.run isFile base) s
  unfold run at course
  obtain ⟨ts, out, _, -, asked, -, same⟩ := Dialogue.course_bind.1 course
  unfold run
  rw [same]
  exact Request.outcome_ne_malformed asked fault

variable {isFile : Path → Bool} {base : Base} {cwd : Path} {call : Json} {text : String}

theorem invokeJson_called {shape : CallShape}
    (h : Wire.Calls Wire.IsPayload call shape ∨ Wire.Calls Wire.IsListed call shape) :
    invokeJson (ε := ε) isFile base cwd call text =
      (Invocation.ofPayload cwd shape.payload text).run isFile base := by
  unfold invokeJson
  rw [(Wire.callShape_eq_ok_iff call shape).2 h]

theorem invokeJson_other
    (h : ∀ shape, ¬ (Wire.Calls Wire.IsPayload call shape ∨ Wire.Calls Wire.IsListed call shape)) :
    invokeJson (ε := ε) isFile base cwd call text =
      .done (.error (.malformed ⟨.noVariant "InvocationShape", none⟩)) := by
  unfold invokeJson
  cases hc : Wire.callShape call with
  | ok shape => exact absurd ((Wire.callShape_eq_ok_iff call shape).1 hc) (h shape)
  | error fault => rw [Wire.callShape_error hc]

/-- **The grammar of calls.** What is called with a payload in one of its two forms, alone or
behind an argument, runs as that invocation, and never ends malformed. Every other value ends
malformed with status 2 before anyone is called. -/
theorem invokeJson_grammar (isFile : Path → Bool) (base : Base) (cwd : Path) (call : Json)
    (text : String) (c : Collaborators ε σ) (s : σ) :
    let ending := (invokeJson isFile base cwd call text).run c s
    let malformed := RequestError.malformed ⟨.noVariant "InvocationShape", none⟩
    (∀ shape, Wire.Calls Wire.IsPayload call shape ∨ Wire.Calls Wire.IsListed call shape →
      ending = ((Invocation.ofPayload cwd shape.payload text).run isFile base).run c s ∧
        ∀ fault, ending.outcome ≠ .error (.malformed fault)) ∧
    ((∀ shape, ¬ Wire.Calls Wire.IsPayload call shape ∧ ¬ Wire.Calls Wire.IsListed call shape) →
      ending.outcome = .error malformed ∧ malformed.exitStatus = 2 ∧ ending.calls = [] ∧
        ending.memory = s) := by
  intro ending malformed
  constructor
  · intro shape accepted
    have same : ending = ((Invocation.ofPayload cwd shape.payload text).run isFile base).run c s :=
      congrArg (Dialogue.run c · s) (invokeJson_called accepted)
    refine ⟨same, fun fault => ?_⟩
    rw [same]
    exact Invocation.outcome_ne_malformed isFile base _ c s fault
  · intro other
    have refused : invokeJson (ε := ε) isFile base cwd call text = .done (.error malformed) :=
      invokeJson_other fun shape => not_or.2 (other shape)
    have ended : ending = (Dialogue.done (.error malformed)).run c s :=
      congrArg (Dialogue.run c · s) refused
    rw [ended]
    exact ⟨rfl, rfl, rfl, rfl⟩

/-- An argument before a payload is accepted, a number before one is not. -/
theorem invokeJson_grammar_pairs :
    let payload := Json.object [("args", .array [.string "a.js"])]
    let ending (call : Json) := (invokeJson (fun _ => false) (.fixed .empty) (.ofText "/p") call
      "x").run (Static.collaborators ⟨some (.ofText "/p/engine.js"), none⟩)
        ⟨some ⟨none, none, none, false, false⟩, [], [], [], []⟩
    (∀ fault, (ending (.array [.string "--check", payload])).outcome ≠
      .error (.malformed fault)) ∧
    (ending (.array [.number (.integer 1), payload])).calls = [] := by
  intro payload ending
  have read : Wire.IsPayload payload ⟨["a.js"], .empty⟩ := Wire.isPayload_args ["a.js"]
  constructor
  · have accepted := (invokeJson_grammar (fun _ => false) (.fixed .empty) (.ofText "/p")
      (.array [.string "--check", payload]) "x"
      (Static.collaborators ⟨some (.ofText "/p/engine.js"), none⟩)
      ⟨some ⟨none, none, none, false, false⟩, [], [], [], []⟩).1
    exact (accepted _ (.inl (.extended read))).2
  · have other := (invokeJson_grammar (fun _ => false) (.fixed .empty) (.ofText "/p")
      (.array [.number (.integer 1), payload]) "x"
      (Static.collaborators ⟨some (.ofText "/p/engine.js"), none⟩)
      ⟨some ⟨none, none, none, false, false⟩, [], [], [], []⟩).2
    refine (other fun shape => ⟨?_, ?_⟩).2.2.1
    · rintro ⟨h⟩
      cases h
    · rintro ⟨h⟩
      cases h with
      | changed texts => cases texts

/-- A list of the arguments and the changes is no object, alone or behind an argument, and
still runs as a request. -/
theorem invokeJson_positional :
    let call := Json.array [.array [.string "a.js"], .object []]
    let ending := (invokeJson (fun _ => false) (.fixed .empty) (.ofText "/p") call
      "x").run (Static.collaborators ⟨some (.ofText "/p/engine.js"), none⟩)
        ⟨some ⟨none, none, none, false, false⟩, [], [], [], []⟩
    (∀ shape, ¬ Wire.Calls Wire.IsPayload call shape) ∧ ending.outcome = .ok "x" ∧
      ending.calls ≠ [] := by
  intro call ending
  refine ⟨?_, ?_, ?_⟩
  · intro shape
    exact Wire.not_calls_array
  · rfl
  · exact nofun

/-- **The ways to call agree.** An argument before a payload, at the head of its arguments, or
at the head of those of an invocation: all end alike. A payload that was written is called alone
as that payload, what starts with a text never is, and changes may be left out if there are
none. -/
theorem invokeJson_agree (isFile : Path → Bool) (base : Base) (cwd : Path) (first : String)
    (args : List String) (changes : Table (Option String)) (text : String)
    (c : Collaborators ε σ) (s : σ) :
    let run (call : Json) := (invokeJson isFile base cwd call text).run c s
    let direct := ((⟨cwd, first :: args, changes, text⟩ : Invocation).run isFile base).run c s
    run (.array [.string first, Wire.ofPayload ⟨args, changes⟩]) = direct ∧
    run (Wire.ofPayload ⟨first :: args, changes⟩) = direct ∧
    (∀ p, Wire.callShape (Wire.ofPayload p) = .ok (.plain p)) ∧
    (∀ rest p, Wire.callShape (.array (.string first :: rest)) ≠ .ok (.plain p)) ∧
    ∀ ms ms', Json.under "clientEnv" (ms ++ ms') = [] →
      let without := Json.object (ms ++ ms')
      let empty := Json.object (ms ++ ("clientEnv", .object []) :: ms')
      run without = run empty ∧
        run (.array [.string first, without]) = run (.array [.string first, empty]) := by
  intro run direct
  have alone (p : Payload) : Wire.callShape (Wire.ofPayload p) = .ok (.plain p) :=
    Wire.callShape_object.2 ⟨p, Wire.isPayload_ofPayload p, rfl⟩
  have behind (p : Payload) :
      Wire.callShape (.array [.string first, Wire.ofPayload p]) = .ok (.extended first p) :=
    Wire.callShape_pair.2 ⟨p, .inl (Wire.isPayload_ofPayload p), rfl⟩
  refine ⟨?_, ?_, alone, fun _ _ => Wire.callShape_text, fun ms ms' absent => ?_⟩
  · simp only [run, invokeJson, behind]
    rfl
  · simp only [run, invokeJson, alone]
    rfl
  · intro without empty
    obtain ⟨plain, extended⟩ := Wire.callShape_noChanges absent first
    exact ⟨by simp only [run, invokeJson, without, empty, plain],
      by simp only [run, invokeJson, without, empty, extended]⟩

/-- An option in front of a payload whose changes are not mentioned: the request gets to the
engine, which is asked for the configuration in that file. -/
theorem invokeJson_agree_config :
    let args := Json.array [.string "a.js"]
    let behind (payload : Json) := Json.array [.string "--config=.prettierrc", payload]
    let run (call : Json) := (invokeJson (fun _ => false) (.fixed .empty) (.ofText "/p") call
      "x").run (Static.collaborators ⟨some (.ofText "/p/engine.js"), none⟩)
        ⟨some ⟨none, none, none, false, false⟩, [], [], [], []⟩
    let asked (call : Call Static.Engine) : Option (Path × Option Path) :=
      match call with
      | .perform _ (.resolveConfig path query) => some (path, query.config?)
      | _ => none
    let ending := run (behind (.object [("args", args)]))
    ending = run (behind (.object [("args", args), ("clientEnv", .object [])])) ∧
      ending.calls.map Call.kind = [.locate, .load, .fileInfo, .resolveConfig, .format] ∧
      ending.calls.filterMap asked = [(.ofText "/p/a.js", some (.ofText "/p/.prettierrc"))] ∧
      ending.outcome = .ok "x" := by
  intro args behind run asked ending
  have agree := invokeJson_agree (fun _ => false) (.fixed .empty) (.ofText "/p")
    "--config=.prettierrc" ["a.js"] .empty "x"
    (Static.collaborators ⟨some (.ofText "/p/engine.js"), none⟩)
    ⟨some ⟨none, none, none, false, false⟩, [], [], [], []⟩
  exact ⟨(agree.2.2.2.2 [("args", args)] [] rfl).2, rfl, rfl, rfl⟩

end Invocations

end FormatDaemon
