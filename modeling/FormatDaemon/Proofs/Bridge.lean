import FormatDaemon.Collaborators.Helpers
import FormatDaemon.Proofs.PortableRequest
import FormatDaemon.Proofs.Wire

/-!
# An engine behind helpers

An engine in memory can be asked directly, or it can sit in a helper that reads a
request off its line and prints its answer on one.

* `InMemory`: such an engine; `direct` and `bridged`: who answers with it in reach
  and behind helpers.
* `perform_serving`: **a portable question gets the same answer either way**.
* `bridged_run`: **a request runs the same either way**.
-/

namespace FormatDaemon

variable {σ : Type}

/-- An engine in memory: it answers, or says what went wrong. -/
abbrev InMemory : Type := (operation : Operation) → Except String operation.Answer

/-- Who finds modules, with a memory of its own. -/
structure Locator (σ : Type) where
  locate : Path → Option Path → Environment → σ → Except EngineError Path × σ
  locateGlobal : Option Path → Environment → σ → Except EngineError Path × σ

/-- All modules that are found are files whose paths are text. -/
structure Locator.Finds (L : Locator σ) (isFile : Path → Bool) : Prop where
  locate : ∀ {start shim? env s module}, (L.locate start shim? env s).1 = .ok module →
    module.IsText ∧ isFile module = true
  locateGlobal : ∀ {shim? env s module}, (L.locateGlobal shim? env s).1 = .ok module →
    module.IsText ∧ isFile module = true

namespace InMemory

variable (E : InMemory)

/-- The engine in reach, remembering what it was asked. A module is only a handle. -/
def direct (L : Locator σ) : Collaborators Helper.Engine (σ × List Operation) where
  reply
    | .locate start shim? env, (s, asked) =>
      let (reply, s) := L.locate start shim? env s
      (reply, (s, asked))
    | .locateGlobal shim? env, (s, asked) =>
      let (reply, s) := L.locateGlobal shim? env s
      (reply, (s, asked))
    | .load module shim? env, m => (.ok (some ⟨module, shim?, env⟩), m)
    | .perform _ operation, (s, asked) =>
      ((E operation).mapError (.engine operation.name), (s, asked ++ [operation]))
  hear _ m := m

/-- The response of a helper with the engine in it. -/
def response (operation : Operation) : HelperResponse :=
  match E operation with
  | .ok answer => .ok (Wire.ofAnswer operation answer)
  | .error message => .error message

/-- What a helper with the engine in it does: it reads its input to the end, and prints the
response to the request on one line. -/
def serve (input : List UInt8) : Option Operation × Helper.Run :=
  match (Utf8.decode? input).map (Json.Decoder.ofText Wire.request) with
  | some (.ok request) =>
    (some request.operation,
      ⟨Utf8.encode ((Wire.ofResponse (E.response request.operation)).print ++ "\n"), [],
        .exit 0, input, none⟩)
  | _ => (none, ⟨[], [], .exit 1, input, none⟩)

/-- The system whose helpers have the engine in them, remembering what that was asked. -/
def serving (isFile : Path → Bool) : Helper.System (List Operation) where
  start launch asked :=
    let (operation?, run) := E.serve launch.input
    (.ok run, asked ++ operation?.toList)
  isFile p _ := isFile p

/-- The engine behind helpers. -/
def bridged (L : Locator σ) (isFile : Path → Bool) (setup : Helper.Setup) :
    Collaborators Helper.Engine (σ × Helper.Memory (List Operation)) where
  reply
    | .locate start shim? env, (s, m) =>
      let (reply, s) := L.locate start shim? env s
      (reply, (s, m))
    | .locateGlobal shim? env, (s, m) =>
      let (reply, s) := L.locateGlobal shim? env s
      (reply, (s, m))
    | .load module shim? env, (s, m) =>
      (.ok (Helper.load (E.serving isFile) module shim? env m), (s, m))
    | .perform engine operation, (s, m) =>
      let (reply, m) := Helper.perform (E.serving isFile) setup engine operation m
      (reply, (s, m))
  hear event m := (m.1, m.2.hear [event])

/-- An engine whose answers can cross a line. -/
def Portable : Prop :=
  ∀ operation answer, E operation = .ok answer → operation.PortableAnswer answer

variable {E}

/-! ### One question -/

/-- A helper with the engine in it reads the request it was sent. -/
theorem serve_line {module : Path} {operation : Operation} (hm : module.IsText)
    (ho : operation.Portable) {ms : List (String × Json)}
    (hr : Wire.ofRequest ⟨module, operation⟩ = .ok (.object ms)) :
    E.serve (Utf8.encode ((Json.object ms).print ++ "\n")) =
      (some operation,
        ⟨Utf8.encode ((Wire.ofResponse (E.response operation)).print ++ "\n"), [], .exit 0,
          Utf8.encode ((Json.object ms).print ++ "\n"), none⟩) := by
  obtain ⟨ms', hr', exact, nest, read⟩ := Wire.ofRequest_portable hm ho
  -- `ms` is what is sent, so it is what can be read
  obtain rfl : ms' = ms := by
    rw [hr'] at hr
    exact Json.object.inj (Except.ok.inj hr)
  obtain ⟨node, hn, hd⟩ := @Json.ofText_print _ exact nest ['\n'] (by simp)
  have decoded : Json.Decoder.ofText Wire.request ((Json.object ms').print ++ "\n") =
      .ok ⟨module, operation⟩ := (hd Wire.request).trans (read node hn)
  unfold serve
  simp only [Utf8.decode?_encode, Option.map_some, decoded]

/-- The response of a helper is an object that can be printed and read. -/
theorem response_object (E : InMemory) (operation : Operation) :
    ∃ ms, Wire.ofResponse (E.response operation) = .object ms := by
  cases E.response operation with
  | ok result => exact ⟨_, rfl⟩
  | error message => exact ⟨_, rfl⟩

theorem response_portable (h : E.Portable) (operation : Operation) :
    (Wire.ofResponse (E.response operation)).Exact ∧
      (Wire.ofResponse (E.response operation)).nest ≤ Json.Reader.depthLimit ∧
      Wire.response.Yields (Wire.ofResponse (E.response operation)) (E.response operation) := by
  unfold response
  split
  next answer ha =>
    have portable := h operation answer ha
    refine ⟨⟨trivial, Wire.exact_ofAnswer portable, trivial⟩, ?_,
      Wire.yields_success (Wire.normal_ofAnswer portable)⟩
    have := Wire.nest_ofAnswer portable
    simp only [Wire.ofResponse, Json.nest, Json.nestMembers]
    omega
  next message _ =>
    exact ⟨⟨trivial, trivial, trivial⟩, (by decide : 1 ≤ 127), Wire.yields_failure message⟩

/-- The line a helper prints is read as its response. -/
theorem parse_response (h : E.Portable) (operation : Operation) :
    Helper.Exchange.parse ((Wire.ofResponse (E.response operation)).print ++ "\n") =
      .ok (E.response operation) := by
  obtain ⟨exact, nest, read⟩ := response_portable h operation
  obtain ⟨ms, hms⟩ := response_object E operation
  obtain ⟨node, hn, hd⟩ := @Json.ofText_print _ exact nest [] (by simp)
  have decoded := (hd Wire.response).trans (read node hn)
  rw [String.ofList_nil, String.append_empty] at decoded
  rw [Helper.Exchange.parse, hms, Json.trim_print, ← hms, decoded]
  rfl

/-- What comes back from a helper is the answer of the engine in it. -/
theorem answer_response (h : E.Portable) (operation : Operation) :
    Helper.Exchange.answer operation (E.response operation) =
      (E operation).mapError (.engine operation.name) := by
  unfold response
  split
  next answer ha =>
    rw [Helper.Exchange.answer, (Wire.yields_answer (h operation answer ha)).ofValue, ha]
    rfl
  next message hm =>
    rw [hm]
    rfl

open Helper.Exchange in
theorem outcome_serve (h : E.Portable) (program : Path) {engine : Helper.Engine}
    {operation : Operation} (ht : Textual engine operation) {input : List UInt8} :
    outcome program engine operation
      ⟨Utf8.encode ((Wire.ofResponse (E.response operation)).print ++ "\n"), [], .exit 0, input,
        none⟩ = (E operation).mapError (.engine operation.name) := by
  obtain ⟨ms, -, hl⟩ := line_eq ht
  have first : firstLine (Utf8.encode ((Wire.ofResponse (E.response operation)).print ++ "\n")) =
      Utf8.encode ((Wire.ofResponse (E.response operation)).print ++ "\n") := by
    rw [Utf8.encode_append]
    exact firstLine_append (newline_not_mem_print _) []
  -- a response is never blank: it stands between braces
  have got : received (.ok (Json.object ms).print)
      ⟨Utf8.encode ((Wire.ofResponse (E.response operation)).print ++ "\n"), [], .exit 0, input,
        none⟩ = .ok ((Wire.ofResponse (E.response operation)).print ++ "\n") := by
    unfold received
    simp only [first, Utf8.decode?_encode]
    split
    case h_1 hl => cases hl
    case h_2 hl =>
      have blank := congrArg String.toList (Option.some.inj hl)
      rw [String.toList_append] at blank
      exact absurd (List.append_eq_nil_iff.1 blank).2 (by decide)
    case h_3 line _ hl => rw [Option.some.inj hl]
  rw [outcome, hl, Helper.Exchange.response]
  simp only [Helper.Ending.isSuccess, decide_true, if_true, got, Except.bind, parse_response h]
  exact answer_response h operation

/-- **A portable question gets the same answer from an engine behind helpers.** -/
theorem perform_serving (h : E.Portable) {isFile : Path → Bool} {setup : Helper.Setup}
    {engine : Helper.Engine} {operation : Operation} (hm : engine.module.IsText)
    (ho : operation.Portable) (m : Helper.Memory (List Operation)) :
    (Helper.perform (E.serving isFile) setup engine operation m).1 =
        (E operation).mapError (.engine operation.name) ∧
      (Helper.perform (E.serving isFile) setup engine operation m).2.system =
        m.system ++ [operation] := by
  have ht : Helper.Exchange.Textual engine operation := fun p hp =>
    (List.mem_cons.1 hp).elim (fun e => e ▸ hm) (ho.paths p)
  obtain ⟨ms, hr, hl⟩ := Helper.Exchange.line_eq ht
  have served := serve_line (E := E) hm ho hr
  unfold Helper.perform
  simp only [Helper.Memory.start, Helper.Memory.hear, serving, Helper.Exchange.launch,
    Helper.Launch.ofScript, hl, Helper.Exchange.input, served]
  exact ⟨outcome_serve h setup.program ht, rfl⟩

/-! ### Whole requests -/

/-- The answers of an engine in reach can cross a line if the engine and the locator let them. -/
theorem kept_direct (h : E.Portable) {L : Locator σ} {isFile : Path → Bool} (hL : L.Finds isFile)
    (call : Call Helper.Engine) (m : σ × List Operation) :
    Turn.Kept isFile ⟨call, ((E.direct L).reply call m).1⟩ := by
  cases call with
  | locate start shim? env =>
    change Turn.Kept isFile ⟨.locate start shim? env, (L.locate start shim? env m.1).1⟩
    cases hl : (L.locate start shim? env m.1).1 with
    | error => trivial
    | ok module => exact hL.locate hl
  | locateGlobal shim? env =>
    change Turn.Kept isFile ⟨.locateGlobal shim? env, (L.locateGlobal shim? env m.1).1⟩
    cases hl : (L.locateGlobal shim? env m.1).1 with
    | error => trivial
    | ok module => exact hL.locateGlobal hl
  | load module shim? env => rfl
  | perform engine operation =>
    change Turn.Kept isFile
      ⟨.perform engine operation, (E operation).mapError (.engine operation.name)⟩
    cases he : E operation with
    | error => trivial
    | ok answer => exact h operation answer he

/-- Both sides found the same modules so far, and asked the engine the same. -/
def Alike (m : σ × List Operation) (m' : σ × Helper.Memory (List Operation)) : Prop :=
  m'.1 = m.1 ∧ m'.2.system = m.2

/-- On calls that can cross a line the engine answers the same behind helpers. -/
theorem reply_bridged (h : E.Portable) (L : Locator σ) {isFile : Path → Bool}
    (setup : Helper.Setup) (call : Call Helper.Engine) (m : σ × List Operation)
    (m' : σ × Helper.Memory (List Operation)) (hc : call.Portable isFile) (alike : Alike m m') :
    ((E.bridged L isFile setup).reply call m').1 = ((E.direct L).reply call m).1 ∧
      Alike ((E.direct L).reply call m).2 ((E.bridged L isFile setup).reply call m').2 := by
  obtain ⟨s, asked⟩ := m
  obtain ⟨_, memory⟩ := m'
  obtain ⟨rfl, rfl⟩ := alike
  cases call with
  | locate start shim? env => exact ⟨rfl, rfl, rfl⟩
  | locateGlobal shim? env => exact ⟨rfl, rfl, rfl⟩
  | load module shim? env =>
    have there : (E.serving isFile).isFile module memory.system = true := hc
    have found : Helper.load (E.serving isFile) module shim? env memory =
        some ⟨module, shim?, env⟩ := if_pos (by rw [there, Bool.or_true])
    exact ⟨congrArg Except.ok found, rfl, rfl⟩
  | perform engine operation =>
    obtain ⟨reply, system⟩ := @perform_serving E h isFile setup engine operation hc.1 hc.2 memory
    exact ⟨reply, rfl, system⟩

/-- **A request runs the same with an engine in reach and behind helpers.** Failures of the
engine arrive with the name of the question, and what a helper gets is always one line. -/
theorem bridged_run (h : E.Portable) {L : Locator σ} {isFile : Path → Bool}
    (hL : L.Finds isFile) {r : Request} (hr : r.Portable) (shims : Path → Bool)
    (setup : Helper.Setup) (s : σ) :
    let direct := (r.run shims).run (E.direct L) (s, [])
    let bridged := (r.run shims).run (E.bridged L isFile setup) (s, ⟨[], [], []⟩)
    bridged.outcome = direct.outcome ∧ bridged.calls = direct.calls ∧
      bridged.memory.1 = direct.memory.1 ∧ bridged.memory.2.system = direct.memory.2 ∧
      (∀ engine operation message m, engine.module.IsText → operation.Portable →
        E operation = .error message →
        (Helper.perform (E.serving isFile) setup engine operation m).1 =
          .error (.engine operation.name message)) ∧
      ∀ engine operation, Helper.Exchange.Textual engine operation →
        ∃ bytes, (Helper.Exchange.launch setup.program engine operation).input = bytes ++ [10] ∧
          (10 : UInt8) ∉ bytes := by
  have calls : ∀ t ∈ (r.run shims).turns (E.direct L) (s, []), t.call.Portable isFile := by
    have kept := Dialogue.forall_turns (kept_direct h hL) (r.run shims) (s, [])
    have course := Dialogue.course_run (E.direct L) (r.run shims) (s, [])
    unfold Request.run at kept course ⊢
    cases ha : Arguments.ofTokens? r.args with
    | error error => intro t ht; cases ht
    | ok args =>
      simp only [ha] at kept course ⊢
      exact (Request.way_of_course course).portable kept hr.cwd (hr.numbers args ha)
  -- the two sides only answer alike to what can cross a line, and nothing else is asked
  obtain ⟨outcome, asked, found, memory⟩ :=
    Dialogue.simulate (fun _ _ _ alike => alike) (reply_bridged h L setup) (r.run shims)
      (t := (s, ⟨[], [], []⟩)) ⟨rfl, rfl⟩ calls
  refine ⟨outcome, asked, found, memory, ?_, ?_⟩
  · intro engine operation message m hm ho he
    rw [(perform_serving h hm ho m).1, he]
    rfl
  · intro engine operation ht
    exact Helper.Exchange.input_eq ht

/-- An engine that formats nothing and has two lines to say against every text. -/
def fussy : InMemory
  | .resolveConfig .. => .ok none
  | .fileInfo .. => .ok ⟨false, none⟩
  | .format text _ => .ok text
  | .check .. => .error "line 1\nline 2"

/-- The complaint arrives unbroken. -/
theorem fussy_bridged :
    let engine : Path := .ofText "/p/engine.js"
    let r : Request := ⟨.ofText "/p", ["--check", "a.js"], ⟨.empty⟩, "x"⟩
    ((r.run fun _ => false).run
      (fussy.bridged ⟨fun _ _ _ s => (.ok engine, s), fun _ _ s => (.ok engine, s)⟩
        (· == engine) ⟨.ofText "node", none⟩) ((), ⟨[], [], []⟩)).outcome =
      .error (.engine (.engine "check" "line 1\nline 2")) := by
  intro engine r
  have portable : fussy.Portable := by
    rintro (_ | _ | _ | _) answer ha
    · cases ha
      simp [Operation.PortableAnswer]
    all_goals trivial
  have text : engine.IsText := Path.isText_ofText _
  have there : (engine == engine) = true := beq_self_eq_true engine
  have finds : Locator.Finds (σ := Unit)
      ⟨fun _ _ _ s => (.ok engine, s), fun _ _ s => (.ok engine, s)⟩ (· == engine) :=
    ⟨fun h => Except.ok.inj h ▸ ⟨text, there⟩, fun h => Except.ok.inj h ▸ ⟨text, there⟩⟩
  have plain : r.Portable := by
    refine ⟨Path.isText_ofText _, fun args ha name n hn => ?_⟩
    have read : Arguments.ofTokens? r.args = .ok ⟨"a.js", .check, false, ".prettierignore", []⟩ :=
      rfl
    cases read.symm.trans ha
    cases hn
  exact (bridged_run portable finds plain (fun _ => false) ⟨.ofText "node", none⟩ ()).1.trans rfl

end InMemory

end FormatDaemon
