import FormatDaemon.Collaborators.Helpers
import FormatDaemon.Proofs.Lines
import FormatDaemon.Proofs.Wire

/-!
# What becomes of a helper's run

A helper prints bytes, says something on standard error and ends. Each such run has one
meaning for the question that was asked.

* `Classified`: the meanings, one rule each, by what the run shows from outside.
* `perform_classified`: **a question ends as its run is classified, and in no other way**.
-/

namespace FormatDaemon.Helper.Exchange

variable {σ : Type} {program : Path} {engine : Engine} {operation : Operation} {run : Run}

/-! ### The line that is read -/

/-- The first line of some bytes: up to the first newline, or all of them without one. -/
inductive FirstLine : List UInt8 → List UInt8 → Prop
  | ended {bytes : List UInt8} (rest : List UInt8) (h : (10 : UInt8) ∉ bytes) :
    FirstLine (bytes ++ 10 :: rest) (bytes ++ [10])
  | unended {bytes : List UInt8} (h : (10 : UInt8) ∉ bytes) : FirstLine bytes bytes

/-- Bytes have just one first line. -/
theorem firstLine_iff {bytes line : List UInt8} :
    FirstLine bytes line ↔ firstLine bytes = line := by
  constructor
  · rintro (⟨rest, h⟩ | h)
    · exact firstLine_append h rest
    · exact firstLine_eq_self h
  · rintro rfl
    by_cases h : (10 : UInt8) ∈ bytes
    · obtain ⟨before, rest, rfl, hb⟩ := List.eq_append_cons_of_mem h
      rw [firstLine_append hb rest]
      exact .ended rest hb
    · rw [firstLine_eq_self h]
      exact .unended h

/-! ### Classification -/

/-- A helper that says it did its work, and took a request that could be sent. -/
structure Exchanged (engine : Engine) (operation : Operation) (run : Run) : Prop where
  ending : run.ending = .exit 0
  paths : Textual engine operation
  taken : run.refused? = none

/-- A helper whose first line is a text. -/
structure Heard (engine : Engine) (operation : Operation) (run : Run) (text : String) : Prop
    extends Exchanged engine operation run where
  printed : run.stdout ≠ []
  line : FirstLine run.stdout (Utf8.encode text)

/-- What the first line of a helper says, read as a response. -/
def spoken (text : String) : Except Json.Fault HelperResponse :=
  Json.Decoder.ofText Wire.response (Text.trim text)

/-- What a run means for a question. -/
inductive Classified (program : Path) (engine : Engine) (operation : Operation) (run : Run) :
    Except EngineError operation.Answer → Prop
  /-- A helper that failed, whatever it printed and whatever it read. -/
  | exited {code : UInt8} (ending : run.ending = .exit code) (failed : code ≠ 0) :
    Classified program engine operation run
      (.error (.nonZeroExit program.shown code.toNat (Text.trim (diagnostics run))))
  | killed {number : Nat} (ending : run.ending = .signal number) :
    Classified program engine operation run
      (.error (.nonZeroExit program.shown (-1) (Text.trim (diagnostics run))))
  | unsendable (ending : run.ending = .exit 0) (paths : ¬ Textual engine operation) :
    Classified program engine operation run (.error (.serializeRequest ⟨.pathNotText, none⟩))
  | untaken (ending : run.ending = .exit 0) (paths : Textual engine operation)
      {cause : SystemError} (refused : run.refused? = some cause) :
    Classified program engine operation run (.error (.io "writing the engine request" cause))
  | silent (exchanged : Exchanged engine operation run) (silence : run.stdout = []) :
    Classified program engine operation run
      (.error (.deserializeResponse "bridge produced no output on stdout" none))
  | garbled (exchanged : Exchanged engine operation run) {line : List UInt8}
      (first : FirstLine run.stdout line) (noText : ¬ Utf8.IsText line) :
    Classified program engine operation run (.error (.io "reading the engine response" .notText))
  | malformed {text : String} (heard : Heard engine operation run text) {fault : Json.Fault}
      (noResponse : spoken text = .error fault) :
    Classified program engine operation run
      (.error (.deserializeResponse ("bridge produced invalid JSON: " ++ fault.message)
        (some fault)))
  | reported {text : String} (heard : Heard engine operation run text) {message : String}
      (failure : spoken text = .ok (.error message)) :
    Classified program engine operation run (.error (.engine operation.name message))
  | misfitting {text : String} (heard : Heard engine operation run text) {result : Json}
      (success : spoken text = .ok (.ok result)) {fault : Json.Fault}
      (misfit : Json.Decoder.ofValue (Wire.answer operation) result = .error fault) :
    Classified program engine operation run
      (.error (.unexpectedResult operation.name fault.message))
  | answered {text : String} (heard : Heard engine operation run text) {result : Json}
      (success : spoken text = .ok (.ok result)) {answer : operation.Answer}
      (fits : Json.Decoder.ofValue (Wire.answer operation) result = .ok answer) :
    Classified program engine operation run (.ok answer)

/-- The failure of a helper outranks everything else. -/
theorem outcome_failed (h : run.ending.isSuccess = false) :
    outcome program engine operation run =
      .error (.nonZeroExit program.shown run.ending.status (Text.trim (diagnostics run))) := by
  rw [outcome, response, h]
  rfl

theorem outcome_success (h : run.ending = .exit 0) :
    outcome program engine operation run =
      ((received (line engine operation) run).bind parse).bind (answer operation) := by
  rw [outcome, response, h]
  rfl

theorem firstLine_eq_nil {bytes : List UInt8} : firstLine bytes = [] ↔ bytes = [] := by
  cases bytes with
  | nil => exact ⟨fun _ => rfl, fun _ => rfl⟩
  | cons b rest =>
    by_cases h : b = 10 <;> simp [firstLine, h]

theorem received_exchanged (h : Exchanged engine operation run) :
    received (line engine operation) run =
      match Utf8.decode? (firstLine run.stdout) with
      | none => .error (.io "reading the engine response" .notText)
      | some "" => .error (.deserializeResponse "bridge produced no output on stdout" none)
      | some line => .ok line := by
  obtain ⟨ms, -, hl⟩ := line_eq h.paths
  have taken := h.taken
  obtain ⟨stdout, stderr, ending, read, refused?⟩ := run
  subst taken
  exact congrArg (received · _) hl

theorem received_heard {text : String} (h : Heard engine operation run text) :
    received (line engine operation) run = .ok text := by
  have hd := Utf8.decode?_encode text
  rw [← firstLine_iff.1 h.line] at hd
  rw [received_exchanged h.toExchanged, hd]
  split
  case h_1 he => cases he
  -- an empty line is only read where nothing was printed
  case h_2 he =>
    have empty : firstLine run.stdout = [] := by
      rw [firstLine_iff.1 h.line, Option.some.inj he]
      rfl
    exact absurd (firstLine_eq_nil.1 empty) h.printed
  case h_3 line _ he => rw [Option.some.inj he]

theorem outcome_heard {text : String} (h : Heard engine operation run text) :
    outcome program engine operation run = (parse text).bind (answer operation) := by
  rw [outcome_success h.ending, received_heard h]
  rfl

theorem parse_error {text : String} {fault : Json.Fault} (h : spoken text = .error fault) :
    parse text = .error
      (.deserializeResponse ("bridge produced invalid JSON: " ++ fault.message) (some fault)) := by
  rw [spoken] at h
  rw [parse, h]
  rfl

theorem parse_ok {text : String} {response : HelperResponse} (h : spoken text = .ok response) :
    parse text = .ok response := by
  rw [spoken] at h
  rw [parse, h]
  rfl

/-- A run is understood as it is classified. -/
theorem Classified.outcome {reply : Except EngineError operation.Answer}
    (h : Classified program engine operation run reply) :
    outcome program engine operation run = reply := by
  cases h with
  | exited ending failed =>
    rw [outcome_failed (by rw [ending]; simpa [Ending.isSuccess] using failed), ending]
    rfl
  | killed ending =>
    rw [outcome_failed (by rw [ending]; rfl), ending]
    rfl
  | unsendable ending paths =>
    rw [outcome_success ending, line_error paths]
    rfl
  | untaken ending paths refused =>
    obtain ⟨ms, -, hl⟩ := line_eq paths
    rw [outcome_success ending, hl]
    unfold received
    simp only [refused]
    rfl
  | silent exchanged silence =>
    have empty : Utf8.decode? (firstLine run.stdout) = some "" := by
      rw [silence]
      exact Utf8.decode?_encode ""
    rw [outcome_success exchanged.ending, received_exchanged exchanged, empty]
    rfl
  | garbled exchanged first noText =>
    rw [outcome_success exchanged.ending, received_exchanged exchanged, firstLine_iff.1 first,
      Utf8.decode?_eq_none_iff.2 noText]
    rfl
  | malformed heard noResponse =>
    rw [outcome_heard heard, parse_error noResponse]
    rfl
  | reported heard failure =>
    rw [outcome_heard heard, parse_ok failure]
    rfl
  | misfitting heard success misfit =>
    rw [outcome_heard heard, parse_ok success, Except.bind, answer, misfit]
    rfl
  | answered heard success fits =>
    rw [outcome_heard heard, parse_ok success, Except.bind, answer, fits]
    rfl

/-- Every run is classified. -/
theorem exists_classified (program : Path) (engine : Engine) (operation : Operation) (run : Run) :
    ∃ reply, Classified program engine operation run reply := by
  match he : run.ending with
  | .signal number => exact ⟨_, .killed he⟩
  | .exit code =>
    -- each test leaves one way to go on
    by_cases hc : code = 0
    case neg => exact ⟨_, .exited he hc⟩
    subst hc
    by_cases paths : Textual engine operation
    case neg => exact ⟨_, .unsendable he paths⟩
    cases hr : run.refused? with
    | some cause => exact ⟨_, .untaken he paths hr⟩
    | none =>
      have exchanged : Exchanged engine operation run := ⟨he, paths, hr⟩
      by_cases printed : run.stdout = []
      case pos => exact ⟨_, .silent exchanged printed⟩
      by_cases ht : Utf8.IsText (firstLine run.stdout)
      case neg => exact ⟨_, .garbled exchanged (firstLine_iff.2 rfl) ht⟩
      obtain ⟨text, ht⟩ := ht
      have heard : Heard engine operation run text :=
        ⟨exchanged, printed, firstLine_iff.2 ht.symm⟩
      match hs : spoken text with
      | .error fault => exact ⟨_, .malformed heard hs⟩
      | .ok (.error message) => exact ⟨_, .reported heard hs⟩
      | .ok (.ok result) =>
        cases hf : Json.Decoder.ofValue (Wire.answer operation) result with
        | error fault => exact ⟨_, .misfitting heard hs hf⟩
        | ok answer => exact ⟨_, .answered heard hs hf⟩

/-- **A question ends as the run of its helper is classified, and in no other way.** -/
theorem perform_classified {system : System σ} {setup : Setup} {m : Memory σ} {s : σ}
    (h : system.start (launch setup.program engine operation) m.system = (.ok run, s))
    (reply : Except EngineError operation.Answer) :
    (perform system setup engine operation m).1 = reply ↔
      Classified setup.program engine operation run reply := by
  have performed : (perform system setup engine operation m).1 =
      outcome setup.program engine operation run := by
    unfold perform
    simp only [Memory.start, Memory.hear, h]
  rw [performed]
  constructor
  · rintro rfl
    obtain ⟨reply, hc⟩ := exists_classified setup.program engine operation run
    rwa [hc.outcome]
  · exact Classified.outcome

/-- The line of a helper that formatted a text is read as its result. -/
theorem spoken_formatted :
    spoken "\x7b\"status\":\"ok\",\"result\":\"x\"\x7d\n" = .ok (.ok (.string "x")) := by
  have said : Json.Says (Text.trim "\x7b\"status\":\"ok\",\"result\":\"x\"\x7d\n")
      (Wire.ofResponse (.ok (.string "x"))) :=
    Json.says_of_print (by decide +kernel) ⟨trivial, trivial, trivial⟩ (by decide)
  obtain ⟨node, document, read⟩ := said.ofText
  rw [spoken, read]
  exact Wire.yields_success rfl node document

/-- A helper that answers well is believed if it ends well, and has failed if it is killed. -/
theorem perform_killed :
    let answering (ending : Ending) : Run :=
      ⟨Utf8.encode "\x7b\"status\":\"ok\",\"result\":\"x\"\x7d\n",
        Utf8.encode "out of memory\n", ending, [], none⟩
    let engine : Engine := ⟨.ofText "/p/engine.js", none, ⟨.empty⟩⟩
    let ask (ending : Ending) :=
      (perform (σ := Unit) ⟨fun _ s => (.ok (answering ending), s), fun _ _ => true⟩
        ⟨.ofText "node", none⟩ engine (.format "x" .empty) ⟨(), [], []⟩).1
    ask (.exit 0) = .ok "x" ∧
      ask (.signal 9) = .error (.nonZeroExit "node" (-1) "out of memory") := by
  intro answering engine ask
  have started (ending : Ending) : (Except.ok (answering ending), ()) =
      (Except.ok (ε := SystemError) (answering ending), ()) := rfl
  constructor
  · refine (perform_classified (started (.exit 0)) _).2 ?_
    have paths : Textual engine (.format "x" .empty) := by
      intro p hp
      rw [List.mem_singleton.1 hp]
      exact Path.isText_ofText "/p/engine.js"
    have line : FirstLine (answering (.exit 0)).stdout (answering (.exit 0)).stdout :=
      firstLine_iff.2 (by decide +kernel)
    exact .answered ⟨⟨rfl, paths, rfl⟩, by decide +kernel, line⟩ spoken_formatted rfl
  · refine (perform_classified (started (.signal 9)) _).2 ?_
    have shown : (Path.ofText "node").shown = "node" := Utf8.decodeLossy_encode "node"
    have said : diagnostics (answering (.signal 9)) = "out of memory\n" :=
      congrArg (·.getD "") (Utf8.decode?_encode "out of memory\n")
    have killed : Classified (.ofText "node") engine (.format "x" .empty) (answering (.signal 9))
        (.error (.nonZeroExit (Path.ofText "node").shown (-1)
          (Text.trim (diagnostics (answering (.signal 9)))))) :=
      .killed rfl
    rw [shown, said] at killed
    exact killed

end FormatDaemon.Helper.Exchange
