import FormatDaemon.Proofs.BlankText
import FormatDaemon.Proofs.RunClassification

/-!
# The diagnostics of a crashed helper

A helper that fails says why on standard error. The error of the exchange carries what it
said, without blank ends, as long as it is text; of anything else it carries nothing.

* `trim_diagnostics_eq_iff`, `trim_diagnostics_eq_empty_iff`: what is left of standard error.
* `perform_crashed`: **the diagnostics of a crashed helper are kept just if they are text**.
-/

namespace FormatDaemon

namespace Helper.Exchange

variable {σ : Type} {engine : Engine} {operation : Operation} {run : Run}

/-! ### What is left of standard error -/

theorem diagnostics_of_isText (h : Utf8.IsText run.stderr) :
    diagnostics run = Utf8.decodeLossy run.stderr := by
  rw [diagnostics, h.decode?]
  rfl

theorem diagnostics_of_not_isText (h : ¬ Utf8.IsText run.stderr) : diagnostics run = "" := by
  rw [diagnostics, Utf8.decode?_eq_none_iff.2 h]
  rfl

/-- Bytes that are no text would show, if they were decoded as those of a lookup are. -/
theorem trim_ne_empty_of_not_isText (h : ¬ Utf8.IsText run.stderr) :
    Text.trim (Utf8.decodeLossy run.stderr) ≠ "" := by
  rw [ne_eq, Text.trim_eq_empty_iff]
  intro blank
  exact absurd (blank _ (Utf8.replacement_mem_decodeLossy h)) (by decide)

/-- **The diagnostics are those of standard error just if that is text.** -/
theorem trim_diagnostics_eq_iff :
    Text.trim (diagnostics run) = Text.trim (Utf8.decodeLossy run.stderr) ↔
      Utf8.IsText run.stderr := by
  constructor
  · intro same
    refine Classical.byContradiction fun broken => ?_
    rw [diagnostics_of_not_isText broken] at same
    exact trim_ne_empty_of_not_isText broken same.symm
  · intro h
    rw [diagnostics_of_isText h]

/-- There are none if standard error is blank, or no text. -/
theorem trim_diagnostics_eq_empty_iff :
    Text.trim (diagnostics run) = "" ↔ ¬ Utf8.IsText run.stderr ∨
      ∀ c ∈ (Utf8.decodeLossy run.stderr).toList, Text.isBlank c = true := by
  by_cases h : Utf8.IsText run.stderr
  · rw [diagnostics_of_isText h, Text.trim_eq_empty_iff]
    simp only [h, not_true_eq_false, false_or]
  · rw [diagnostics_of_not_isText h]
    exact iff_of_true rfl (.inl h)

/-! ### Crashed helpers -/

theorem isSuccess_eq_false {ending : Ending} (h : ending ≠ .exit 0) :
    ending.isSuccess = false := by
  cases ending with
  | signal => rfl
  | exit code =>
    unfold Ending.isSuccess
    rw [decide_eq_false_iff_not]
    rintro rfl
    exact h rfl

/-- **The diagnostics of a crashed helper are kept just if they are text.** Whatever else went
wrong, its error carries its status and what it said: the trimmed text of standard error,
with U+FFFD for what is no text, if there is nothing to replace, and nothing otherwise. -/
theorem perform_crashed {system : System σ} {setup : Setup} {m : Memory σ} {s : σ}
    (started : system.start (launch setup.program engine operation) m.system = (.ok run, s))
    (crashed : run.ending ≠ .exit 0) :
    ∃ said, (perform system setup engine operation m).1 =
        .error (.nonZeroExit setup.program.shown run.ending.status said) ∧
      (said = Text.trim (Utf8.decodeLossy run.stderr) ↔ Utf8.IsText run.stderr) ∧
      (said = "" ↔ ¬ Utf8.IsText run.stderr ∨
        ∀ c ∈ (Utf8.decodeLossy run.stderr).toList, Text.isBlank c = true) := by
  refine ⟨Text.trim (diagnostics run), ?_, trim_diagnostics_eq_iff,
    trim_diagnostics_eq_empty_iff⟩
  have performed : (perform system setup engine operation m).1 =
      outcome setup.program engine operation run := by
    unfold perform
    simp only [Memory.start, Memory.hear, started]
  rw [performed]
  exact outcome_failed (isSuccess_eq_false crashed)

/-- A helper that says what is wrong with it in plain text, and fails. -/
theorem perform_crashed_plain :
    let plain : Run := ⟨[], Utf8.encode " no module\n", .exit 3, [], none⟩
    let engine : Engine := ⟨.ofText "/p/engine.js", none, ⟨.empty⟩⟩
    (perform (σ := Unit) ⟨fun _ s => (.ok plain, s), fun _ _ => true⟩ ⟨.ofText "node", none⟩
      engine (.format "x" .empty) ⟨(), [], []⟩).1 =
      .error (.nonZeroExit "node" 3 "no module") := by
  intro plain engine
  have started : (Except.ok plain, ()) = (Except.ok (ε := SystemError) plain, ()) := rfl
  have crashed : plain.ending ≠ .exit 0 := by decide
  obtain ⟨said, performed, text, -⟩ := @perform_crashed Unit engine (.format "x" .empty) plain
    ⟨fun _ s => (.ok plain, s), fun _ _ => true⟩ ⟨.ofText "node", none⟩ ⟨(), [], []⟩ () started
    crashed
  have shown : (Path.ofText "node").shown = "node" := Utf8.decodeLossy_encode "node"
  have kept : said = "no module" := by
    rw [text.2 (.encode " no module\n"), Utf8.decodeLossy_encode]
    decide
  rw [performed, kept, shown]
  rfl

/-- One stray byte is enough for a helper to have said nothing. -/
theorem crashed_unread :
    let stray : Run := ⟨[], [0x61, 0xFF, 0x62], .exit 1, [], none⟩
    let engine : Engine := ⟨.ofText "/p/engine.js", none, ⟨.empty⟩⟩
    (perform (σ := Unit) ⟨fun _ s => (.ok stray, s), fun _ _ => true⟩ ⟨.ofText "node", none⟩
      engine (.format "x" .empty) ⟨(), [], []⟩).1 = .error (.nonZeroExit "node" 1 "") ∧
    Text.trim (Utf8.decodeLossy stray.stderr) = "a\uFFFDb" := by
  intro stray engine
  have shown : (Path.ofText "node").shown = "node" := Utf8.decodeLossy_encode "node"
  have broken : Utf8.decode? stray.stderr = none := by decide +kernel
  refine ⟨?_, by decide +kernel⟩
  show outcome (.ofText "node") engine (.format "x" .empty) stray = _
  rw [outcome_failed rfl, diagnostics, broken, shown]
  rfl

end Helper.Exchange

end FormatDaemon
