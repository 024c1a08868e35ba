import FormatDaemon.Collaborators.Static
import FormatDaemon.CommandLine
import FormatDaemon.Proofs.CallShapes
import FormatDaemon.Proofs.Utf8

/-!
# What a process leaves behind

A process of the command line leaves a status, bytes on standard output and a text on
standard error. Whoever called it may put those bytes in the place of a file, so they have
to be a whole result or none.

* `Source.Holds`, `Sink.Takes`: streams that nothing goes wrong with.
* `run_readable`: a process that gets its arguments and its text ends as their request does.
* `process_result`: **what a process leaves behind**, for all arguments and streams.
* `refused_result`: **what it leaves behind if its arguments are refused**, which depends on
  standard input.
-/

namespace FormatDaemon.CommandLine

variable {ε σ : Type}

/-! ### Arguments -/

theorem texts_eq_ok_iff {args : List (List UInt8)} {tokens : List String} :
    texts args = .ok tokens ↔ args = tokens.map Utf8.encode := by
  induction args generalizing tokens with
  | nil =>
    cases tokens with
    | nil => exact iff_of_true rfl rfl
    | cons => exact iff_of_false nofun nofun
  | cons arg rest ih =>
    rw [texts]
    cases hd : Utf8.decode? arg with
    | none =>
      have noText := Utf8.decode?_eq_none_iff.1 hd
      refine iff_of_false nofun fun h => ?_
      cases tokens with
      | nil => cases h
      | cons token more => exact noText ⟨token, (List.cons.inj h).1.symm⟩
    | some text =>
      obtain rfl := Utf8.encode_of_decode? hd
      constructor
      · intro h
        cases hr : texts rest with
        | error => rw [hr] at h; cases h
        | ok more =>
          rw [hr] at h
          obtain rfl := Except.ok.inj h
          rw [List.map_cons, ← ih.1 hr]
      · intro h
        cases tokens with
        | nil => cases h
        | cons token more =>
          obtain ⟨same, others⟩ := List.cons.inj h
          have own : text = token := by
            simpa using congrArg Utf8.decode? same
          rw [ih.2 others, own]
          rfl

/-- An argument that is no text is reported. -/
theorem exists_texts_eq_error {args : List (List UInt8)} (h : ∃ arg ∈ args, ¬ Utf8.IsText arg) :
    ∃ arg, texts args = .error arg := by
  obtain ⟨arg, hm, noText⟩ := h
  cases ht : texts args with
  | error arg => exact ⟨arg, rfl⟩
  | ok tokens =>
    rw [texts_eq_ok_iff.1 ht] at hm
    obtain ⟨token, -, rfl⟩ := List.mem_map.1 hm
    exact absurd (.encode token) noText

/-! ### Streams -/

/-- A stream that can be read to its end and holds just this text. -/
structure Source.Holds (s : Source) (text : String) : Prop where
  whole : s.failure? = none
  bytes : s.bytes = Utf8.encode text

/-- A stream that takes all of some bytes, and can be flushed. -/
structure Sink.Takes (s : Sink) (bytes : List UInt8) : Prop where
  room : ∀ jam, s.writing? = some jam → bytes.length ≤ jam.room
  flushed : s.flushing? = none

/-- An error with which writing or flushing a stream may fail. -/
def Sink.Raises (s : Sink) (error : SystemError) : Prop :=
  (∃ jam, s.writing? = some jam ∧ jam.error = error) ∨ s.flushing? = some error

theorem Source.read_eq_ok_iff {s : Source} {text : String} : s.read = .ok text ↔ s.Holds text := by
  obtain ⟨bytes, failure?⟩ := s
  unfold Source.read
  cases failure? with
  | some error => exact iff_of_false nofun fun h => nomatch h.whole
  | none =>
    constructor
    · intro h
      cases hd : Utf8.decode? bytes with
      | none => simp [hd] at h
      | some held =>
        obtain rfl : held = text := by simpa [hd] using h
        exact ⟨rfl, (Utf8.encode_of_decode? hd).symm⟩
    · rintro ⟨-, rfl⟩
      simp

theorem Source.read_of_failure {s : Source} {cause : SystemError} (h : s.failure? = some cause) :
    s.read = .error cause := by
  unfold Source.read
  rw [h]

theorem Source.read_of_not_isText {s : Source} (whole : s.failure? = none)
    (h : ¬ Utf8.IsText s.bytes) : s.read = .error .notText := by
  unfold Source.read
  rw [whole, Utf8.decode?_eq_none_iff.2 h]

/-- A stream cannot be read if reading fails or its bytes are no text. -/
theorem Source.exists_read_eq_error {s : Source} (h : s.failure? ≠ none ∨ ¬ Utf8.IsText s.bytes) :
    ∃ cause, s.read = .error cause := by
  cases hf : s.failure? with
  | some cause => exact ⟨cause, read_of_failure hf⟩
  | none => exact ⟨_, read_of_not_isText hf (h.resolve_left fun failed => failed hf)⟩

theorem Sink.write_of_takes {s : Sink} {bytes : List UInt8} (h : s.Takes bytes) :
    s.write bytes = (bytes, none) := by
  unfold Sink.write
  cases hw : s.writing? with
  | none => simp only [h.flushed]
  | some jam => simp only [h.room jam hw, if_true, h.flushed]

/-- Without a whole success there is an error, and some start of the bytes arrived. -/
theorem Sink.write_of_not_takes {s : Sink} {bytes : List UInt8} (h : ¬ s.Takes bytes) :
    ∃ arrived error, s.write bytes = (arrived, some error) ∧ arrived <+: bytes ∧
      s.Raises error := by
  -- without room for all bytes it is the writing that fails
  have jammed : ∀ jam, s.writing? = some jam → ¬ bytes.length ≤ jam.room →
      s.write bytes = (bytes.take jam.room, some jam.error) := fun jam hw excess => by
    unfold Sink.write
    rw [hw]
    simp only [excess, if_false]
  by_cases room : ∀ jam, s.writing? = some jam → bytes.length ≤ jam.room
  · have written : s.write bytes = (bytes, s.flushing?) := by
      unfold Sink.write
      cases hw : s.writing? with
      | none => rfl
      | some jam => simp only [room jam hw, if_true]
    cases hf : s.flushing? with
    | none => exact absurd ⟨room, hf⟩ h
    | some error => exact ⟨bytes, error, hf ▸ written, List.prefix_refl bytes, .inr hf⟩
  · obtain ⟨jam, hw, excess⟩ : ∃ jam, s.writing? = some jam ∧ ¬ bytes.length ≤ jam.room := by
      simpa using room
    exact ⟨_, _, jammed jam hw excess, List.take_prefix _ _, .inl ⟨jam, hw, rfl⟩⟩

/-! ### The result of a process -/

section Result

variable {isFile : Path → Bool} {base : Base} {cwd : Path} {args : List (List UInt8)}
  {stdin : Source} {stdout : Sink}

/-- The request of a process. -/
def request (base : Base) (cwd : Path) (tokens : List String) (text : String) : Request :=
  ⟨cwd, tokens, base.snapshot .empty, text⟩

theorem run_untextual {arg : List UInt8} (h : texts args = .error arg) :
    run (ε := ε) isFile base cwd args stdin stdout =
      .done (.failed 2 ("argument is not valid UTF-8: " ++ Utf8.decodeLossy arg)) := by
  rw [run, h]

theorem run_unreadable {cause : SystemError} (tokens : List String)
    (h : stdin.read = .error cause) :
    run (ε := ε) isFile base cwd (tokens.map Utf8.encode) stdin stdout =
      .done (.failed 1 ("failed to read stdin: " ++ cause.message)) := by
  rw [run, texts_eq_ok_iff.2 rfl]
  simp only [h]

variable (isFile base cwd stdout) in
/-- A process that gets its arguments and its text ends as their request does. -/
theorem run_readable (tokens : List String) {text : String} (h : stdin.Holds text)
    (c : Collaborators ε σ) (s : σ) :
    let ending := (run isFile base cwd (tokens.map Utf8.encode) stdin stdout).run c s
    let answer := ((request base cwd tokens text).run isFile).run c s
    ending.outcome = conclude stdout answer.outcome ∧ ending.calls = answer.calls := by
  intro ending answer
  have asked : ending = (((Invocation.mk cwd tokens .empty text).run isFile base).bind fun outcome =>
      .done (conclude stdout outcome)).run c s := by
    simp only [ending]
    rw [run, texts_eq_ok_iff.2 rfl]
    simp only [Source.read_eq_ok_iff.2 h]
  rw [asked, Invocation.run, Dialogue.run_bind, Dialogue.run_bind]
  exact ⟨rfl, by simp only [Dialogue.run, List.append_nil]; rfl⟩

/-- A result that gets through is all that a process leaves. -/
theorem conclude_of_takes {output : String} (h : stdout.Takes (Utf8.encode output)) :
    conclude stdout (.ok output) = ⟨0, Utf8.encode output, ""⟩ := by
  rw [conclude, Sink.write_of_takes h]

/-- A result that does not get through is reported, and some start of it arrived. -/
theorem conclude_of_not_takes {output : String} (h : ¬ stdout.Takes (Utf8.encode output)) :
    ∃ arrived error, arrived <+: Utf8.encode output ∧ stdout.Raises error ∧
      conclude stdout (.ok output) =
        ⟨1, arrived, "failed to write output: " ++ error.message ++ "\n"⟩ := by
  obtain ⟨arrived, error, hw, start, raised⟩ := Sink.write_of_not_takes h
  refine ⟨arrived, error, start, raised, ?_⟩
  rw [conclude, hw]

/-- Only a whole result is left with status 0. -/
theorem conclude_eq_zero {outcome : Outcome} (h : (conclude stdout outcome).exit = 0) :
    ∃ output, outcome = .ok output ∧ (conclude stdout outcome).written = Utf8.encode output := by
  cases outcome with
  | error error => cases error <;> cases h
  | ok output =>
    by_cases takes : stdout.Takes (Utf8.encode output)
    · exact ⟨output, rfl, by rw [conclude_of_takes takes]⟩
    · obtain ⟨arrived, error, -, -, hc⟩ := conclude_of_not_takes takes
      rw [hc] at h
      cases h

/-- The status of a request's error tells whether its arguments were refused. -/
theorem exitStatus_of_run {r : Request} {c : Collaborators ε σ} {s : σ} {error : RequestError}
    (h : ((r.run isFile).run c s).outcome = .error error) (other : ∀ usage, error ≠ .usage usage) :
    error.exitStatus = 1 := by
  have course := Dialogue.course_run c (r.run isFile) s
  rw [h] at course
  cases error with
  | usage error => exact absurd rfl (other error)
  | malformed fault => exact absurd rfl (Request.outcome_ne_malformed course fault)
  | engine | notFormatted => rfl

/-- **What a process leaves behind.** An argument that is no text ends it with status 2, whatever
standard input is. With arguments that can be read as such, but a standard input that cannot, it
ends with status 1. Nobody is called in either case, and nothing is written. Otherwise it ends as
its request does: a result that gets through is all it leaves, one that does not is reported with
status 1, and an error is all it reports, with status 2 exactly for refused arguments. So status 0
stands for a whole result. -/
theorem process_result (isFile : Path → Bool) (base : Base) (cwd : Path)
    (args : List (List UInt8)) (stdin : Source) (stdout : Sink) (c : Collaborators ε σ) (s : σ) :
    let process (stdin : Source) := run isFile base cwd args stdin stdout
    let ending := (process stdin).run c s
    ((∃ arg ∈ args, ¬ Utf8.IsText arg) →
      ending.outcome.exit = 2 ∧ ending.outcome.written = [] ∧ ending.calls = [] ∧
        ∀ other, process other = process stdin) ∧
    (∀ tokens, args = tokens.map Utf8.encode →
      (stdin.failure? ≠ none ∨ ¬ Utf8.IsText stdin.bytes) →
      (∃ arguments, Arguments.ofTokens? tokens = .ok arguments) →
      ending.outcome.exit = 1 ∧ ending.outcome.written = [] ∧ ending.calls = []) ∧
    (∀ tokens, args = tokens.map Utf8.encode → ∀ text, stdin.Holds text →
      let answer := ((request base cwd tokens text).run isFile).run c s
      ending.calls = answer.calls ∧
      (∀ output, answer.outcome = .ok output → stdout.Takes (Utf8.encode output) →
        ending.outcome = ⟨0, Utf8.encode output, ""⟩) ∧
      (∀ output, answer.outcome = .ok output → ¬ stdout.Takes (Utf8.encode output) →
        ∃ arrived error, arrived <+: Utf8.encode output ∧ stdout.Raises error ∧
          ending.outcome =
            ⟨1, arrived, "failed to write output: " ++ error.message ++ "\n"⟩) ∧
      (∀ usage, answer.outcome = .error (.usage usage) →
        ending.outcome = ⟨2, [], usage.message ++ "\n"⟩) ∧
      (∀ error, answer.outcome = .error error → (∀ usage, error ≠ .usage usage) →
        ending.outcome = ⟨1, [], error.message ++ "\n"⟩)) ∧
    (ending.outcome.exit = 0 → ∃ tokens text output, args = tokens.map Utf8.encode ∧
      stdin.Holds text ∧
      (((request base cwd tokens text).run isFile).run c s).outcome = .ok output ∧
      ending.outcome.written = Utf8.encode output) := by
  intro process ending
  refine ⟨?_, ?_, ?_, ?_⟩
  · intro noText
    obtain ⟨arg, ht⟩ := exists_texts_eq_error noText
    simp only [ending, process, run_untextual ht]
    exact ⟨rfl, rfl, rfl, fun _ => trivial⟩
  · rintro tokens rfl unread -
    obtain ⟨cause, hr⟩ := Source.exists_read_eq_error unread
    simp only [ending, process, run_unreadable tokens hr]
    exact ⟨rfl, rfl, rfl⟩
  · rintro tokens rfl text held answer
    obtain ⟨outcome, calls⟩ := run_readable isFile base cwd stdout tokens held c s
    refine ⟨calls, fun output ho takes => ?_, fun output ho jammed => ?_, fun usage ho => ?_,
      fun error ho other => ?_⟩
    · rw [outcome, ho, conclude_of_takes takes]
    · obtain ⟨arrived, error, start, raised, hc⟩ := conclude_of_not_takes jammed
      exact ⟨arrived, error, start, raised, by rw [outcome, ho, hc]⟩
    · rw [outcome, ho]
      rfl
    · rw [outcome, ho, conclude, exitStatus_of_run ho other]
      rfl
  · intro success
    cases ht : texts args with
    | error arg =>
      simp only [ending, process, run_untextual ht] at success
      cases success
    | ok tokens =>
      obtain rfl := texts_eq_ok_iff.1 ht
      cases hr : stdin.read with
      | error cause =>
        simp only [ending, process, run_unreadable tokens hr] at success
        cases success
      | ok text =>
        have held := Source.read_eq_ok_iff.1 hr
        obtain ⟨outcome, -⟩ := run_readable isFile base cwd stdout tokens held c s
        rw [outcome] at success
        obtain ⟨output, ho, written⟩ := conclude_eq_zero success
        exact ⟨tokens, text, output, rfl, held, ho, by rw [outcome, written]⟩

/-- No text has a byte of ones. -/
theorem not_isText_ones : ¬ Utf8.IsText [0xFF] := by
  have noScalar : Utf8.scalar? [0xFF] = none := rfl
  rw [← Utf8.decode?_eq_none_iff]
  simp [Utf8.decode?, Utf8.pieces, noScalar, Utf8.Piece.scalar?]

/-- A result of three bytes over streams of all kinds, and a text that is not formatted. -/
theorem process_result_jammed :
    let process (args : List (List UInt8)) (stdin : Source) (stdout : Sink) :=
      ((run (fun _ => false) (.fixed .empty) (.ofText "/p") args stdin stdout).run
        (Static.collaborators ⟨some (.ofText "/p/engine.js"), none⟩)
        ⟨some { formatted? := some "a;\n" }, [], [], [], []⟩).outcome
    let file := [Utf8.encode "a.js"]
    let input : Source := ⟨Utf8.encode "a", none⟩
    let full : SystemError := .numbered 28
    (process [[0xFF]] input {}).exit = 2 ∧ (process file ⟨[0xFF], none⟩ {}).exit = 1 ∧
      process file input {} = ⟨0, Utf8.encode "a;\n", ""⟩ ∧
      (∃ arrived error, arrived <+: Utf8.encode "a;\n" ∧ Sink.Raises ⟨some ⟨full, 2⟩, none⟩ error ∧
        process file input ⟨some ⟨full, 2⟩, none⟩ =
          ⟨1, arrived, "failed to write output: " ++ error.message ++ "\n"⟩) ∧
      process (file ++ file) input {} =
        ⟨2, [], "only one file may be given, got 'a.js' and 'a.js'\n"⟩ ∧
      process (Utf8.encode "--check" :: file) input {} =
        ⟨1, [], "/p/a.js is not formatted\n"⟩ := by
  intro process file input full
  have result (args : List (List UInt8)) (stdin : Source) (stdout : Sink) :=
    process_result (fun _ => false) (.fixed .empty) (.ofText "/p") args stdin stdout
      (Static.collaborators ⟨some (.ofText "/p/engine.js"), none⟩)
      ⟨some { formatted? := some "a;\n" }, [], [], [], []⟩
  have held : input.Holds "a" := ⟨rfl, rfl⟩
  refine ⟨?_, ?_, ?_, ?_, ?_, ?_⟩
  · exact ((result [[0xFF]] input {}).1 ⟨_, List.mem_cons_self, not_isText_ones⟩).1
  · exact ((result file ⟨[0xFF], none⟩ {}).2.1 ["a.js"] rfl (.inr not_isText_ones) ⟨_, rfl⟩).1
  · exact ((result file input {}).2.2.1 ["a.js"] rfl "a" held).2.1 "a;\n" rfl ⟨nofun, rfl⟩
  · refine ((result file input ⟨some ⟨full, 2⟩, none⟩).2.2.1 ["a.js"] rfl "a" held).2.2.1 "a;\n" rfl
      fun takes => ?_
    exact absurd (takes.room _ rfl) (by decide)
  · exact ((result (file ++ file) input {}).2.2.1 ["a.js", "a.js"] rfl "a" held).2.2.2.1 _ rfl
  · have shown : (Path.ofText "/p/a.js").shown = "/p/a.js" := Utf8.decodeLossy_encode _
    have said : (RequestError.notFormatted (.ofText "/p/a.js")).message =
        "/p/a.js is not formatted" := (congrArg (· ++ " is not formatted") shown).trans rfl
    have failed := ((result (Utf8.encode "--check" :: file) input {}).2.2.1 ["--check", "a.js"] rfl
      "a" held).2.2.2.2 (.notFormatted (.ofText "/p/a.js")) rfl nofun
    exact failed.trans (congrArg (Result.failed 1) said)

/-- **What a process leaves behind if its arguments are refused.** Nobody is called and nothing
is written. Standard input is read before the arguments are: only if it is a text does the
process end with status 2 and say what is wrong with them; otherwise it says with status 1 why
there is no text. -/
theorem refused_result (isFile : Path → Bool) (base : Base) (cwd : Path) (tokens : List String)
    {usage : UsageError} (refused : Arguments.ofTokens? tokens = .error usage) (stdin : Source)
    (stdout : Sink) (c : Collaborators ε σ) (s : σ) :
    let ending := (run isFile base cwd (tokens.map Utf8.encode) stdin stdout).run c s
    ending.calls = [] ∧
    (∀ text, stdin.Holds text → ending.outcome = ⟨2, [], usage.message ++ "\n"⟩) ∧
    (∀ cause, stdin.failure? = some cause →
      ending.outcome = ⟨1, [], "failed to read stdin: " ++ cause.message ++ "\n"⟩) ∧
    (stdin.failure? = none → ¬ Utf8.IsText stdin.bytes → ending.outcome =
      ⟨1, [], "failed to read stdin: stream did not contain valid UTF-8\n"⟩) := by
  intro ending
  have unread : ∀ cause, stdin.read = .error cause → ending.calls = [] ∧
      ending.outcome = ⟨1, [], "failed to read stdin: " ++ cause.message ++ "\n"⟩ := by
    intro cause hr
    simp only [ending, run_unreadable tokens hr]
    exact ⟨rfl, rfl⟩
  have read : ∀ text, stdin.Holds text → ending.calls = [] ∧
      ending.outcome = ⟨2, [], usage.message ++ "\n"⟩ := by
    intro text held
    obtain ⟨outcome, calls⟩ := run_readable isFile base cwd stdout tokens held c s
    have answer : (request base cwd tokens text).run (ε := ε) isFile =
        .done (.error (.usage usage)) := by
      rw [Request.run, request]
      simp only [refused]
    rw [answer] at outcome calls
    exact ⟨calls, outcome⟩
  refine ⟨?_, fun text held => (read text held).2,
    fun cause hf => (unread cause (Source.read_of_failure hf)).2,
    fun whole noText => (unread _ (Source.read_of_not_isText whole noText)).2⟩
  cases hr : stdin.read with
  | error cause => exact (unread cause hr).1
  | ok text => exact (read text (Source.read_eq_ok_iff.1 hr)).1

/-- Two files, with a text on standard input, bytes that are no text, and a failure. -/
theorem refused_result_two :
    let process (stdin : Source) :=
      ((run (fun _ => false) (.fixed .empty) (.ofText "/p") (["a.js", "b.js"].map Utf8.encode)
        stdin {}).run (Static.collaborators ⟨none, none⟩) ⟨none, [], [], [], []⟩).outcome
    process ⟨Utf8.encode "x", none⟩ =
        ⟨2, [], "only one file may be given, got 'a.js' and 'b.js'\n"⟩ ∧
      process ⟨[0xFF], none⟩ =
        ⟨1, [], "failed to read stdin: stream did not contain valid UTF-8\n"⟩ ∧
      process ⟨[], some (.other "gone")⟩ = ⟨1, [], "failed to read stdin: gone\n"⟩ := by
  intro process
  have refused : Arguments.ofTokens? ["a.js", "b.js"] = .error (.twoFiles "a.js" "b.js") := rfl
  have result (stdin : Source) :=
    refused_result (fun _ => false) (.fixed .empty) (.ofText "/p") ["a.js", "b.js"] refused stdin {}
      (Static.collaborators ⟨none, none⟩) ⟨none, [], [], [], []⟩
  exact ⟨(result _).2.1 "x" ⟨rfl, rfl⟩, (result _).2.2.2 rfl not_isText_ones,
    (result _).2.2.1 (.other "gone") rfl⟩

/-- Refused arguments do not always end a process with status 2. -/
theorem refused_unread :
    Arguments.ofTokens? ["a.js", "b.js"] = .error (.twoFiles "a.js" "b.js") ∧
      ¬ ∀ stdin : Source,
        ((run (fun _ => false) (.fixed .empty) (.ofText "/p") (["a.js", "b.js"].map Utf8.encode)
          stdin {}).run (Static.collaborators ⟨none, none⟩) ⟨none, [], [], [], []⟩).outcome.exit
            = 2 := by
  refine ⟨rfl, fun h => ?_⟩
  have status := h ⟨[0xFF], none⟩
  rw [run_unreadable _ (Source.read_of_not_isText rfl not_isText_ones)] at status
  cases status

end Result

end FormatDaemon.CommandLine
