import FormatDaemon.Proofs.ArgumentWords
import FormatDaemon.Proofs.RequestCalls
import FormatDaemon.Proofs.Silence

/-!
# The order of arguments

* `Arguments.Reordered`: words in another order, with another number of colour switches.
* `Reordered.ofTokens?_spell`: **reordered words read the same**, up to colours and the
  order of the options.
* `run_reordered`: **a request does not depend on the order of its arguments**.
-/

namespace FormatDaemon

variable {ε σ τ : Type}

/-! ### Words in another order -/

namespace Arguments

/-- The same words in another order, apart from colour switches. Among each other, the
words that select a task keep their order, and so do those that name an ignore file and
the options with one name. -/
structure Reordered (words words' : List Word) : Prop where
  perm : (words.filter (· ≠ .noColor)).Perm (words'.filter (· ≠ .noColor))
  tasks : words.filterMap Word.task? = words'.filterMap Word.task?
  ignorePaths : words.filterMap Word.ignorePath? = words'.filterMap Word.ignorePath?
  options : ∀ name, Flag.named name (words.filterMap Word.option?) =
    Flag.named name (words'.filterMap Word.option?)

namespace Reordered

variable {words words' : List Word}

theorem mem_iff (h : Reordered words words') {w : Word} (hw : w ≠ .noColor) :
    w ∈ words' ↔ w ∈ words := by
  have := h.perm.mem_iff (a := w)
  simpa [List.mem_filter, hw] using this.symm

/-- A colour switch is no file. -/
theorem filterMap_file? (words : List Word) :
    (words.filter (· ≠ .noColor)).filterMap Word.file? = words.filterMap Word.file? := by
  rw [List.filterMap_filter]
  congr 1
  funext w
  cases w <;> rfl

theorem file? (h : Reordered words words') {name : String}
    (hf : words.filterMap Word.file? = [name]) : words'.filterMap Word.file? = [name] := by
  have := h.perm.filterMap Word.file?
  rw [filterMap_file?, filterMap_file?, hf] at this
  exact (List.singleton_perm.1 this).symm

/-- Reordered words are cut out of what they spell. -/
theorem cut_spell_eq {tokens : List String} (h : Reordered (cut tokens) words')
    (hd : Word.dangling ∉ cut tokens) : cut (spell words') = words' := by
  refine cut_spell fun w hw => ?_
  by_cases hn : w = .noColor
  · rw [hn]
    exact Word.whole_noColor
  · have hm := (h.mem_iff hn).1 hw
    exact Word.whole_of_mem_cut hm fun e => hd (e ▸ hm)

/-- The reading of reordered words. -/
def reading (words : List Word) (args : Arguments) : Arguments where
  target := args.target
  task := args.task
  noColor := decide (Word.noColor ∈ words)
  ignorePath := args.ignorePath
  options := words.filterMap Word.option?

/-- **Reordered words read the same**, up to colours and the order of the options. -/
theorem ofTokens?_spell {tokens : List String} (h : Reordered (cut tokens) words')
    {args : Arguments} (ha : ofTokens? tokens = .ok args) :
    ofTokens? (spell words') = .ok (reading words' args) := by
  have read := ofTokens?_eq_ok_iff.1 ha
  rw [ofTokens?_eq_ok_iff, h.cut_spell_eq read.whole]
  constructor
  case whole => exact fun hd => read.whole ((h.mem_iff (by decide)).1 hd)
  case target => exact h.file? read.target
  case task => rw [← h.tasks]; exact read.task
  case noColor => exact (Bool.false_or _).symm
  case ignorePath => rw [← h.ignorePaths]; exact read.ignorePath
  case options => exact (List.nil_append _).symm

/-- Their options make the same table. -/
theorem tableOf_reading {tokens : List String} (h : Reordered (cut tokens) words')
    {args : Arguments} (ha : ofTokens? tokens = .ok args) :
    Flag.tableOf (reading words' args).options = Flag.tableOf args.options := by
  have given : args.options = (cut tokens).filterMap Word.option? :=
    (ofTokens?_eq_ok_iff.1 ha).options
  rw [given]
  exact (Flag.tableOf_congr h.options).symm

end Reordered

end Arguments

/-! ### Whole requests -/

namespace Request

variable {isFile : Path → Bool} {r : Request} {args args' : Arguments}

/-- What a request asks depends on the table of its options, not on their order. -/
theorem silent_withArguments (tokens : List String) (hf : args'.target = args.target)
    (ht : args'.task = args.task) (hi : args'.ignorePath = args.ignorePath)
    (ho : Flag.tableOf args'.options = Flag.tableOf args.options) :
    (withArguments (ε := ε) isFile { r with args := tokens } args').silent =
      (r.withArguments isFile args).silent := by
  unfold withArguments RequestOptions.ofTokens
  simp only [Dialogue.silent_tellAll, Dialogue.silent_tell]
  rw [withEngine_congr tokens ht hi, hf, ho]

/-- **A request does not depend on the order of its arguments**, as long as words that
overrule each other keep theirs, nor on colour switches. -/
theorem run_reordered (isFile : Path → Bool) {r : Request} {args : Arguments}
    (h : Arguments.ofTokens? r.args = .ok args) {words : List Arguments.Word}
    (hw : Arguments.Reordered (Arguments.cut r.args) words) :
    let reordered : Request := { r with args := Arguments.spell words }
    (∃ args', Arguments.ofTokens? reordered.args = .ok args') ∧
      (∀ (ts : List (Turn ε)) (out : Outcome),
        (reordered.run isFile).Course ts out ↔ (r.run isFile).Course ts out) ∧
      ∀ (c : Collaborators ε σ) (view : σ → τ), c.Deaf view → ∀ s,
        ((reordered.run isFile).run c s).outcome = ((r.run isFile).run c s).outcome ∧
        ((reordered.run isFile).run c s).calls = ((r.run isFile).run c s).calls ∧
        view ((reordered.run isFile).run c s).memory = view ((r.run isFile).run c s).memory := by
  intro reordered
  have read : Arguments.ofTokens? reordered.args =
      .ok (Arguments.Reordered.reading words args) := hw.ofTokens?_spell h
  have same : (reordered.run isFile : Dialogue ε Outcome).silent = (r.run isFile).silent := by
    unfold run
    rw [read, h]
    exact silent_withArguments _ rfl rfl rfl (hw.tableOf_reading h)
  exact ⟨⟨_, read⟩, fun ts out => Dialogue.course_congr same,
    fun c view deaf s => deaf.run_congr same s⟩

/-- An argument vector in which tasks, ignore files and options overrule each other. -/
def mixed : List String :=
  ["--check", "--no-semi", "--no-color", "a.js", "--ignore-path", "x", "--tab-width=2",
    "--ignore-path", "--y", "--format", "--semi"]

/-- The same words, those that do not concern each other in another order. -/
def unmixed : List Arguments.Word :=
  [.option "--tab-width=2", .ignorePath "x", .option "--no-semi", .select .check,
    .ignorePath "--y", .option "--semi", .file "a.js", .select .format]

theorem mixed_reordered : Arguments.Reordered (Arguments.cut mixed) unmixed := by
  refine ⟨by decide, by decide, by decide, fun name => ?_⟩
  exact Flag.named_swap (by decide) ["--semi"] name

/-- In either order the last task and the last value of `semi` win, and the file is formatted. -/
theorem run_reordered_mixed :
    let r : Request := ⟨.ofText "/p", mixed, ⟨.empty⟩, "x"⟩
    let r' : Request := ⟨.ofText "/p", ["--tab-width=2", "--ignore-path", "x", "--no-semi",
      "--check", "--ignore-path", "--y", "--semi", "a.js", "--format"], ⟨.empty⟩, "x"⟩
    let ask (r : Request) := (r.run fun _ => false).run
      (Static.collaborators ⟨some (.ofText "/p/engine"), none⟩) ⟨some {}, [], [], [], []⟩
    let handed := (ask r').calls.filterMap Call.options?
    (ask r').outcome = (ask r).outcome ∧ (ask r').calls = (ask r).calls ∧
      (ask r').outcome = .ok "x" ∧
      (ask r').calls.map Call.kind = [.locate, .load, .fileInfo, .resolveConfig, .format] ∧
      handed.map (·.get? "semi") = [some (.bool true)] ∧
      handed.map (·.get? "tabWidth") = [some (.number (.integer 2))] := by
  intro r r' ask handed
  have read : Arguments.ofTokens? mixed =
      .ok ⟨"a.js", .format, true, "--y", ["--no-semi", "--tab-width=2", "--semi"]⟩ :=
    Arguments.ofTokens?_eq_ok_iff.2 (by constructor <;> decide)
  obtain ⟨-, -, same⟩ := @run_reordered _ Static.Memory Static.Memory (fun _ => false) r _ read
    unmixed mixed_reordered
  obtain ⟨outcome, calls, -⟩ := same _ _ (Static.deaf ⟨some (.ofText "/p/engine"), none⟩)
    ⟨some {}, [], [], [], []⟩
  exact ⟨outcome, calls, rfl, rfl, rfl, rfl⟩

end Request

end FormatDaemon
