import FormatDaemon.Collaborators.Helpers
import FormatDaemon.Proofs.BlankText
import FormatDaemon.Proofs.Diagnostics
import FormatDaemon.Proofs.RequestOrder

/-!
# Looking up modules

What a lookup gives, by what its helper did, and what becomes of a request whose lookup in the
project failed.

* `Lookup.LookedUp`: a result for each thing a helper can do; `lookedUp_iff`: **a lookup gives
  just that result**.
* `LookedUp.presentable`: what is told is one line that says something, and what is found is
  not empty.
* `Request.Overlooked`: a failed lookup in the project that decides nothing but where to go on.
* `lookups_settled`: **both lookups give these results, and in every request a failed lookup in
  the project is overlooked**.
-/

namespace FormatDaemon

variable {ε σ : Type}

/-! ### The result of a lookup -/

namespace Helper.Lookup

open Text (isBlank Trims FirstSaid)

/-- What a lookup gives, by what its helper did. -/
inductive LookedUp (program : Path) (start? : Option Path) :
    Except SystemError Run → Except EngineError Path → Prop
  | unstarted (cause : SystemError) :
    LookedUp program start? (.error cause) (.error (.spawnFailed program.shown cause))
  | failed {run : Run} (unsuccessful : run.ending ≠ .exit 0) {line : List Char}
      (first : FirstSaid (Utf8.decodeLossy run.stderr).toList line) {message : String}
      (said : Trims line message.toList) :
    LookedUp program start? (.ok run)
      (.error (.notFound "prettier" (start?.elim "global install" Path.shown) message))
  | speechless {run : Run} (unsuccessful : run.ending ≠ .exit 0)
      (blank : ∀ c ∈ (Utf8.decodeLossy run.stderr).toList, isBlank c = true) :
    LookedUp program start? (.ok run)
      (.error (.notFound "prettier" (start?.elim "global install" Path.shown)
        "resolution failed"))
  | nothing {run : Run} (successful : run.ending = .exit 0)
      (blank : ∀ c ∈ (Utf8.decodeLossy run.stdout).toList, isBlank c = true) :
    LookedUp program start? (.ok run)
      (.error (.notFound "prettier" (start?.elim "global install" Path.shown)
        "resolver printed nothing"))
  | found {run : Run} (successful : run.ending = .exit 0) {printed : String}
      (shown : printed ≠ "")
      (trimmed : Trims (Utf8.decodeLossy run.stdout).toList printed.toList) :
    LookedUp program start? (.ok run) (.ok (.ofText printed))

variable {program : Path} {start? : Option Path} {run : Run}
  {started : Except SystemError Run} {result : Except EngineError Path}

/-- What a lookup gives, from how its helper was started. -/
def settle (program : Path) (start? : Option Path) :
    Except SystemError Run → Except EngineError Path
  | .ok run => outcome start? run
  | .error cause => .error (.spawnFailed program.shown cause)

theorem notFound_eq (message : String) : notFound start? message =
    .notFound "prettier" (start?.elim "global install" Path.shown) message := by
  cases start? <;> rfl

theorem isSuccess_iff {ending : Ending} : ending.isSuccess = true ↔ ending = .exit 0 := by
  constructor
  · intro h
    refine Classical.byContradiction fun other => ?_
    rw [Exchange.isSuccess_eq_false other] at h
    cases h
  · rintro rfl
    rfl

/-- The first line that says something is what is told. -/
theorem gist_of_firstSaid {diagnostics : String} {line : List Char}
    (first : FirstSaid diagnostics.toList line) :
    gist diagnostics = Text.trim (.ofList line) := by
  have sought := Text.find?_lines first
  rw [String.ofList_toList] at sought
  rw [gist, sought, Option.getD_some]

/-- A helper that complains over several lines, the first two of them blank. -/
example : gist " \r\n\t\n  Cannot find module \r\nat here" = "Cannot find module" := by
  decide +kernel

theorem gist_of_blank {diagnostics : String}
    (blank : ∀ c ∈ diagnostics.toList, isBlank c = true) :
    gist diagnostics = "resolution failed" := by
  have sought := Text.find?_lines_eq_none blank
  rw [String.ofList_toList] at sought
  rw [gist, sought, Option.getD_none]

theorem lookedUp_outcome : LookedUp program start? (.ok run) (outcome start? run) := by
  unfold outcome
  by_cases h : run.ending.isSuccess = true
  · have successful := isSuccess_iff.1 h
    rw [if_pos h]
    by_cases empty : Text.trim (Utf8.decodeLossy run.stdout) = ""
    · simp only [empty, if_true, notFound_eq]
      exact .nothing successful (Text.trim_eq_empty_iff.1 empty)
    · simp only [empty, if_false]
      exact .found successful empty (Text.trims_trim _)
  · have unsuccessful : run.ending ≠ .exit 0 := fun ended => h (isSuccess_iff.2 ended)
    rw [if_neg h, notFound_eq]
    obtain ⟨line, first⟩ | blank := Text.firstSaid_or_blank (Utf8.decodeLossy run.stderr).toList
    · have said := Text.trims_trim (.ofList line)
      rw [String.toList_ofList] at said
      rw [gist_of_firstSaid first]
      exact .failed unsuccessful first said
    · rw [gist_of_blank blank]
      exact .speechless unsuccessful blank

/-- **A lookup gives just one result.** -/
theorem lookedUp_iff : LookedUp program start? started result ↔
    settle program start? started = result := by
  constructor
  · intro h
    cases h with
    | unstarted cause => rfl
    | @failed run unsuccessful line first message said =>
      have told : Text.trim (.ofList line) = message :=
        Text.trim_eq (by rwa [String.toList_ofList])
      rw [settle, outcome, Exchange.isSuccess_eq_false unsuccessful, if_neg Bool.false_ne_true,
        gist_of_firstSaid first, told, notFound_eq]
    | @speechless run unsuccessful blank =>
      rw [settle, outcome, Exchange.isSuccess_eq_false unsuccessful, if_neg Bool.false_ne_true,
        gist_of_blank blank, notFound_eq]
    | @nothing run successful blank =>
      have empty := Text.trim_eq_empty_iff.2 blank
      simp only [settle, outcome, isSuccess_iff.2 successful, if_true, empty, notFound_eq]
    | @found run successful printed shown trimmed =>
      have whole := Text.trim_eq trimmed
      simp only [settle, outcome, isSuccess_iff.2 successful, if_true, whole, if_neg shown]
  · rintro rfl
    cases started with
    | ok run => exact lookedUp_outcome
    | error cause => exact .unstarted cause

/-- What can be shown to a reader: a message is one line that says something, and a path is
not empty. -/
structure Presentable (result : Except EngineError Path) : Prop where
  message : ∀ package origin message, result = .error (.notFound package origin message) →
    message ≠ "" ∧ '\n' ∉ message.toList
  path : ∀ path, result = .ok path → path.bytes ≠ []

theorem encode_ne_nil {text : String} (h : text ≠ "") : Utf8.encode text ≠ [] := by
  intro empty
  have decoded := Utf8.decodeLossy_encode text
  rw [empty, Utf8.decodeLossy, Utf8.pieces] at decoded
  exact h decoded.symm

/-- A message that is what is left of a line is one. -/
theorem message_of_line {text line : List Char} {message : String}
    (first : FirstSaid text line) (said : Trims line message.toList) :
    message ≠ "" ∧ '\n' ∉ message.toList := by
  have told : Text.trim (.ofList line) = message :=
    Text.trim_eq (by rwa [String.toList_ofList])
  refine ⟨told ▸ Text.trim_line_ne_empty first.speaks, fun newline => first.alone ?_⟩
  obtain ⟨before, after, whole, -, -⟩ := said.ends
  rw [whole]
  exact List.mem_append_left after (List.mem_append_right before newline)

/-- **What a lookup gives can be shown.** -/
theorem LookedUp.presentable (h : LookedUp program start? started result) :
    Presentable result := by
  cases h with
  | unstarted cause => exact ⟨nofun, nofun⟩
  | failed unsuccessful first said =>
    refine ⟨?_, nofun⟩
    rintro _ _ _ ⟨⟩
    exact message_of_line first said
  | speechless unsuccessful blank =>
    refine ⟨?_, nofun⟩
    rintro _ _ _ ⟨⟩
    exact ⟨by decide, by decide⟩
  | nothing successful blank =>
    refine ⟨?_, nofun⟩
    rintro _ _ _ ⟨⟩
    exact ⟨by decide, by decide⟩
  | found successful shown trimmed =>
    refine ⟨nofun, ?_⟩
    rintro _ ⟨⟩
    exact encode_ne_nil shown

end Helper.Lookup

/-! ### Failed lookups of a request -/

/-- Why a call failed, if it did. -/
def Turn.error? (t : Turn ε) : Option EngineError :=
  match t.reply with
  | .ok _ => none
  | .error error => some error

namespace Request

variable {isFile : Path → Bool} {r : Request} {args : Arguments} {start : Path}
  {shim? : Option Path} {env : Environment} {error : EngineError} {ts rest : List (Turn ε)}
  {out : Outcome}

/-- A failed lookup in the project that comes first and decides nothing but where to go on: the
request ends without an engine if it may not leave the project, and goes on with the global
install otherwise; its error is that of a later call, and with any other failure of the lookup
it could have gone the same way. -/
structure Overlooked (isFile : Path → Bool) (r : Request) (start : Path) (shim? : Option Path)
    (env : Environment) (rest : List (Turn ε)) (out : Outcome) : Prop where
  confined : r.env.localOnly = true → rest = [] ∧ out = .ok r.text
  everywhere : r.env.localOnly = false →
    ∃ reply behind, rest = ⟨.locateGlobal shim? env, reply⟩ :: behind
  later : ∀ error, out = .error (.engine error) →
    ∃ last, rest.getLast? = some last ∧ last.error? = some error
  unseen : ∀ other, (r.run isFile).Course (⟨.locate start shim? env, .error other⟩ :: rest) out

/-- A request whose arguments were read begins with a lookup in the project, and goes on in
the same way whatever that failed with. -/
theorem course_failed_lookup
    (h : (r.withArguments isFile args).Course
      (⟨.locate start shim? env, .error error⟩ :: rest) out) :
    (r.env.localOnly = true → rest = [] ∧ out = .ok r.text) ∧
      (r.env.localOnly = false →
        ∃ reply behind, rest = ⟨.locateGlobal shim? env, reply⟩ :: behind) ∧
      ∀ other, (r.withArguments isFile args).Course
        (⟨.locate start shim? env, .error other⟩ :: rest) out := by
  simp only [withArguments, Dialogue.course_tellAll, Dialogue.course_tell] at h ⊢
  obtain ⟨reply, more, same, h⟩ := h
  cases same
  refine ⟨fun kept => ?_, fun free => ?_, fun other => ⟨.error other, rest, rfl, ?_⟩⟩
  · simp only [kept, if_true] at h
    exact h
  · simp only [free, Bool.false_eq_true, if_false] at h
    obtain ⟨reply, behind, rfl, -⟩ := h
    exact ⟨reply, behind, rfl⟩
  · cases kept : r.env.localOnly with
    | true =>
      simp only [kept, if_true] at h ⊢
      exact h
    | false =>
      simp only [kept, Bool.false_eq_true, if_false] at h ⊢
      exact h

/-- An error that a request ends with is that of the turn it ends with. -/
theorem error?_of_outcomeAt? {text : String} {file : Path} {t : Turn ε}
    (h : outcomeAt? text file t = some (.error (.engine error))) : t.error? = some error := by
  match t, h with
  | ⟨.locateGlobal .., .error _⟩, h => cases h; rfl
  | ⟨.load .., .error _⟩, h => cases h; rfl
  | ⟨.perform _ (.resolveConfig ..), .error _⟩, h => cases h; rfl
  | ⟨.perform _ (.fileInfo ..), .error _⟩, h => cases h; rfl
  | ⟨.perform _ (.format ..), .error _⟩, h => cases h; rfl
  | ⟨.perform _ (.check ..), .error _⟩, h => cases h; rfl
  -- a reply that is no error ends a request with another outcome, or not at all
  | ⟨.perform _ (.fileInfo ..), .ok info⟩, h =>
    cases hi : info.ignored with
    | true => simp [outcomeAt?, hi] at h
    | false => simp [outcomeAt?, hi] at h
  | ⟨.perform _ (.check ..), .ok formatted⟩, h => cases formatted <;> cases h

/-- In the order of its kinds a request that begins with a lookup in the project has no other. -/
theorem locate_first {first : Turn ε} (order : ((first :: rest).map Turn.kind).Sublist
    (stages args.task)) (located : first.kind = .locate) {t : Turn ε} (ht : t ∈ first :: rest)
    (hk : t.kind = .locate) : t = first := by
  rw [List.map_cons, located, stages, List.cons_sublist_cons] at order
  rcases List.mem_cons.1 ht with same | behind
  · exact same
  · have later := order.subset (List.mem_map_of_mem behind)
    rw [hk] at later
    cases ht : args.task with
    | format => rw [ht] at later; exact absurd later (by decide)
    | check => rw [ht] at later; exact absurd later (by decide)

/-- **In every request a failed lookup in the project is overlooked**, whoever replies. -/
theorem overlooked (isFile : Path → Bool) (r : Request) (c : Collaborators ε σ) (s : σ)
    (h : ⟨.locate start shim? env, .error error⟩ ∈ (r.run isFile).turns c s) :
    ∃ rest, (r.run isFile).turns c s = ⟨.locate start shim? env, .error error⟩ :: rest ∧
      Overlooked isFile r start shim? env rest ((r.run isFile).run c s).outcome := by
  obtain ⟨-, orderly⟩ := run_orderly isFile r c s
  have course := Dialogue.course_run c (r.run isFile) s
  cases ha : Arguments.ofTokens? r.args with
  | error refused =>
    simp only [ha] at orderly
    rw [orderly.1] at h
    cases h
  | ok args =>
    have read : r.run (ε := ε) isFile = r.withArguments isFile args := by
      unfold run
      simp only [ha]
    simp only [ha] at orderly
    generalize (r.run isFile).turns c s = ts at *
    generalize ((r.run isFile).run c s).outcome = out at *
    rw [read] at course
    -- whatever is asked first is asked in the project
    obtain ⟨first, rest, rfl, located⟩ : ∃ first rest, ts = first :: rest ∧
        first.kind = .locate := by
      simp only [withArguments, Dialogue.course_tellAll, Dialogue.course_tell] at course
      obtain ⟨reply, rest, rfl, -⟩ := course
      exact ⟨_, rest, rfl, rfl⟩
    obtain rfl := locate_first orderly.order located h rfl
    obtain ⟨confined, everywhere, unseen⟩ := course_failed_lookup course
    refine ⟨rest, rfl, confined, everywhere, fun error ends => ?_, ?_⟩
    · obtain ⟨last, hl, decided⟩ := orderly.decided
      rw [ends] at decided
      cases kept : r.env.localOnly with
      | true => cases ends.symm.trans (confined kept).2
      | false =>
        obtain ⟨reply, behind, rfl⟩ := everywhere kept
        rw [List.getLast?_cons_cons] at hl
        exact ⟨last, hl, error?_of_outcomeAt? decided⟩
    · intro other
      rw [read]
      exact unseen other

end Request

/-! ### Lookups through helpers -/

namespace Helper

/-- What a lookup is answered with. -/
theorem find_fst (system : System σ) (setup : Setup) (start? shim? : Option Path)
    (env : Environment) (m : Memory σ) :
    (find system setup start? shim? env m).1 = Lookup.settle setup.program start?
      (system.start (Lookup.launch setup.program shim? start? env) m.system).1 := by
  unfold find
  simp only [Memory.start, Memory.hear]
  cases (system.start (Lookup.launch setup.program shim? start? env) m.system).1 <;> rfl

/-- **What lookups through helpers give, and what becomes of a request whose lookup in the
project failed.** Every lookup gives the one result that what its helper did calls for, which
can be shown; and no request ends with the failure of its lookup in the project. -/
theorem lookups_settled (system : System σ) (setup : Setup) :
    let c := collaborators system setup
    (∀ start shim? env m result, (c.reply (.locate start shim? env) m).1 = result ↔
      Lookup.LookedUp setup.program (some start)
        (system.start (Lookup.launch setup.program shim? (some start) env) m.system).1 result) ∧
    (∀ shim? env m result, (c.reply (.locateGlobal shim? env) m).1 = result ↔
      Lookup.LookedUp setup.program setup.globalPath?
        (system.start (Lookup.launch setup.program shim? setup.globalPath? env) m.system).1
        result) ∧
    (∀ start? started result, Lookup.LookedUp setup.program start? started result →
      Lookup.Presentable result) ∧
    ∀ isFile (r : Request) m start shim? env error,
      ⟨.locate start shim? env, .error error⟩ ∈ (r.run isFile).turns c m →
      ∃ rest, (r.run isFile).turns c m = ⟨.locate start shim? env, .error error⟩ :: rest ∧
        r.Overlooked isFile start shim? env rest ((r.run isFile).run c m).outcome := by
  intro c
  refine ⟨fun start shim? env m result => ?_, fun shim? env m result => ?_,
    fun start? started result looked => looked.presentable, ?_⟩
  · rw [Lookup.lookedUp_iff, ← find_fst]
    exact Iff.rfl
  · rw [Lookup.lookedUp_iff, ← find_fst]
    exact Iff.rfl
  · intro isFile r m start shim? env error failed
    exact Request.overlooked isFile r c m failed

end Helper

end FormatDaemon
