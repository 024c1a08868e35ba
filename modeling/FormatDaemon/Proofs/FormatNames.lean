import FormatDaemon.Program
import FormatDaemon.Proofs.Printing
import FormatDaemon.Proofs.SettingLayers
import FormatDaemon.Proofs.SettingsDocuments
import FormatDaemon.Proofs.VariableValue
import Mathlib

/-!
# The names of log formats

A log format has one name. By itself a text names it in any letter case; in a document, and so
in a settings file and in a variable, only letter by letter.

* `LogFormat.parse?_eq_some_iff`: the texts that name a format by themselves.
* `Settings.Variable.value_format`: such a text is not taken for a value of another type.
* `Settings.FormatFrom`: where the format of a process is set.
* `Settings.load_format`: **which settings come out of a format that is set**.
* `Program.format_readers`: **the two readers of a format, and the process between them**.
-/

namespace FormatDaemon

open Json.Decoder

namespace LogFormat

variable {text : String} {format : LogFormat}

theorem name_toLower (format : LogFormat) :
    format.name.toList.map Char.toLower = format.name.toList := by
  cases format <;> decide

/-- **By itself a text names a format in any letter case.** -/
theorem parse?_eq_some_iff :
    parse? text = some format ↔ text.toList.map Char.toLower = format.name.toList := by
  have named (other : LogFormat) : Text.eqIgnoreAsciiCase other.name text = true ↔
      text.toList.map Char.toLower = other.name.toList := by
    rw [Text.eqIgnoreAsciiCase, beq_iff_eq, name_toLower, eq_comm]
  unfold parse?
  constructor
  · intro found
    have holds := List.find?_some found
    exact (named format).1 holds
  · intro spelled
    have own := (named format).2 spelled
    cases format with
    | json => simp only [all, List.find?_cons, own]
    | compact =>
      -- the other name is tried first, and misses
      have other : Text.eqIgnoreAsciiCase json.name text = false := by
        rw [Bool.eq_false_iff, ne_eq, named, spelled]
        decide
      simp only [all, List.find?_cons, other, own]

theorem parse?_name (format : LogFormat) : parse? format.name = some format :=
  parse?_eq_some_iff.2 (name_toLower format)

/-- A format consists of letters, in whichever case. -/
theorem isAlpha_of_parse? (spelled : parse? text = some format) {c : Char} (hc : c ∈ text.toList) :
    c.isAlpha = true := by
  have lower : c.toLower ∈ format.name.toList := by
    rw [← parse?_eq_some_iff.1 spelled]
    exact List.mem_map_of_mem hc
  have small : format.name.toList.all Char.isLower = true := by
    cases format <;> decide
  rw [← Char.isLower_toLower_eq_isAlpha]
  exact List.all_eq_true.1 small _ lower

/-- A letter is none of the characters that give a variable another type, and no digit. -/
theorem plain_of_isAlpha {c : Char} (letter : c.isAlpha = true) :
    c ∉ Settings.Variable.marks ∧ Toml.isDigit c = false ∧ c ≠ '+' ∧ c ≠ '-' := by
  have high : 65 ≤ c.toNat := by
    rcases Bool.or_eq_true_iff.1 letter with capital | small
    · exact (of_decide_eq_true capital).1
    · have low : 97 ≤ c.toNat := of_decide_eq_true (Bool.and_eq_true_iff.1 small).1
      omega
  refine ⟨fun mark => ?_, ?_, ?_, ?_⟩
  · have none_of : Settings.Variable.marks.all (fun m => !m.isAlpha) = true := by decide
    have other := List.all_eq_true.1 none_of c mark
    rw [letter] at other
    cases other
  · rw [Bool.eq_false_iff]
    intro digit
    have low : c.toNat ≤ 57 := of_decide_eq_true (Bool.and_eq_true_iff.1 digit).2
    omega
  · rintro rfl
    exact absurd high (by decide)
  · rintro rfl
    exact absurd high (by decide)

end LogFormat

namespace Settings

variable {text : String} {format : LogFormat}

/-- The name of a format, in any case, is a text as the value of a variable. -/
theorem Variable.value_format (spelled : LogFormat.parse? text = some format) :
    value text = .string text := by
  have lower := LogFormat.parse?_eq_some_iff.1 spelled
  have letters : ∀ c ∈ text.toList, c.isAlpha = true := fun c => LogFormat.isAlpha_of_parse? spelled
  -- a single letter keeps it from being a number
  have odd : ∃ c ∈ text.toList, Toml.isDigit c = false ∧ c ≠ '+' ∧ c ≠ '-' := by
    have some_char : text.toList ≠ [] := by
      intro nothing
      rw [nothing] at lower
      cases format <;> exact absurd lower (by decide)
    obtain ⟨c, hc⟩ := List.exists_mem_of_ne_nil _ some_char
    exact ⟨c, hc, (LogFormat.plain_of_isAlpha (letters c hc)).2⟩
  have word : truth? text.toList = none := by
    unfold truth?
    rw [lower]
    cases format <;> rfl
  have shown : ∀ c ∈ text.toList, Text.isBlank c = false := fun c hc =>
    Text.isBlank_of_isAlphanum (by rw [Char.isAlphanum, letters c hc, Bool.true_or])
  have read := value_text shown (fun c hc => (LogFormat.plain_of_isAlpha (letters c hc)).1) odd word
  rwa [String.ofList_toList] at read

/-! ### Where a format is set -/

/-- Where the format of a process is set: by the last variable for it, or, if no variable is for
it, in the settings below the variables. -/
inductive FormatFrom (vars : List (List UInt8 × List UInt8)) (below : Layer) (text : String) :
    Prop where
  | environment (format : LogFormat) (sets : Variable.Sets "log_format" text vars)
      (spelled : LogFormat.parse? text = some format)
  | file (apart : ∀ entry ∈ vars, Variable.Apart "log_format" entry)
      (there : below.get? "log_format" = some (.string text))

variable {vars : List (List UInt8 × List UInt8)}

/-- Either way it is a text among the settings. -/
theorem FormatFrom.get?_layers {below : Layer} (source : FormatFrom vars below text) :
    ((Variable.layer vars).over below).get? "log_format" = some (.string text) := by
  rw [get?_over]
  cases source with
  | environment format sets spelled =>
    -- a text hides whatever the file has under this name
    rw [sets.get?_layer, Variable.value_format spelled]
    exact congrArg some (by rw [valueOver])
  | file apart there =>
    rw [Variable.layer, Variable.get?_foldl_apply apart, Table.get?_empty]
    exact there

/-- Settings with the format of a name, and else those of a document. -/
def Joined (text : String) (others : Json) (s : Settings) : Prop :=
  ∃ format base, text = LogFormat.name format ∧ ofValue decode others = .ok base ∧
    s = { base with logFormat := format }

variable {tree : FileTree} {file? : Option Layer}

/-- **Which settings come out of a format that is set.** -/
theorem load_format (found : File.firstLayer tree (File.candidates vars) = .ok file?)
    (source : FormatFrom vars (file?.getD .empty) text) (s : Settings) :
    load tree vars = .ok s ↔ Joined text
      (.ofTable (((Variable.layer vars).over (file?.getD .empty)).erase "log_format")) s := by
  have read := decode_format_layer source.get?_layers s
  simp only [LogFormat.isFormat_string] at read
  rw [Joined, ← read, load, found]
  show (ofValue decode (.ofTable ((Variable.layer vars).over (file?.getD .empty)))).mapError
    LoadError.field = .ok s ↔ _
  cases ofValue decode (.ofTable ((Variable.layer vars).over (file?.getD .empty))) with
  | error fault => exact ⟨nofun, nofun⟩
  | ok base => simp only [Except.mapError, Except.ok.injEq]

end Settings

/-! ### The readers -/

namespace Program

/-- A process that gets no settings does nothing. -/
theorem run_refused {tree : FileTree} {vars : List (List UInt8 × List UInt8)}
    (refused : ∀ s, Settings.load tree vars ≠ .ok s) {σ : Type} (system : Helper.System σ)
    (state : σ) {p : Input} (same : p.vars = vars) :
    (run system state tree p).exit = 1 ∧ (run system state tree p).written = [] ∧
      (run system state tree p).launches = [] := by
  unfold run
  rw [same]
  cases loaded : Settings.load tree vars with
  | ok s => exact absurd loaded (refused s)
  | error fault => exact ⟨rfl, rfl, rfl⟩

/-- **The two readers of a log format.** By itself a text is read in any letter case. In a
document it is read letter by letter, and so are a settings file and a variable: of the texts
that name a format in any case, all but its own name end the process before it does anything. -/
theorem format_readers (text : String) :
    (∀ format, LogFormat.parse? text = some format ↔
      text.toList.map Char.toLower = format.name.toList) ∧
    (∀ t, Json.Says t (.string text) → ∀ format, ofText LogFormat.decode t = .ok format ↔
      LogFormat.parse? text = some format ∧ text = format.name) ∧
    (∀ t before after, Json.Says t (.object (before ++ ("log_format", .string text) :: after)) →
      ∀ s, ofText Settings.decode t = .ok s ↔
        Json.under "log_format" (before ++ after) = [] ∧
          Settings.Joined text (.object (before ++ after)) s) ∧
    ∀ tree vars file?, Settings.File.firstLayer tree (Settings.File.candidates vars) = .ok file? →
      Settings.FormatFrom vars (file?.getD .empty) text →
      let settings := (Settings.Variable.layer vars).over (file?.getD .empty)
      (∀ s, Settings.load tree vars = .ok s ↔
        Settings.Joined text (.ofTable (settings.erase "log_format")) s) ∧
      ((∀ format : LogFormat, text ≠ format.name) →
        ∀ {σ : Type} (system : Helper.System σ) state p, p.vars = vars →
          (run system state tree p).exit = 1 ∧ (run system state tree p).written = [] ∧
            (run system state tree p).launches = []) := by
  refine ⟨fun format => LogFormat.parse?_eq_some_iff, fun t said format => ?_,
    fun t before after said s => ?_, fun tree vars file? found source => ?_⟩
  · obtain ⟨node, hn, read⟩ := said.ofText
    rw [read, LogFormat.decode_eq_ok_iff hn, LogFormat.isFormat_string]
    constructor
    · rintro rfl
      exact ⟨LogFormat.parse?_name format, rfl⟩
    · rintro ⟨-, own⟩
      exact own
  · obtain ⟨node, hn, read⟩ := said.ofText
    rw [read, Settings.decode_format hn]
    simp only [LogFormat.isFormat_string, Settings.Joined]
  · have loaded := Settings.load_format found source
    refine ⟨loaded, fun other σ system state p same => run_refused (fun s got => ?_) _ _ same⟩
    obtain ⟨format, base, own, -, -⟩ := (loaded s).1 got
    exact other format own

/-- A home directory and a variable for the log format. -/
def formatVars (text : String) : List (List UInt8 × List UInt8) :=
  [(Utf8.encode "HOME", Utf8.encode "/home/me"),
    (Utf8.encode "PRETTIERD_LOG_FORMAT", Utf8.encode text)]

theorem sets_formatVars (text : String) :
    Settings.Variable.Sets "log_format" text (formatVars text) := by
  refine ⟨[(Utf8.encode "HOME", Utf8.encode "/home/me")], _, [], rfl, ?_, nofun⟩
  rw [Utf8.decodeLossy_encode]
  decide +kernel

/-- A format in capitals names no format letter by letter. -/
theorem capitals_ne_name (format : LogFormat) : "JSON" ≠ format.name := by
  cases format <;> decide

/-- The name of a format is read everywhere; in capitals it ends the process. -/
theorem format_readers_json :
    ofText LogFormat.decode "\"json\"" = .ok .json ∧
      ofText Settings.decode "\x7b\"log_format\":\"json\"\x7d" =
        .ok { Settings.default with logFormat := .json } ∧
      Settings.load ⟨[], []⟩ (formatVars "json") =
        .ok { Settings.default with logFormat := .json } ∧
      ∀ {σ : Type} (system : Helper.System σ) state p, p.vars = formatVars "JSON" →
        (run system state ⟨[], []⟩ p).exit = 1 := by
  obtain ⟨named, text, document, process⟩ := format_readers "json"
  have spelled : LogFormat.parse? "json" = some .json := (named .json).2 rfl
  have said : Json.Says "\"json\"" (.string "json") :=
    Json.says_of_print (by decide +kernel) trivial (Nat.zero_le _)
  have member : Json.Says "\x7b\"log_format\":\"json\"\x7d"
      (.object [("log_format", .string "json")]) :=
    Json.says_of_print (by decide +kernel) ⟨trivial, trivial⟩ (by decide)
  refine ⟨?_, ?_, ?_, ?_⟩
  · exact (text _ said .json).2 ⟨spelled, rfl⟩
  · exact (document _ [] [] member _).2 ⟨rfl, .json, _, rfl, rfl, rfl⟩
  · obtain ⟨loaded, -⟩ := process ⟨[], []⟩ _ none rfl
      (.environment .json (sets_formatVars "json") spelled)
    exact (loaded _).2 ⟨.json, Settings.default, rfl, by decide +kernel, rfl⟩
  · intro σ system state p same
    obtain ⟨capital, -, -, process⟩ := format_readers "JSON"
    obtain ⟨-, refused⟩ := process ⟨[], []⟩ _ none rfl
      (.environment .json (sets_formatVars "JSON") ((capital .json).2 rfl))
    exact (refused capitals_ne_name system state p same).1

/-- In capitals a format is read by itself, and not in a document, nor from a variable. -/
theorem format_in_capitals :
    LogFormat.parse? "JSON" = some .json ∧
      (∀ format, ofText LogFormat.decode "\"JSON\"" ≠ .ok format) ∧
      (∀ s, ofText Settings.decode "\x7b\"log_format\":\"JSON\"\x7d" ≠ .ok s) ∧
      ∀ s, Settings.load ⟨[], []⟩ (formatVars "JSON") ≠ .ok s := by
  have spelled : LogFormat.parse? "JSON" = some .json := LogFormat.parse?_eq_some_iff.2 rfl
  refine ⟨spelled, fun format read => ?_, fun s read => ?_, fun s read => ?_⟩
  · have said : Json.Says "\"JSON\"" (.string "JSON") :=
      Json.says_of_print (by decide +kernel) trivial (Nat.zero_le _)
    obtain ⟨node, hn, same⟩ := said.ofText
    rw [same, LogFormat.decode_eq_ok_iff hn, LogFormat.isFormat_string] at read
    exact capitals_ne_name format read
  · have said : Json.Says "\x7b\"log_format\":\"JSON\"\x7d"
        (.object [("log_format", .string "JSON")]) :=
      Json.says_of_print (by decide +kernel) ⟨trivial, trivial⟩ (by decide)
    obtain ⟨node, hn, same⟩ := said.ofText
    rw [same, @Settings.decode_format _ [] [] _ hn] at read
    obtain ⟨-, format, -, named, -⟩ := read
    exact capitals_ne_name format (LogFormat.isFormat_string.1 named)
  · have loaded := @Settings.load_format _ _ ⟨[], []⟩ none rfl
      (.environment .json (sets_formatVars "JSON") spelled) s
    obtain ⟨format, -, named, -⟩ := loaded.1 read
    exact capitals_ne_name format named

end Program

end FormatDaemon
