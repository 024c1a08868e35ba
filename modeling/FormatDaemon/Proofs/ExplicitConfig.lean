import FormatDaemon.Collaborators.Static
import FormatDaemon.Proofs.FlagValues
import FormatDaemon.Proofs.TargetPath

/-!
# The path of an explicit configuration

The path behind `--config=` is read as the value of any option before it is taken for a path
again. A path of digits only is a number in between, and comes back as numbers are printed.

* `Flag.respelled`: how a text comes back; `Flag.Kept`: the texts that come back as they were.
* `Binary64.exists_not_isDigit`: a real in print is no numeral.
* `respelled_eq_self_iff`: **just the kept texts come back as they were**.
* `explicit_config`: **the path of the last token, respelled, is where configuration comes
  from**, in the options and in the first question of every request.
-/

namespace FormatDaemon

variable {ε σ : Type}

/-! ### Reals in print -/

/-- The text of a real is no numeral: a point or an exponent shows. -/
theorem Binary64.exists_not_isDigit (x : Binary64) :
    ∃ c ∈ x.text.toList, Flag.Value.isDigit c = false := by
  have decimal : ∀ d : Decimal, ∃ c ∈ (decimalText d).toList, Flag.Value.isDigit c = false := by
    intro d
    unfold decimalText
    dsimp only
    split
    · refine ⟨'.', ?_, rfl⟩
      split
      · simp
      · split <;> simp
    · exact ⟨'e', by simp, rfl⟩
  have body : ∃ c ∈ (if x.rank = 0 then "0.0" else decimalText x.shortest).toList,
      Flag.Value.isDigit c = false := by
    split
    · exact ⟨'.', by decide, rfl⟩
    · exact decimal x.shortest
  obtain ⟨c, hc, hd⟩ := body
  unfold text
  dsimp only
  split
  · exact ⟨c, by rw [String.toList_append]; exact List.mem_append_right _ hc, hd⟩
  · exact ⟨c, hc, hd⟩

/-! ### Texts that were values -/

namespace Flag

/-- A text that was taken for a value: a number is printed again. -/
def respelled (text : String) : String :=
  match Value.ofText text with
  | .number n => n.text
  | .switch _ | .text _ => text

/-- The texts that come back as they were: all but numerals, numerals of 64 bits without
zeros in front, and numerals too large for any number. -/
def Kept (text : String) : Prop :=
  text.toList.all Value.isDigit = true →
    Value.naturalOf text.toList < Limit.nat64 ∧ (text.toList.head? = some '0' → text = "0") ∨
      Binary64.limit ≤ Value.naturalOf text.toList

theorem respelled_of_not_numeral {text : String} (h : text.toList.all Value.isDigit = false) :
    respelled text = text := by
  unfold respelled
  split
  next n he => exact absurd he (Value.ofText_ne_number h n)
  next => rfl
  next => rfl

/-- A numeral of 64 bits comes back without the zeros in front of it. -/
theorem respelled_integer {text : String} (h : text.toList.all Value.isDigit = true)
    (fits : Value.naturalOf text.toList < Limit.nat64) :
    respelled text = toString (Value.naturalOf text.toList) := by
  unfold respelled
  rw [Value.ofText_numeral h, Value.numberOf?, if_pos fits]
  rfl

/-- A larger numeral comes back as the nearest real, if there is one. -/
theorem respelled_real {text : String} (h : text.toList.all Value.isDigit = true)
    (large : Limit.nat64 ≤ Value.naturalOf text.toList) :
    respelled text = match Binary64.ofNat? (Value.naturalOf text.toList) with
      | some x => x.text
      | none => text := by
  unfold respelled
  rw [Value.ofText_numeral h, Value.numberOf?, if_neg (Nat.not_lt.2 large)]
  cases Binary64.ofNat? (Value.naturalOf text.toList) <;> rfl

theorem respelled_integer_eq_self_iff {text : String}
    (h : text.toList.all Value.isDigit = true)
    (fits : Value.naturalOf text.toList < Limit.nat64) (hn : text ≠ "") :
    respelled text = text ↔ (text.toList.head? = some '0' → text = "0") := by
  have printed : respelled text = text ↔
      Nat.toDigits 10 (Value.naturalOf text.toList) = text.toList := by
    rw [respelled_integer h fits, ← String.toList_inj, Nat.toString_eq_repr, Nat.toList_repr]
  rw [printed]
  constructor
  · intro same zero
    -- only the numeral of zero starts with a zero
    rcases Nat.eq_zero_or_pos (Value.naturalOf text.toList) with none | positive
    · rw [none, Nat.toDigits_zero] at same
      exact String.toList_inj.1 same.symm
    · exact absurd (by rw [same]; exact zero) (Json.head?_toDigits positive)
  · intro alone
    by_cases zero : text.toList.head? = some '0'
    · rw [alone zero]
      decide
    · exact Value.toDigits_naturalOf (List.all_eq_true.1 h) (by simpa using hn) zero

theorem respelled_real_eq_self_iff {text : String} (h : text.toList.all Value.isDigit = true)
    (large : Limit.nat64 ≤ Value.naturalOf text.toList) :
    respelled text = text ↔ Binary64.limit ≤ Value.naturalOf text.toList := by
  have long : 2 ^ 53 ≤ Value.naturalOf text.toList := Nat.le_trans (by decide) large
  rw [respelled_real h large, ← Binary64.ofNat?_eq_none_iff long]
  cases Binary64.ofNat? (Value.naturalOf text.toList) with
  | none => exact iff_of_true rfl rfl
  | some x =>
    refine iff_of_false (fun same => ?_) (by simp)
    obtain ⟨c, hc, hd⟩ := x.exists_not_isDigit
    rw [show x.text = text from same] at hc
    rw [List.all_eq_true.1 h c hc] at hd
    cases hd

/-- **Just the kept texts come back as they were.** -/
theorem respelled_eq_self_iff {text : String} (hn : text ≠ "") :
    respelled text = text ↔ Kept text := by
  have wide : Limit.nat64 < Binary64.limit := by decide +kernel
  unfold Kept
  cases h : text.toList.all Value.isDigit with
  | false => exact iff_of_true (respelled_of_not_numeral h) (by simp)
  | true =>
    rcases Nat.lt_or_ge (Value.naturalOf text.toList) Limit.nat64 with fits | large
    · have within : ¬ Binary64.limit ≤ Value.naturalOf text.toList := by omega
      rw [respelled_integer_eq_self_iff h fits hn]
      simp only [fits, within, true_and, or_false, forall_const]
    · have wider : ¬ Value.naturalOf text.toList < Limit.nat64 := by omega
      rw [respelled_real_eq_self_iff h large]
      simp only [wider, false_and, false_or, forall_const]

/-! ### The last token -/

/-- The entry of a token that names a configuration file. -/
theorem entry_config {path : String} (hn : path ≠ "") :
    entry ("--config=" ++ path) = (RequestOptions.configKey, .ofText path) := by
  have spelled : "--config=" = "--" ++ "config" ++ "=" := by decide
  have key : camelCase "config" = RequestOptions.configKey := by decide
  rw [spelled, entry_option (by decide) (by decide) hn, key]

end Flag

namespace RequestOptions

theorem source?_ofText {path : String} (ht : path ≠ "true") (hf : path ≠ "false") :
    source? (.ofText path) = some (.path (Flag.respelled path)) := by
  unfold Flag.respelled Flag.Value.ofText
  rw [if_neg ht, if_neg hf]
  split
  case isTrue =>
    cases Flag.Value.numberOf? (Flag.Value.naturalOf path.toList) with
    | none => rfl
    | some n => rfl
  case isFalse => rfl

/-- The last path is the source of configuration. -/
theorem config_ofTokens_append {before after : List String} {path : String} (hn : path ≠ "")
    (ht : path ≠ "true") (hf : path ≠ "false")
    (last : ∀ token ∈ after, (Flag.entry token).1 ≠ configKey) :
    (ofTokens (before ++ ("--config=" ++ path) :: after)).config =
      .path (Flag.respelled path) := by
  have entry := Flag.entry_config hn
  have value : Flag.lastValue? (before ++ ("--config=" ++ path) :: after) configKey =
      some (.ofText path) := by
    rw [Flag.lastValue?_append_cons (by rw [entry]) last, entry]
  unfold ofTokens ofTable lift
  dsimp only
  rw [Flag.get?_tableOf, value, Option.bind_some, source?_ofText ht hf]
  rfl

/-- Zeros in front are lost, and a numeral past 64 bits becomes a real. -/
theorem config_numerals :
    (ofTokens ["--config=007"]).config = .path "7" ∧
    (ofTokens ["--config=18446744073709551616"]).config = .path "1.8446744073709552e+19" := by
  decide +kernel

end RequestOptions

/-! ### Whole requests -/

namespace Request

/-- The first question of a request for configuration names the path of its options. -/
theorem Way.query_path {isFile : Path → Bool} {r : Request} {args : Arguments}
    {ts : List (Turn ε)} {out : Outcome} (h : Way isFile r args ts out) {path : String}
    (explicit : (options args).config = .path path) {t : Turn ε} (ht : query? ts = some t) :
    ∃ engine, t.call = .perform engine (.resolveConfig (r.file args)
      ⟨some (r.cwd.join (.ofText path)), (options args).editorconfig, false⟩) := by
  obtain ⟨engine, config?, asked, first⟩ := h.query_first ht
  rw [explicit] at asked
  obtain rfl : some (r.cwd.join (.ofText path)) = config? := Option.some.inj asked
  exact ⟨engine, first⟩

/-- **The path of the last token, respelled, is where configuration comes from**: it is the
source in the options, and the file that the first question for configuration names, if a
request gets that far. It is the path as given just for the kept texts. -/
theorem explicit_config {before after : List String} {path : String} (nonempty : path ≠ "")
    (no_switch : path ≠ "true" ∧ path ≠ "false")
    (last : ∀ token ∈ after, (Flag.entry token).1 ≠ RequestOptions.configKey) :
    let tokens := before ++ ("--config=" ++ path) :: after
    (RequestOptions.ofTokens tokens).config = .path (Flag.respelled path) ∧
      (Flag.respelled path = path ↔ Flag.Kept path) ∧
      ∀ (isFile : Path → Bool) (r : Request) (args : Arguments),
        Arguments.ofTokens? r.args = .ok args → args.options = tokens →
        ∀ (c : Collaborators ε σ) (s : σ) (t : Turn ε),
          query? ((r.run isFile).turns c s) = some t →
          ∃ engine, t.call = .perform engine (.resolveConfig (r.cwd.resolve args.target)
            ⟨some (r.cwd.join (.ofText (Flag.respelled path))),
              (RequestOptions.ofTokens tokens).editorconfig, false⟩) := by
  intro tokens
  have source : (RequestOptions.ofTokens tokens).config = .path (Flag.respelled path) :=
    RequestOptions.config_ofTokens_append nonempty no_switch.1 no_switch.2 last
  refine ⟨source, Flag.respelled_eq_self_iff nonempty, ?_⟩
  intro isFile r args read passed c s t ht
  have whole : (r.run isFile : Dialogue ε Outcome) = r.withArguments isFile args := by
    unfold run
    rw [read]
  rw [whole] at ht
  have way : Way isFile r args ((r.withArguments isFile args).turns c s) _ :=
    way_of_course (Dialogue.course_run c _ s)
  have explicit : (options args).config = .path (Flag.respelled path) := by
    rw [options, passed]
    exact source
  obtain ⟨engine, first⟩ := way.query_path explicit ht
  rw [options, passed] at first
  exact ⟨engine, first⟩

/-- A path of digits loses its zeros on the way to the engine. -/
theorem explicit_config_zeros :
    let asked : List (Turn Static.Engine) :=
      (run (fun _ => false)
        ⟨.ofText "/p", ["a.js", "--no-config", "--config=007", "--semi"], ⟨.empty⟩, "x"⟩).turns
        (Static.collaborators ⟨some (.ofText "/p/engine"), none⟩) ⟨some {}, [], [], [], []⟩
    ∃ t engine, query? asked = some t ∧ t.call = .perform engine
      (.resolveConfig (.ofText "/p/a.js") ⟨some (.ofText "/p/7"), true, false⟩) := by
  intro asked
  have last : ∀ token ∈ ["--semi"], (Flag.entry token).1 ≠ RequestOptions.configKey := by decide
  obtain ⟨-, -, first⟩ := @explicit_config Static.Engine Static.Memory ["--no-config"] ["--semi"]
    "007" (by decide) (by decide) last
  have reached : (query? asked).isSome = true := rfl
  obtain ⟨t, ht⟩ := Option.isSome_iff_exists.1 reached
  obtain ⟨engine, call⟩ := first (fun _ => false) ⟨.ofText "/p", _, ⟨.empty⟩, "x"⟩
    ⟨"a.js", .format, false, ".prettierignore", ["--no-config", "--config=007", "--semi"]⟩ rfl rfl
    (Static.collaborators ⟨some (.ofText "/p/engine"), none⟩) ⟨some {}, [], [], [], []⟩ t ht
  have file : (Path.ofText "/p").resolve "a.js" = .ofText "/p/a.js" := by decide
  have config : (Path.ofText "/p").join (.ofText (Flag.respelled "007")) = .ofText "/p/7" := by
    decide
  have editorconfig : (RequestOptions.ofTokens
      (["--no-config"] ++ ("--config=" ++ "007") :: ["--semi"])).editorconfig = true := by
    decide
  refine ⟨t, engine, ht, ?_⟩
  simp only [call, file, config, editorconfig]

end Request

end FormatDaemon
