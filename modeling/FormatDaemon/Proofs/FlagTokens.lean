import FormatDaemon.Flag.Token
import FormatDaemon.Proofs.FlagNames

/-!
# The spellings of an option

A token is dashes, a name, and perhaps a value behind an equals sign; every token can be taken
apart so in just one way. What it says depends on the name and the value alone.

* `Flag.Spelling`: a token taken apart; `Spelling.ofToken`, `Spelling.token`: apart and together.
* `entry_token`: **what a token says, from its parts**.
* `Spelling.Spells`: the three ways to spell an option; `Spells.key_eq`: **all have its key**.
-/

namespace FormatDaemon.Flag

/-! ### Taking apart -/

/-- A token taken apart: the dashes in front, the name up to the first equals sign, and the
value behind that, if there is one. -/
structure Spelling where
  dashes : Nat
  name : String
  value? : Option String
  bare : name.toList.head? ≠ some '-'
  whole : '=' ∉ name.toList

theorem head?_dropWhile_dash (chars : List Char) :
    (chars.dropWhile (· = '-')).head? ≠ some '-' := by
  intro h
  have first := List.head?_dropWhile_not (· = '-') chars
  rw [h] at first
  exact absurd first (by decide)

/-- A run without equals signs ends where one stands. -/
theorem dropWhile_equals (chars : List Char) :
    chars.dropWhile (· != '=') = [] ∨ ∃ value, chars.dropWhile (· != '=') = '=' :: value := by
  have first := List.head?_dropWhile_not (· != '=') chars
  cases h : chars.dropWhile (· != '=') with
  | nil => exact .inl rfl
  | cons c value =>
    rw [h] at first
    obtain rfl : c = '=' := by simpa using first
    exact .inr ⟨value, rfl⟩

namespace Spelling

/-- The value behind an equals sign, if there is one. -/
def valueOf? : List Char → Option String
  | [] => none
  | _ :: value => some (.ofList value)

/-- The parts of a token. -/
def ofToken (token : String) : Spelling where
  dashes := (token.toList.takeWhile (· = '-')).length
  name := .ofList ((token.toList.dropWhile (· = '-')).takeWhile (· != '='))
  value? := valueOf? ((token.toList.dropWhile (· = '-')).dropWhile (· != '='))
  bare h := by
    rw [String.toList_ofList, List.head?_takeWhile] at h
    exact head?_dropWhile_dash _ (Option.eq_some_of_filter_eq_some h)
  whole h := by
    rw [String.toList_ofList] at h
    exact absurd (List.all_eq_true.1 List.all_takeWhile _ h) (by decide)

/-- What stands behind the name. -/
def tail (s : Spelling) : List Char :=
  match s.value? with
  | none => []
  | some value => '=' :: value.toList

/-- The token. -/
def token (s : Spelling) : String :=
  .ofList (List.replicate s.dashes '-' ++ (s.name.toList ++ s.tail))

/-- The value; empty if there is none. -/
def value (s : Spelling) : String := s.value?.getD ""

/-- The same with another number of dashes. -/
def withDashes (s : Spelling) (n : Nat) : Spelling := { s with dashes := n }

/-- The same with the name without dashes. -/
def camel (s : Spelling) : Spelling where
  dashes := s.dashes
  name := camelCase s.name
  value? := s.value?
  bare h := dash_not_mem_camelCase s.name (List.mem_of_head? h)
  whole := equals_not_mem_camelCase s.whole

/-- **The parts of a token make it up again.** -/
theorem token_ofToken (token : String) : (ofToken token).token = token := by
  have dashes : List.replicate (ofToken token).dashes '-' = token.toList.takeWhile (· = '-') := by
    refine (List.eq_replicate_of_mem fun c hc => ?_).symm
    simpa using List.all_eq_true.1 List.all_takeWhile c hc
  have behind : (ofToken token).tail = (token.toList.dropWhile (· = '-')).dropWhile (· != '=') := by
    unfold tail ofToken
    rcases dropWhile_equals (token.toList.dropWhile (· = '-')) with h | ⟨value, h⟩
    · rw [h]
      rfl
    · rw [h]
      simp [valueOf?]
  unfold Spelling.token
  rw [dashes, behind, ofToken, String.toList_ofList, List.takeWhile_append_dropWhile,
    List.takeWhile_append_dropWhile, String.ofList_toList]

/-- Behind the dashes of a token its name begins. -/
theorem dropWhile_token (s : Spelling) :
    s.token.toList.dropWhile (· = '-') = s.name.toList ++ s.tail := by
  have dashes : ∀ c ∈ List.replicate s.dashes '-', decide (c = '-') = true := by
    intro c hc
    rw [List.eq_of_mem_replicate hc]
    rfl
  rw [token, String.toList_ofList, List.dropWhile_append_of_pos dashes]
  -- what comes next is the name, which has no dash in front, or an equals sign, or nothing
  have bare := s.bare
  unfold tail
  cases h : s.name.toList with
  | nil => cases s.value? <;> rfl
  | cons c rest =>
    rw [h, List.head?_cons, ne_eq, Option.some.injEq] at bare
    rw [List.cons_append, List.dropWhile_cons_of_neg (by simpa using bare)]

/-- The name and the value of a token are its halves. -/
theorem halves_token (s : Spelling) :
    halves (s.token.toList.dropWhile (· = '-')) = (s.name.toList, s.value.toList) := by
  have whole : ∀ c ∈ s.name.toList, (c != '=') = true := by
    rintro c hc
    rw [bne_iff_ne]
    rintro rfl
    exact s.whole hc
  rw [dropWhile_token, halves, List.takeWhile_append_of_pos whole,
    List.dropWhile_append_of_pos whole]
  unfold tail value
  cases s.value? with
  | none => simp
  | some value => simp

/-! ### What a token says -/

/-- **What a token says, from its parts.** -/
theorem entry_token (s : Spelling) :
    entry s.token =
      if s.value = "" then
        match negated? s.name.toList with
        | some rest => (camelCase (.ofList rest), .switch false)
        | none => (camelCase s.name, .switch true)
      else (camelCase s.name, .ofText s.value) := by
  unfold entry
  rw [halves_token]
  dsimp only
  rw [String.ofList_toList, String.ofList_toList]
  by_cases valueless : s.value = ""
  · have nothing : s.value.toList = [] := String.toList_eq_nil_iff.2 valueless
    cases negated? s.name.toList <;> simp only [if_pos valueless, if_pos nothing]
  · rw [if_neg valueless, if_neg (valueless ∘ String.toList_eq_nil_iff.1)]

/-- The name and the value alone count. -/
theorem entry_congr {s t : Spelling} (name : s.name = t.name) (value : s.value = t.value) :
    entry s.token = entry t.token := by
  rw [entry_token, entry_token, name, value]

end Spelling

theorem negated?_append (rest : String) : negated? ("no-" ++ rest).toList = some rest.toList := by
  rw [String.toList_append]
  rfl

theorem eq_append_of_negated? {name : String} {rest : List Char}
    (h : negated? name.toList = some rest) : name = "no-" ++ String.ofList rest := by
  unfold negated? at h
  split at h
  case h_1 chars spelled =>
    obtain rfl := Option.some.inj h
    have behind : (String.ofList chars).toList = chars := String.toList_ofList
    rw [← String.toList_inj, String.toList_append, behind, spelled]
    rfl
  case h_2 => cases h

namespace Spelling

variable {s : Spelling} {name : String}

/-- A name behind `no-` without a value is switched off. -/
theorem entry_negated (valueless : s.value = "") (named : s.name = "no-" ++ name) :
    entry s.token = (camelCase name, .switch false) := by
  rw [entry_token, if_pos valueless, named, negated?_append]
  simp only [String.ofList_toList]

/-- Any other name without a value is switched on. -/
theorem entry_plain (valueless : s.value = "") (positive : ∀ rest, s.name ≠ "no-" ++ rest) :
    entry s.token = (camelCase s.name, .switch true) := by
  rw [entry_token, if_pos valueless]
  cases h : negated? s.name.toList with
  | none => rfl
  | some rest => exact absurd (eq_append_of_negated? h) (positive _)

/-- With a value the whole name counts. -/
theorem entry_valued (valued : s.value ≠ "") : entry s.token = (camelCase s.name, .ofText s.value) := by
  rw [entry_token, if_neg valued]

/-- The ways to spell an option: its name alone, its name behind `no-`, and its name with a
value; without a value nothing or an equals sign stands behind the name. -/
inductive Spells (name : String) (s : Spelling) : Prop
  | plain (named : s.name = name) (valueless : s.value = "") (positive : ∀ rest, name ≠ "no-" ++ rest)
  | negated (named : s.name = "no-" ++ name) (valueless : s.value = "")
  | valued (named : s.name = name) (valued : s.value ≠ "")

/-- The key of an option is its name without dashes, however it is spelled. -/
theorem Spells.key_eq (h : s.Spells name) : (entry s.token).1 = camelCase name := by
  cases h with
  | plain named valueless positive => rw [entry_plain valueless (named ▸ positive), named]
  | negated named valueless => rw [entry_negated valueless named]
  | valued named valued => rw [entry_valued valued, named]

/-- Every token spells some option. -/
theorem exists_spells (s : Spelling) : ∃ name, '=' ∉ name.toList ∧ s.Spells name := by
  by_cases valued : s.value = ""
  · by_cases negative : ∃ rest, s.name = "no-" ++ rest
    · obtain ⟨rest, named⟩ := negative
      refine ⟨rest, fun h => s.whole ?_, .negated named valued⟩
      rw [named, String.toList_append]
      exact List.mem_append_right _ h
    · exact ⟨s.name, s.whole, .plain rfl valued (not_exists.1 negative)⟩
  · exact ⟨s.name, s.whole, .valued rfl valued⟩

end Spelling

/-- An option with a value, as options are written most of the time. -/
theorem entry_option {name value : String} (bare : name.toList.head? ≠ some '-')
    (whole : '=' ∉ name.toList) (valued : value ≠ "") :
    entry ("--" ++ name ++ "=" ++ value) = (camelCase name, .ofText value) := by
  have spelled : (⟨2, name, some value, bare, whole⟩ : Spelling).token =
      "--" ++ name ++ "=" ++ value := by
    simp [← String.toList_inj, Spelling.token, Spelling.tail]
  rw [← spelled]
  exact Spelling.entry_valued valued

/-- No key has a dash or an equals sign in it. -/
theorem not_mem_key (token : String) :
    '-' ∉ (entry token).1.toList ∧ '=' ∉ (entry token).1.toList := by
  obtain ⟨name, whole, spelled⟩ := (Spelling.ofToken token).exists_spells
  rw [← Spelling.token_ofToken token, spelled.key_eq]
  exact ⟨dash_not_mem_camelCase name, equals_not_mem_camelCase whole⟩

end FormatDaemon.Flag
