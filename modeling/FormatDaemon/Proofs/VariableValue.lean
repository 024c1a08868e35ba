import FormatDaemon.Proofs.BlankText
import FormatDaemon.Settings.Variable
import Mathlib.Data.List.TakeWhile

/-!
# The values of variables

The value of a variable is given a type by its looks. A text without blanks and marks that
looks like no number and no truth value stays a text; several of them between commas do not.

* `marks`: the characters that give a value another type.
* `value_text`: **what looks like nothing else is the text itself**.
* `value_list`: **what has commas is a list**, whatever stands between them.
-/

namespace FormatDaemon.Settings.Variable

open Text (isBlank trimChars cutChars)

/-- The characters that give a value another type than a text. -/
def marks : List Char := [',', '\x7b', '\x7d', '[', ']', '"', '\'', '.']

variable {cs : List Char}

/-! ### A text by itself -/

theorem isBlank_of_isSpace {c : Char} (h : isSpace c = true) : isBlank c = true := by
  simp only [isSpace, Bool.or_eq_true, decide_eq_true_eq] at h
  rcases h with (((rfl | rfl) | rfl) | rfl) | rfl <;> decide

theorem skipSpaces_eq_self (shown : ∀ c ∈ cs, isBlank c = false) : skipSpaces cs = cs := by
  cases cs with
  | nil => rfl
  | cons c rest =>
    refine List.dropWhile_cons_of_neg fun space => ?_
    have blank := isBlank_of_isSpace space
    rw [shown c List.mem_cons_self] at blank
    cases blank

theorem isPlain_of_not_mem {c : Char} (bare : c ∉ marks) : isPlain c = true := by
  simp only [marks, List.mem_cons, not_or] at bare
  obtain ⟨comma, opened, closed, left, right, -⟩ := bare
  simp only [isPlain, comma, opened, closed, left, right, decide_false, Bool.or_self,
    Bool.not_false]

theorem mem_signOf {c : Char} (hc : c ∈ cs) (plus : c ≠ '+') (minus : c ≠ '-') :
    c ∈ (Toml.signOf cs).2 := by
  unfold Toml.signOf
  split
  · exact (List.mem_cons.1 hc).resolve_left minus
  · exact (List.mem_cons.1 hc).resolve_left plus
  · exact hc

theorem mem_of_mem_signOf {c : Char} (hc : c ∈ (Toml.signOf cs).2) : c ∈ cs := by
  unfold Toml.signOf at hc
  split at hc
  · exact List.mem_cons_of_mem _ hc
  · exact List.mem_cons_of_mem _ hc
  · exact hc

/-- What stands before the first character of a kind is part of the whole. -/
theorem mem_of_mem_cutAt {p : Char → Bool} {c : Char} (hc : c ∈ (Toml.cutAt p cs).1) : c ∈ cs := by
  unfold Toml.cutAt at hc
  split at hc
  · exact hc
  · exact List.takeWhile_subset _ hc

theorem cutAt_snd_eq_none {p : Char → Bool} (none_of : ∀ c ∈ cs, p c = false) :
    (Toml.cutAt p cs).2 = none := by
  have dropped : cs.dropWhile (!p ·) = [] := by
    rw [List.dropWhile_eq_nil_iff]
    intro c hc
    rw [none_of c hc]
    rfl
  rw [Toml.cutAt, dropped]

/-- Without a point there is no real. -/
theorem real?_eq_none (point : '.' ∉ cs) : real? cs = none := by
  have whole : (Toml.cutAt (· = '.')
      (Toml.cutAt (fun c => c = 'e' || c = 'E') (Toml.signOf cs).2).1).2 = none := by
    apply cutAt_snd_eq_none
    intro c hc
    rw [decide_eq_false_iff_not]
    rintro rfl
    exact point (mem_of_mem_signOf (mem_of_mem_cutAt hc))
  unfold real?
  simp only [whole]
  rfl

/-- A character that is no digit and no sign keeps a text from being an integer. -/
theorem integer?_eq_none (odd : ∃ c ∈ cs, Toml.isDigit c = false ∧ c ≠ '+' ∧ c ≠ '-') :
    integer? cs = none := by
  obtain ⟨c, hc, digit, plus, minus⟩ := odd
  have other : (Toml.signOf cs).2.all Toml.isDigit = false :=
    List.all_eq_false.2 ⟨c, mem_signOf hc plus minus, by rw [digit]; exact Bool.false_ne_true⟩
  unfold integer?
  simp only [other, Bool.and_false, Bool.false_and, Bool.false_eq_true, if_false]

theorem plain_eq_string (shown : ∀ c ∈ cs, isBlank c = false) (point : '.' ∉ cs)
    (odd : ∃ c ∈ cs, Toml.isDigit c = false ∧ c ≠ '+' ∧ c ≠ '-') (word : truth? cs = none) :
    plain cs = .string (.ofList cs) := by
  simp only [plain, Text.trimChars_eq_self shown, real?_eq_none point, integer?_eq_none odd, word,
    Option.or_none, Option.getD_none]

/-- A text of which a word is only the beginning is not read to its end as that word. -/
theorem skipSpaces_behind {rest word : List Char} (shown : ∀ c ∈ cs, isBlank c = false)
    (h : behind? word cs = some rest) : skipSpaces rest = [] → cs = word := by
  unfold behind? at h
  split at h
  next starts =>
    obtain ⟨more, rfl⟩ := List.isPrefixOf_iff_prefix.1 starts
    rw [List.drop_left, Option.some.injEq] at h
    subst h
    rw [skipSpaces_eq_self fun c hc => shown c (List.mem_append_right word hc)]
    rintro rfl
    exact List.append_nil word
  next => cases h

/-- Read as a structure, a text is either itself or not read to its end. -/
theorem structured_text {depth : Nat} (shown : ∀ c ∈ cs, isBlank c = false)
    (bare : ∀ c ∈ cs, c ∉ marks)
    (odd : ∃ c ∈ cs, Toml.isDigit c = false ∧ c ≠ '+' ∧ c ≠ '-') (word : truth? cs = none) :
    ∃ j rest, structured (depth + 1) cs = some (j, rest) ∧
      (rest = [] → j = .string (.ofList cs)) := by
  unfold structured
  simp only [skipSpaces_eq_self shown]
  cases yes : behind? ['t', 'r', 'u', 'e'] cs with
  | some rest =>
    refine ⟨.bool true, skipSpaces rest, rfl, fun ended => ?_⟩
    rw [skipSpaces_behind shown yes ended] at word
    exact absurd word (by decide)
  | none =>
    cases no : behind? ['f', 'a', 'l', 's', 'e'] cs with
    | some rest =>
      refine ⟨.bool false, skipSpaces rest, rfl, fun ended => ?_⟩
      rw [skipSpaces_behind shown no ended] at word
      exact absurd word (by decide)
    | none =>
      have point : '.' ∉ cs := fun h => bare '.' h (by decide)
      have whole : cs.takeWhile isPlain = cs :=
        List.takeWhile_eq_self_iff.2 fun c hc => isPlain_of_not_mem (bare c hc)
      have nothing : cs.dropWhile isPlain = [] :=
        List.dropWhile_eq_nil_iff.2 fun c hc => isPlain_of_not_mem (bare c hc)
      -- the first character is no mark, so it is a run of plain characters
      have first : ∀ c ∈ marks, cs.head? ≠ some c := fun c hc head =>
        bare c (List.mem_of_head? head) hc
      refine ⟨.string (.ofList cs), [], ?_, fun _ => rfl⟩
      simp only
      split
      · exact absurd rfl (first '\x7b' (by decide))
      · exact absurd rfl (first '[' (by decide))
      · exact absurd rfl (first '"' (by decide))
      · exact absurd rfl (first '\'' (by decide))
      · exact absurd rfl (first '\'' (by decide))
      · rw [whole, nothing, plain_eq_string shown point odd word]
        rfl

/-- **What looks like nothing else is the text itself.** -/
theorem value_text (shown : ∀ c ∈ cs, isBlank c = false) (bare : ∀ c ∈ cs, c ∉ marks)
    (odd : ∃ c ∈ cs, Toml.isDigit c = false ∧ c ≠ '+' ∧ c ≠ '-') (word : truth? cs = none) :
    value (.ofList cs) = .string (.ofList cs) := by
  obtain ⟨j, rest, read, ended⟩ : ∃ j rest, structured (cs.length + 1) cs = some (j, rest) ∧
      (rest = [] → j = .string (.ofList cs)) := structured_text shown bare odd word
  have comma : cs.contains ',' = false := by
    rw [Bool.eq_false_iff, ne_eq, List.contains_iff_mem]
    exact fun h => bare ',' h (by decide)
  unfold value
  simp only [String.toList_ofList, Text.trimChars_eq_self shown, comma, Bool.false_and,
    Bool.false_eq_true, if_false, read]
  cases rest with
  | nil => rw [ended rfl]
  | cons c more => rfl

/-! ### Several texts -/

/-- A text that begins with a comma or with no mark at all begins no structure. -/
theorem startsQuoted_eq_false {rest : List Char} (bare : ∀ c ∈ cs, c ∉ marks) :
    startsQuoted (cs ++ ',' :: rest) = false := by
  cases cs with
  | nil => rfl
  | cons c more =>
    have first := bare c List.mem_cons_self
    simp only [marks, List.mem_cons, not_or] at first
    obtain ⟨-, opened, -, left, -, double, single, -⟩ := first
    simp only [List.cons_append, startsQuoted, opened, left, double, single, decide_false,
      Bool.or_self]

/-- **What has commas is a list**, whatever stands between them. -/
theorem value_list {parts : List (List Char)} (several : 1 < parts.length)
    (shown : ∀ p ∈ parts, ∀ c ∈ p, isBlank c = false) (bare : ∀ p ∈ parts, ∀ c ∈ p, c ∉ marks) :
    value (.ofList ([','].intercalate parts)) =
      .array (parts.map fun p => .string (.ofList p)) := by
  have cut : cutChars ',' ([','].intercalate parts) = parts := by
    rw [Text.cutChars_eq_splitOn]
    exact List.splitOn_intercalate ',' (fun p hp h => bare p hp ',' h (by decide))
      (List.ne_nil_of_length_pos (by omega))
  have all_shown : ∀ c ∈ [','].intercalate parts, isBlank c = false := by
    intro c hc
    obtain between | ⟨p, hp, hc⟩ := Text.mem_intercalate hc
    · rw [List.mem_singleton.1 between]
      decide
    · exact shown p hp c hc
  obtain ⟨first, rest, whole, hf⟩ : ∃ first rest, [','].intercalate parts = first ++ ',' :: rest ∧
      first ∈ parts := by
    match parts, several with
    | first :: second :: more, _ =>
      refine ⟨first, [','].intercalate (second :: more), ?_, List.mem_cons_self⟩
      rw [List.intercalate_cons_cons, List.append_assoc, List.singleton_append]
  have comma : ([','].intercalate parts).contains ',' = true := by
    rw [List.contains_iff_mem, whole]
    exact List.mem_append_right first List.mem_cons_self
  have unquoted : startsQuoted ([','].intercalate parts) = false := by
    rw [whole]
    exact startsQuoted_eq_false (bare first hf)
  unfold value
  simp only [String.toList_ofList, Text.trimChars_eq_self all_shown, comma, unquoted, cut,
    Bool.not_false, Bool.and_self, if_true]
  congr 1
  refine List.map_congr_left fun p hp => ?_
  rw [Text.trimChars_eq_self (shown p hp)]

end FormatDaemon.Settings.Variable
