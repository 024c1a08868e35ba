import FormatDaemon.Proofs.BlankText
import FormatDaemon.Proofs.FlagNames

/-!
# Option names as words

The dashes of an option name part it into words. Without dashes the first word is there as it
was, and of every other word the first character is in upper case, whatever upper case makes of
that: several characters, or the same one. An empty word leaves nothing behind, so dashes in a
row count as one, and dashes at the end do not count.

* `camelChars_append`: what stands in front of a dash and what stands behind do not meet.
* `camelChars_dashes`: behind a dash more dashes make no difference.
* `camelChars_words`: **a name without dashes, word by word**.
* `camelCase_laws`: **what taking the dashes out does to a name**.
-/

namespace FormatDaemon.Flag

variable {raise : Bool} {before after chars word : List Char}

/-- A word behind a dash: its first character is in upper case. -/
def raised : List Char → List Char
  | [] => []
  | c :: rest => Text.upper c ++ rest

/-- The words of a name. -/
def words (name : String) : List (List Char) := Text.cutChars '-' name.toList

/-- A number of dashes. -/
def dashes (n : Nat) : String := .ofList (List.replicate n '-')

/-! ### Across a dash -/

/-- **What stands in front of a dash and what stands behind do not meet.** -/
theorem camelChars_append : camelChars raise (before ++ '-' :: after) =
    camelChars raise before ++ camelChars true after := by
  -- in either state, since a character in front of the dash may change it
  induction before generalizing raise with
  | nil => simp only [List.nil_append, camelChars, if_true]
  | cons c rest ih =>
    rw [List.cons_append, camelChars, camelChars]
    by_cases dash : c = '-'
    · rw [if_pos dash, if_pos dash, ih]
    · rw [if_neg dash, if_neg dash]
      cases raise with
      | false => rw [if_neg Bool.false_ne_true, if_neg Bool.false_ne_true, ih, List.cons_append]
      | true => rw [if_pos rfl, if_pos rfl, ih, List.append_assoc]

/-- Behind a dash more dashes make no difference. -/
theorem camelChars_dashes (n : Nat) :
    camelChars true (List.replicate n '-' ++ after) = camelChars true after := by
  induction n with
  | zero => rw [List.replicate_zero, List.nil_append]
  | succ n ih => rw [List.replicate_succ, List.cons_append, camelChars, if_pos rfl, ih]

/-- Dashes at the end leave nothing behind. -/
theorem camelChars_append_dashes (n : Nat) :
    camelChars raise (before ++ List.replicate n '-') = camelChars raise before := by
  cases n with
  | zero => rw [List.replicate_zero, List.append_nil]
  | succ n =>
    have behind : camelChars true (List.replicate n '-') = [] := by
      have more := @camelChars_dashes [] n
      rwa [List.append_nil, camelChars] at more
    rw [List.replicate_succ, camelChars_append, behind, List.append_nil]

/-! ### Words -/

/-- **A name without dashes, word by word.** -/
theorem camelChars_words {more : List (List Char)} (cut : Text.cutChars '-' chars = word :: more) :
    camelChars raise chars = (if raise then raised word else word) ++ more.flatMap raised := by
  induction chars generalizing raise word more with
  | nil =>
    obtain ⟨rfl, rfl⟩ := List.cons.inj cut
    cases raise <;> rfl
  | cons c rest ih =>
    obtain ⟨next, others, behind⟩ := Text.exists_cutChars_eq_cons '-' rest
    rw [Text.cutChars, behind] at cut
    rw [camelChars]
    by_cases dash : c = '-'
    · -- the word before the dash is empty, and the next one is raised
      simp only [if_pos dash] at cut
      obtain ⟨rfl, rfl⟩ := List.cons.inj cut
      rw [if_pos dash, ih behind, if_pos rfl, List.flatMap_cons]
      cases raise <;> rfl
    · simp only [if_neg dash] at cut
      obtain ⟨rfl, rfl⟩ := List.cons.inj cut
      rw [if_neg dash, ih behind, if_neg Bool.false_ne_true]
      cases raise with
      | false => rfl
      | true => exact (List.append_assoc (Text.upper c) next (others.flatMap raised)).symm

/-- **What taking the dashes out does to a name.** No dash is left, so a second time changes
nothing, and neither does the first time just if there was none. It is done word by word, with
whatever upper case makes of the first character behind a dash; so a name can be cut before any
dash, of dashes in a row one counts, and at the end none does. -/
theorem camelCase_laws (name : String) :
    '-' ∉ (camelCase name).toList ∧ camelCase (camelCase name) = camelCase name ∧
    (camelCase name = name ↔ '-' ∉ name.toList) ∧
    (∃ word more, words name = word :: more ∧
      camelCase name = .ofList (word ++ more.flatMap raised)) ∧
    (∀ rest, camelCase (name ++ "-" ++ rest) = camelCase name ++ camelCase ("-" ++ rest)) ∧
    (∀ n rest, camelCase (name ++ dashes (n + 1) ++ rest) = camelCase (name ++ "-" ++ rest)) ∧
    ∀ n, camelCase (name ++ dashes n) = camelCase name := by
  have gone := dash_not_mem_camelCase name
  have apart (rest : String) : (name ++ "-" ++ rest).toList = name.toList ++ '-' :: rest.toList := by
    simp
  refine ⟨gone, camelCase_camelCase name, ⟨fun same => ?_, camelCase_of_not_mem⟩, ?_, ?_, ?_, ?_⟩
  · rwa [same] at gone
  · obtain ⟨word, more, cut⟩ := Text.exists_cutChars_eq_cons '-' name.toList
    refine ⟨word, more, cut, ?_⟩
    rw [camelCase, camelChars_words cut, if_neg Bool.false_ne_true]
  · intro rest
    have front : ("-" ++ rest).toList = '-' :: rest.toList := by
      simp
    rw [camelCase, camelCase, camelCase, apart, front, camelChars_append, camelChars, if_pos rfl,
      String.ofList_append]
  · intro n rest
    have row : (name ++ dashes (n + 1) ++ rest).toList =
        name.toList ++ '-' :: (List.replicate n '-' ++ rest.toList) := by
      simp [dashes, List.replicate_succ]
    rw [camelCase, camelCase, apart, row, camelChars_append, camelChars_append, camelChars_dashes]
  · intro n
    rw [camelCase, camelCase, String.toList_append, dashes, String.toList_ofList,
      camelChars_append_dashes]

/-- Upper case may be several characters or the same. -/
example : camelCase "end--of-ßline-1st-" = "endOfSSline1st" := by decide +kernel

end FormatDaemon.Flag
