import FormatDaemon.Text.Blank
import Mathlib.Data.List.Basic
import Mathlib.Data.List.Induction

/-!
# Blank ends, parts and lines

What trimming leaves of a text, and which of its lines is the first to say something. Both are
said without a reader: by what stands before, between and behind.

* `Trims`, `trims_iff`: **trimming takes blank ends away and nothing else**.
* `cutChars_eq_splitOn`: cutting at a character is the library's.
* `FirstSaid`: the first line that says something; `firstSaid_or_blank`: there is one in every
  text that is not blank.
* `find?_lines`: **a search for such a line in the lines of a text finds it**.
-/

namespace FormatDaemon.Text

/-! ### Blank ends -/

/-- What is left of a text without its blank ends. -/
structure Trims (text said : List Char) : Prop where
  ends : ∃ before after, text = before ++ said ++ after ∧
    (∀ c ∈ before, isBlank c = true) ∧ ∀ c ∈ after, isBlank c = true
  front : ∀ c ∈ said.head?, isBlank c = false
  back : ∀ c ∈ said.getLast?, isBlank c = false

/-- What is dropped from the front of a list is blank, and what follows is not. -/
theorem exists_dropWhile (cs : List Char) :
    ∃ before, cs = before ++ cs.dropWhile isBlank ∧ (∀ c ∈ before, isBlank c = true) ∧
      ∀ c ∈ (cs.dropWhile isBlank).head?, isBlank c = false := by
  refine ⟨cs.takeWhile isBlank, List.takeWhile_append_dropWhile.symm,
    fun _ hc => List.all_eq_true.1 List.all_takeWhile _ hc, fun c hc => ?_⟩
  have kept := List.head?_dropWhile_not isBlank cs
  rw [Option.mem_def.1 hc] at kept
  exact kept

/-- Blank text in front of text that begins with something is dropped. -/
theorem dropWhile_blank {before said : List Char} (blank : ∀ c ∈ before, isBlank c = true)
    (front : ∀ c ∈ said.head?, isBlank c = false) :
    (before ++ said).dropWhile isBlank = said := by
  rw [List.dropWhile_append_of_pos blank]
  cases said with
  | nil => rfl
  | cons c rest => rw [List.dropWhile_cons_of_neg (by rw [front c rfl]; exact Bool.false_ne_true)]

theorem trims_trimChars (cs : List Char) : Trims cs (trimChars cs) := by
  obtain ⟨before, front, hb, hf⟩ := exists_dropWhile cs
  obtain ⟨after, back, ha, hk⟩ := exists_dropWhile (cs.dropWhile isBlank).reverse
  have kept : cs.dropWhile isBlank = trimChars cs ++ after.reverse := by
    rw [trimChars, ← List.reverse_append, ← back, List.reverse_reverse]
  refine ⟨⟨before, after.reverse, ?_, hb, fun c hc => ha c (List.mem_reverse.1 hc)⟩, ?_, ?_⟩
  · rw [List.append_assoc, ← kept]
    exact front
  · intro c hc
    apply hf
    rw [kept, List.head?_append, Option.mem_def.1 hc]
    exact rfl
  · intro c hc
    apply hk
    rwa [trimChars, List.getLast?_reverse] at hc

/-- **Trimming takes blank ends away and nothing else.** -/
theorem trims_iff {text said : List Char} : Trims text said ↔ trimChars text = said := by
  constructor
  · rintro ⟨⟨before, after, rfl, hb, ha⟩, front, back⟩
    -- blank text only is trimmed to nothing, whatever it is cut into
    rcases List.eq_nil_or_concat said with rfl | ⟨rest, last, rfl⟩
    · have blank : ∀ c ∈ before ++ after, isBlank c = true := fun c hc =>
        (List.mem_append.1 hc).elim (hb c) (ha c)
      have dropped : (before ++ after ++ []).dropWhile isBlank = [] := dropWhile_blank blank nofun
      rw [List.append_nil] at dropped
      rw [List.append_nil, trimChars, dropped]
      rfl
    · rw [List.concat_eq_append] at front back ⊢
      have first : (before ++ (rest ++ [last] ++ after)).dropWhile isBlank =
          rest ++ [last] ++ after := by
        apply dropWhile_blank hb
        intro c hc
        apply front
        have some_text : rest ++ [last] ≠ [] := List.append_ne_nil_of_right_ne_nil rest nofun
        rwa [List.head?_append_of_ne_nil _ some_text] at hc
      have second : (after.reverse ++ (rest ++ [last]).reverse).dropWhile isBlank =
          (rest ++ [last]).reverse := by
        apply dropWhile_blank fun c hc => ha c (List.mem_reverse.1 hc)
        intro c hc
        apply back
        rwa [List.head?_reverse] at hc
      rw [trimChars, List.append_assoc, first, List.reverse_append, second, List.reverse_reverse]
  · rintro rfl
    exact trims_trimChars text

/-- Text without blanks has no blank ends. -/
theorem trimChars_eq_self {cs : List Char} (shown : ∀ c ∈ cs, isBlank c = false) :
    trimChars cs = cs :=
  trims_iff.1 ⟨⟨[], [], (List.append_nil cs).symm, nofun, nofun⟩,
    fun _ hc => shown _ (List.mem_of_head? hc), fun _ hc => shown _ (List.mem_of_getLast? hc)⟩

theorem trims_trim (text : String) : Trims text.toList (trim text).toList := by
  rw [trim, String.toList_ofList]
  exact trims_trimChars text.toList

theorem trim_eq {text said : String} (h : Trims text.toList said.toList) : trim text = said := by
  rw [trim, trims_iff.1 h, String.ofList_toList]

/-- Nothing is left of blank text only. -/
theorem trim_eq_empty_iff {text : String} :
    trim text = "" ↔ ∀ c ∈ text.toList, isBlank c = true := by
  constructor
  · intro empty
    obtain ⟨before, after, whole, hb, ha⟩ := (trims_trim text).ends
    rw [empty, String.toList_empty, List.append_nil] at whole
    intro c hc
    rw [whole] at hc
    exact (List.mem_append.1 hc).elim (hb c) (ha c)
  · intro blank
    exact trim_eq ⟨⟨text.toList, [], by simp, blank, nofun⟩, nofun, nofun⟩

theorem isBlank_of_isAlphanum {c : Char} (h : c.isAlphanum = true) : isBlank c = false := by
  have kinds : (c.isUpper || c.isLower || c.isDigit) = true := h
  rw [Bool.or_eq_true, Bool.or_eq_true] at kinds
  have upper (h : c.isUpper = true) : 65 ≤ c.toNat ∧ c.toNat ≤ 90 := of_decide_eq_true h
  have lower (h : c.isLower = true) : 97 ≤ c.toNat ∧ c.toNat ≤ 122 :=
    ((Bool.and_eq_true ..).mp h).imp of_decide_eq_true of_decide_eq_true
  have digit : c.isDigit = true → 48 ≤ c.toNat ∧ c.toNat ≤ 57 := Char.isDigit_iff_toNat.1
  have ranges : ((65 ≤ c.toNat ∧ c.toNat ≤ 90) ∨ 97 ≤ c.toNat ∧ c.toNat ≤ 122) ∨
      48 ≤ c.toNat ∧ c.toNat ≤ 57 := kinds.imp (Or.imp upper lower) digit
  simp only [isBlank, Bool.or_eq_false_iff, Bool.and_eq_false_iff, decide_eq_false_iff_not]
  omega

/-! ### Parts and lines -/

/-- Cutting at a character is the library's. -/
theorem cutChars_eq_splitOn (separator : Char) (cs : List Char) :
    cutChars separator cs = cs.splitOn separator := by
  induction cs with
  | nil => rfl
  | cons c rest ih =>
    obtain ⟨part, more, hp⟩ := List.exists_cons_of_ne_nil (List.splitOn_ne_nil separator rest)
    rw [List.splitOn_cons_eq_if_modifyHead, cutChars, ih, hp]
    by_cases hc : c = separator
    · simp only [hc, beq_self_eq_true, if_true]
    · simp only [hc, beq_iff_eq, if_false, List.modifyHead_cons]

/-- A text has a first part. -/
theorem exists_cutChars_eq_cons (separator : Char) (cs : List Char) :
    ∃ part more, cutChars separator cs = part :: more := by
  rw [cutChars_eq_splitOn]
  exact List.exists_cons_of_ne_nil (List.splitOn_ne_nil separator cs)

/-- The parts of a text consist of its characters. -/
theorem mem_of_mem_cutChars {separator : Char} {cs part : List Char}
    (h : part ∈ cutChars separator cs) {c : Char} (hc : c ∈ part) : c ∈ cs := by
  induction cs generalizing part with
  | nil =>
    rw [cutChars, List.mem_singleton] at h
    rwa [h] at hc
  | cons d rest ih =>
    obtain ⟨head, more, hr⟩ := exists_cutChars_eq_cons separator rest
    rw [hr] at ih
    rw [cutChars, hr] at h
    simp only at h
    split at h
    · rcases List.mem_cons.1 h with rfl | h
      · exact absurd hc List.not_mem_nil
      · exact List.mem_cons_of_mem d (ih h hc)
    · rcases List.mem_cons.1 h with rfl | h
      · rcases List.mem_cons.1 hc with rfl | hc
        · exact List.mem_cons_self
        · exact List.mem_cons_of_mem d (ih List.mem_cons_self hc)
      · exact List.mem_cons_of_mem d (ih (List.mem_cons_of_mem head h) hc)

/-- What is put together of parts consists of their characters and of the separator. -/
theorem mem_intercalate {separator : List Char} {parts : List (List Char)} {c : Char}
    (h : c ∈ separator.intercalate parts) : c ∈ separator ∨ ∃ p ∈ parts, c ∈ p := by
  induction parts with
  | nil => cases h
  | cons p rest ih =>
    cases rest with
    | nil =>
      rw [List.intercalate_singleton] at h
      exact .inr ⟨p, List.mem_cons_self, h⟩
    | cons next more =>
      rw [List.intercalate_cons_cons, List.mem_append, List.mem_append] at h
      rcases h with (first | between) | later
      · exact .inr ⟨p, List.mem_cons_self, first⟩
      · exact .inl between
      · obtain between | ⟨q, hq, hc⟩ := ih later
        · exact .inl between
        · exact .inr ⟨q, List.mem_cons_of_mem p hq, hc⟩

/-- The lines of a text with a newline are those before it and those behind it. -/
theorem lines_append_newline (before after : List Char) :
    lines (.ofList (before ++ '\n' :: after)) =
      (cutChars '\n' before).map (String.ofList ∘ withoutReturn) ++ lines (.ofList after) := by
  have behind : cutChars '\n' after ≠ [] := by
    obtain ⟨part, more, hp⟩ := exists_cutChars_eq_cons '\n' after
    exact List.ne_nil_of_mem (hp ▸ List.mem_cons_self)
  have parts : cutChars '\n' (before ++ '\n' :: after) =
      cutChars '\n' before ++ cutChars '\n' after := by
    simp only [cutChars_eq_splitOn]
    exact List.splitOn_append_cons_self before after
  simp only [lines, String.toList_ofList, parts, List.getLast?_append_of_ne_nil _ behind,
    List.dropLast_append_of_ne_nil behind, List.map_append]
  split
  · rfl
  · rw [List.append_assoc]

theorem lines_of_not_mem {line : List Char} (some_line : line ≠ []) (h : '\n' ∉ line) :
    lines (.ofList line) = [.ofList line] := by
  have parts : cutChars '\n' line = [line] := by
    rw [cutChars_eq_splitOn]
    exact List.splitOn_eq_singleton h
  have shown : line.isEmpty = false := List.isEmpty_eq_false_iff.2 some_line
  simp only [lines, String.toList_ofList, parts, List.getLast?_singleton, Option.getD_some, shown,
    List.dropLast_singleton, List.map_nil, List.nil_append]
  rfl

/-- A carriage return at the end of a line is blank and goes with its blank end. -/
theorem trim_withoutReturn (line : List Char) :
    trim (.ofList (withoutReturn line)) = trim (.ofList line) := by
  unfold withoutReturn
  split
  next ends =>
    obtain ⟨rest, rfl⟩ : ∃ rest, line = rest ++ ['\r'] :=
      ⟨line.dropLast, (List.dropLast_append_getLast? '\r' ends).symm⟩
    obtain ⟨⟨before, after, whole, hb, ha⟩, front, back⟩ := trims_trimChars rest
    rw [List.dropLast_concat]
    simp only [trim, String.toList_ofList]
    congr 1
    symm
    rw [← trims_iff]
    refine ⟨⟨before, after ++ ['\r'], ?_, hb, ?_⟩, front, back⟩
    · rw [← List.append_assoc, ← whole]
    · intro c hc
      rcases List.mem_append.1 hc with hc | hc
      · exact ha c hc
      · rw [List.mem_singleton.1 hc]
        decide
  next => rfl

/-! ### The first line that says something -/

/-- The first line of a text that says something: what is before it is blank and ends with a
newline, and behind it is the end of the text or another newline. -/
structure FirstSaid (text line : List Char) : Prop where
  alone : '\n' ∉ line
  speaks : ∃ c ∈ line, isBlank c = false
  place : ∃ before after, text = before ++ (line ++ after) ∧
    (∀ c ∈ before, isBlank c = true) ∧ (before = [] ∨ ∃ more, before = more ++ ['\n']) ∧
    (after = [] ∨ ∃ more, after = '\n' :: more)

theorem exists_last_cut (separator : Char) (cs : List Char) :
    ∃ before lead, cs = before ++ lead ∧ separator ∉ lead ∧
      (before = [] ∨ ∃ more, before = more ++ [separator]) := by
  induction cs using List.reverseRecOn with
  | nil => exact ⟨[], [], rfl, List.not_mem_nil, .inl rfl⟩
  | append_singleton rest c ih =>
    by_cases hc : c = separator
    · exact ⟨rest ++ [c], [], by rw [List.append_nil], List.not_mem_nil, .inr ⟨rest, by rw [hc]⟩⟩
    · obtain ⟨before, lead, rfl, hl, hb⟩ := ih
      refine ⟨before, lead ++ [c], List.append_assoc .., ?_, hb⟩
      intro hm
      rcases List.mem_append.1 hm with hm | hm
      · exact hl hm
      · exact hc (List.mem_singleton.1 hm).symm

theorem exists_first_cut (separator : Char) (cs : List Char) :
    ∃ lead after, cs = lead ++ after ∧ separator ∉ lead ∧
      (after = [] ∨ ∃ more, after = separator :: more) := by
  induction cs with
  | nil => exact ⟨[], [], rfl, List.not_mem_nil, .inl rfl⟩
  | cons c rest ih =>
    by_cases hc : c = separator
    · exact ⟨[], c :: rest, rfl, List.not_mem_nil, .inr ⟨rest, by rw [hc]⟩⟩
    · obtain ⟨lead, after, rfl, hl, ha⟩ := ih
      refine ⟨c :: lead, after, rfl, ?_, ha⟩
      intro hm
      rcases List.mem_cons.1 hm with hm | hm
      · exact hc hm.symm
      · exact hl hm

/-- **Every text is blank or has a first line that says something.** -/
theorem firstSaid_or_blank (text : List Char) :
    (∃ line, FirstSaid text line) ∨ ∀ c ∈ text, isBlank c = true := by
  obtain ⟨blank, whole, hb, hk⟩ := exists_dropWhile text
  cases hr : text.dropWhile isBlank with
  | nil =>
    rw [hr, List.append_nil] at whole
    exact .inr (whole ▸ hb)
  | cons c rest =>
    rw [hr] at whole hk
    have speaks : isBlank c = false := hk c rfl
    -- the line begins behind the last newline of the blank text and goes on to the next one
    obtain ⟨before, lead, rfl, hl, ends⟩ := exists_last_cut '\n' blank
    obtain ⟨more, after, rfl, hm, next⟩ := exists_first_cut '\n' rest
    refine .inl ⟨lead ++ c :: more, ?_, ⟨c, by simp, speaks⟩, before, after, ?_, ?_, ends, next⟩
    · intro newline
      rcases List.mem_append.1 newline with newline | newline
      · exact hl newline
      rcases List.mem_cons.1 newline with rfl | newline
      · exact absurd speaks (by decide)
      · exact hm newline
    · rw [whole]
      simp only [List.append_assoc, List.cons_append]
    · exact fun d hd => hb d (List.mem_append_left lead hd)

/-- What is left of a line that says something. -/
theorem trim_line_ne_empty {line : List Char} (speaks : ∃ c ∈ line, isBlank c = false) :
    trim (.ofList line) ≠ "" := by
  obtain ⟨c, hc, said⟩ := speaks
  rw [ne_eq, trim_eq_empty_iff, String.toList_ofList]
  intro blank
  rw [blank c hc] at said
  cases said

/-- In front of a text that begins with a line that says something, that line is found. -/
theorem find?_lines_line {line after : List Char} (alone : '\n' ∉ line)
    (speaks : ∃ c ∈ line, isBlank c = false) (next : after = [] ∨ ∃ more, after = '\n' :: more) :
    ((lines (.ofList (line ++ after))).map trim).find? (· != "") = some (trim (.ofList line)) := by
  have said : (trim (.ofList line) != "") = true := bne_iff_ne.2 (trim_line_ne_empty speaks)
  obtain rfl | ⟨more, rfl⟩ := next
  · obtain ⟨c, hc, -⟩ := speaks
    rw [List.append_nil, lines_of_not_mem (List.ne_nil_of_mem hc) alone, List.map_singleton,
      List.find?_singleton, if_pos said]
  · have parts : cutChars '\n' line = [line] := by
      rw [cutChars_eq_splitOn]
      exact List.splitOn_eq_singleton alone
    rw [lines_append_newline, parts, List.map_singleton, List.singleton_append, List.map_cons,
      Function.comp_apply, trim_withoutReturn]
    exact List.find?_cons_of_pos said

/-- Blank lines are passed over. -/
theorem find?_lines_blank {blank rest : List Char} (h : ∀ c ∈ blank, isBlank c = true)
    (ends : blank = [] ∨ ∃ more, blank = more ++ ['\n']) :
    ((lines (.ofList (blank ++ rest))).map trim).find? (· != "") =
      ((lines (.ofList rest)).map trim).find? (· != "") := by
  obtain rfl | ⟨more, rfl⟩ := ends
  · rw [List.nil_append]
  · rw [List.append_assoc, List.singleton_append, lines_append_newline, List.map_append,
      List.find?_append]
    have silent : (((cutChars '\n' more).map (String.ofList ∘ withoutReturn)).map trim).find?
        (· != "") = none := by
      rw [List.find?_eq_none]
      simp only [List.map_map, List.mem_map, Function.comp_apply]
      rintro _ ⟨part, hp, rfl⟩
      rw [trim_withoutReturn, bne_iff_ne, not_not, trim_eq_empty_iff, String.toList_ofList]
      intro c hc
      exact h c (List.mem_append_left _ (mem_of_mem_cutChars hp hc))
    rw [silent, Option.none_or]

/-- **A search for the first line that says something finds it.** -/
theorem find?_lines {text line : List Char} (h : FirstSaid text line) :
    ((lines (.ofList text)).map trim).find? (· != "") = some (trim (.ofList line)) := by
  obtain ⟨alone, speaks, before, after, rfl, blank, ends, next⟩ := h
  rw [find?_lines_blank blank ends, find?_lines_line alone speaks next]

/-- In blank text nothing is found. -/
theorem find?_lines_eq_none {text : List Char} (blank : ∀ c ∈ text, isBlank c = true) :
    ((lines (.ofList text)).map trim).find? (· != "") = none := by
  obtain ⟨before, lead, rfl, hl, ends⟩ := exists_last_cut '\n' text
  rw [find?_lines_blank (fun c hc => blank c (List.mem_append_left lead hc)) ends]
  cases lead with
  | nil => rfl
  | cons c rest =>
    have empty : trim (.ofList (c :: rest)) = "" := by
      rw [trim_eq_empty_iff, String.toList_ofList]
      exact fun d hd => blank d (List.mem_append_right before hd)
    rw [lines_of_not_mem (List.cons_ne_nil c rest) hl, List.map_singleton, empty]
    rfl

end FormatDaemon.Text
