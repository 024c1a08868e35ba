import FormatDaemon.Log.Filter
import FormatDaemon.Proofs.BlankText

/-!
# Directives that name levels

The directives that users write name a level, or the path of a module and its level.

* `Identifier`, `ModulePath`: the paths of modules.
* `Spells`: what such a directive asks for.
* `parse_spells`: **a directive is read as what it spells**, byte by byte.
* `Filter.parse_spells`: a filter of such directives is read, with all of them.
-/

namespace FormatDaemon

namespace Log

open Text (isBlank isBlank_of_isAlphanum)

/-! ### Directives -/

/-- A character of an identifier: of ASCII a letter, a digit or an underscore. -/
def IdentifierChar (c : Char) : Prop :=
  c = '_' ∨ c.isAlphanum = true ∨ 128 ≤ c.toNat ∧ isBlank c = false

/-- An identifier, which begins with an underscore, a letter or a number. -/
structure Identifier (cs : List Char) : Prop where
  first : ∃ c ∈ cs.head?, c = '_' ∨ Text.isAlphanumeric c = true
  chars : ∀ c ∈ cs, IdentifierChar c

/-- The path of a module: identifiers with two colons between them. -/
def ModulePath (path : List Char) : Prop :=
  ∃ segments : List (List Char), segments ≠ [] ∧ (∀ s ∈ segments, Identifier s) ∧
    path = [':', ':'].intercalate segments

/-- The word for a level. -/
def levelWord : Level → List Char
  | .error => ['e', 'r', 'r', 'o', 'r']
  | .warn => ['w', 'a', 'r', 'n']
  | .info => ['i', 'n', 'f', 'o']
  | .debug => ['d', 'e', 'b', 'u', 'g']
  | .trace => ['t', 'r', 'a', 'c', 'e']

/-- What a directive asks for: a level everywhere, or in a module. -/
inductive Spells : List Char → Directive → Prop
  | everywhere (level : Level) : Spells (levelWord level) { verbosity := some level }
  | within {path : List Char} (named : ModulePath path) (level : Level) :
    Spells (path ++ '=' :: levelWord level) { target? := some path, verbosity := some level }

/-! ### Characters -/

theorem IdentifierChar.shown {c : Char} (h : IdentifierChar c) : isBlank c = false := by
  rcases h with rfl | h | ⟨-, h⟩
  · decide
  · exact isBlank_of_isAlphanum h
  · exact h

/-- Punctuation is no character of an identifier, but for the underscore. -/
theorem IdentifierChar.ne {c m : Char} (h : IdentifierChar c) (line : m ≠ '_')
    (sign : m.isAlphanum = false) (ascii : m.toNat < 128) : c ≠ m := by
  rintro rfl
  rcases h with h | h | ⟨h, -⟩
  · exact line h
  · rw [sign] at h
    cases h
  · omega

/-- A path consists of the characters of identifiers and of colons. -/
theorem ModulePath.chars {path : List Char} (h : ModulePath path) :
    ∀ c ∈ path, c = ':' ∨ IdentifierChar c := by
  obtain ⟨segments, -, named, rfl⟩ := h
  intro c hc
  obtain between | ⟨s, hs, hc⟩ := Text.mem_intercalate hc
  · simp only [List.mem_cons, List.not_mem_nil, or_false, or_self] at between
    exact .inl between
  · exact .inr ((named s hs).chars c hc)

/-- Punctuation is no part of a path, but for underscores and colons. -/
theorem ModulePath.ne {path : List Char} (h : ModulePath path) {m : Char} (colon : m ≠ ':')
    (line : m ≠ '_') (sign : m.isAlphanum = false) (ascii : m.toNat < 128) :
    ∀ c ∈ path, c ≠ m := by
  intro c hc
  rcases h.chars c hc with rfl | identifier
  · exact colon.symm
  · exact identifier.ne line sign ascii

/-- A path begins like a directive. -/
theorem ModulePath.first {path : List Char} (h : ModulePath path) :
    ∃ c rest, path = c :: rest ∧ startsDirective c = true := by
  obtain ⟨segments, some_segment, named, rfl⟩ := h
  obtain ⟨s, rest, rfl⟩ := List.exists_cons_of_ne_nil some_segment
  obtain ⟨c, hc, start⟩ := (named s List.mem_cons_self).first
  obtain ⟨more, rfl⟩ := List.head?_eq_some_iff.1 (Option.mem_def.1 hc)
  refine ⟨c, [':', ':'].intercalate (more :: rest), List.intercalate_cons_cons_left, ?_⟩
  rcases start with rfl | start
  · rfl
  · rw [startsDirective, start, Bool.or_true]

theorem identifierChar_of_mem_levelWord {level : Level} {c : Char} (hc : c ∈ levelWord level) :
    IdentifierChar c := by
  have letters : (levelWord level).all Char.isAlphanum = true := by
    cases level <;> decide
  exact .inr (.inl (List.all_eq_true.1 letters c hc))

/-- A directive consists of the characters of identifiers, colons, and an equals sign. -/
theorem Spells.chars {text : List Char} {d : Directive} (h : Spells text d) :
    ∀ c ∈ text, c = '=' ∨ c = ':' ∨ IdentifierChar c := by
  intro c hc
  cases h with
  | everywhere level => exact .inr (.inr (identifierChar_of_mem_levelWord hc))
  | within named level =>
    rcases List.mem_append.1 hc with hc | hc
    · exact .inr (named.chars c hc)
    rcases List.mem_cons.1 hc with equals | hc
    · exact .inl equals
    · exact .inr (.inr (identifierChar_of_mem_levelWord hc))

theorem Spells.shown {text : List Char} {d : Directive} (h : Spells text d) :
    ∀ c ∈ text, isBlank c = false := by
  intro c hc
  rcases h.chars c hc with rfl | rfl | identifier
  · decide
  · decide
  · exact identifier.shown

/-- All other punctuation is no part of a directive. -/
theorem Spells.ne {text : List Char} {d : Directive} (h : Spells text d) {m : Char}
    (equals : m ≠ '=') (colon : m ≠ ':') (line : m ≠ '_') (sign : m.isAlphanum = false)
    (ascii : m.toNat < 128) : ∀ c ∈ text, c ≠ m := by
  intro c hc
  rcases h.chars c hc with rfl | rfl | identifier
  · exact equals.symm
  · exact colon.symm
  · exact identifier.ne line sign ascii

theorem Spells.ne_nil {text : List Char} {d : Directive} (h : Spells text d) : text ≠ [] := by
  cases h with
  | everywhere level => cases level <;> exact List.cons_ne_nil _ _
  | within named level => exact List.append_ne_nil_of_right_ne_nil _ (List.cons_ne_nil _ _)

/-! ### Bytes -/

theorem foldl_utf8Size (cs : List Char) (n : Nat) :
    cs.foldl (fun n c => n + c.utf8Size) n = n + byteLength cs := by
  unfold byteLength
  induction cs generalizing n with
  | nil => rfl
  | cons c rest ih =>
    rw [List.foldl_cons, List.foldl_cons, ih, ih (0 + c.utf8Size)]
    omega

@[simp] theorem byteLength_cons (c : Char) (cs : List Char) :
    byteLength (c :: cs) = c.utf8Size + byteLength cs := by
  rw [byteLength, List.foldl_cons, foldl_utf8Size, Nat.zero_add]

@[simp] theorem byteLength_append (front back : List Char) :
    byteLength (front ++ back) = byteLength front + byteLength back := by
  rw [byteLength, List.foldl_append, foldl_utf8Size]
  rfl

theorem behind_zero (cs : List Char) : behind cs 0 = cs := by
  cases cs <;> rfl

/-- What is behind the bytes of the front is the back. -/
theorem behind_append (front back : List Char) :
    behind (front ++ back) (byteLength front) = back := by
  induction front with
  | nil => exact behind_zero back
  | cons c rest ih =>
    have wide := c.utf8Size_pos
    rw [List.cons_append, behind, byteLength_cons, if_neg (by omega), Nat.add_sub_cancel_left, ih]

/-- What is before the bytes of the front is the front. -/
theorem before_append (front back : List Char) :
    before (front ++ back) (byteLength front) = front := by
  induction front with
  | nil => cases back <;> rfl
  | cons c rest ih =>
    have wide := c.utf8Size_pos
    rw [List.cons_append, before, byteLength_cons, if_neg (by omega), Nat.add_sub_cancel_left, ih]

/-! ### Reading -/

variable {text cs rest : List Char} {d : Directive} {start i : Nat}

/-- A directive begins with a level or a target. -/
theorem read_start {c : Char} (starts : startsDirective c = true) (bracket : c ≠ '[') :
    d.read text i .start (c :: rest) = d.read text (i + c.utf8Size) (.levelOrTarget i) rest := by
  have step : d.step text i c .start = .ok (d, .levelOrTarget i) := by
    rw [Directive.step, if_neg bracket, if_pos starts]
  rw [Directive.read, step]
  rfl

/-- Up to an equals sign or a bracket, a level or target goes on. -/
theorem read_levelOrTarget (plain : ∀ c ∈ cs, c ≠ '=' ∧ c ≠ '[') :
    d.read text i (.levelOrTarget start) (cs ++ rest) =
      d.read text (i + byteLength cs) (.levelOrTarget start) rest := by
  induction cs generalizing i with
  | nil => rfl
  | cons c more ih =>
    obtain ⟨equals, bracket⟩ := plain c List.mem_cons_self
    have step : d.step text i c (.levelOrTarget start) = .ok (d, .levelOrTarget start) := by
      rw [Directive.step, if_neg equals, if_neg bracket]
    rw [List.cons_append, Directive.read, step]
    show d.read text (i + c.utf8Size) (.levelOrTarget start) (more ++ rest) = _
    rw [ih fun c hc => plain c (List.mem_cons_of_mem _ hc), byteLength_cons, Nat.add_assoc]

/-- A level goes on to the end. -/
theorem read_level : d.read text i (.level start) cs = d.finish text (.level start) := by
  induction cs generalizing i with
  | nil => rfl
  | cons c more ih => exact ih

/-- A target and what follows its equals sign are read, if they are cut out of the text. -/
theorem read_target {path word : List Char} {c : Char} {more : List Char} (head : path = c :: more)
    (starts : startsDirective c = true) (plain : ∀ c ∈ path, c ≠ '=' ∧ c ≠ '[')
    (target : slice text 0 (byteLength path) = path)
    (value : behind text (byteLength path + 1) = word) :
    Directive.read text {} 0 .start (path ++ '=' :: word) =
      Directive.withLevel { target? := some path } word := by
  have size : 0 + c.utf8Size + byteLength more = byteLength path := by
    rw [head, byteLength_cons, Nat.zero_add]
  have signed : Directive.step text {} (byteLength path) '=' (.levelOrTarget 0) =
      .ok ({ target? := some path }, .level (byteLength path + 1)) := by
    rw [Directive.step, if_pos rfl, target]
  have more_plain : ∀ d ∈ more, d ≠ '=' ∧ d ≠ '[' := fun d hd =>
    plain d (head ▸ List.mem_cons_of_mem c hd)
  calc Directive.read text {} 0 .start (path ++ '=' :: word)
      = Directive.read text {} (0 + c.utf8Size) (.levelOrTarget 0) (more ++ '=' :: word) := by
        rw [head, List.cons_append]
        exact read_start starts (plain c (head ▸ List.mem_cons_self)).2
    _ = Directive.read text {} (byteLength path) (.levelOrTarget 0) ('=' :: word) := by
        rw [read_levelOrTarget more_plain, size]
    _ = Directive.read text { target? := some path } (byteLength path + '='.utf8Size)
          (.level (byteLength path + 1)) word := by
        rw [Directive.read, signed]
        rfl
    _ = Directive.withLevel { target? := some path } word := by
        rw [read_level, Directive.finish, value]

theorem parse?_levelWord (level : Level) :
    Verbosity.parse? (levelWord level) = some (some level) := by
  cases level <;> decide +kernel

/-- **A directive is read as what it spells.** -/
theorem parse_spells {text : List Char} {d : Directive} (h : Spells text d) :
    Directive.parse text = .ok d := by
  rw [Directive.parse, Text.trimChars_eq_self h.shown]
  cases h with
  | everywhere level => cases level <;> decide +kernel
  | @within path named level =>
    obtain ⟨c, more, head, starts⟩ := named.first
    have plain : ∀ c ∈ path, c ≠ '=' ∧ c ≠ '[' := fun c hc =>
      ⟨named.ne (by decide) (by decide) (by decide) (by decide) c hc,
        named.ne (by decide) (by decide) (by decide) (by decide) c hc⟩
    have target : slice (path ++ '=' :: levelWord level) 0 (byteLength path) = path := by
      rw [slice, before_append, behind_zero]
    -- the level begins behind the equals sign, which is one byte wide
    have value : behind (path ++ '=' :: levelWord level) (byteLength path + 1) =
        levelWord level := by
      have whole : path ++ '=' :: levelWord level = path ++ ['='] ++ levelWord level := by
        rw [List.append_assoc, List.singleton_append]
      have signed : byteLength path + 1 = byteLength (path ++ ['=']) := by
        rw [byteLength_append]
        rfl
      rw [whole, signed, behind_append]
    rw [read_target head starts plain target value, Directive.withLevel, parse?_levelWord]
    cases level <;> rfl

/-! ### Filters -/

theorem exists_spells {texts : List (List Char)} {ds : List Directive}
    (h : List.Forall₂ Spells texts ds) {t : List Char} (ht : t ∈ texts) : ∃ d, Spells t d := by
  induction h with
  | nil => cases ht
  | cons first rest ih =>
    rcases List.mem_cons.1 ht with rfl | ht
    · exact ⟨_, first⟩
    · exact ih ht

theorem mapM_parse {texts : List (List Char)} {ds : List Directive}
    (h : List.Forall₂ Spells texts ds) : texts.mapM Directive.parse = .ok ds := by
  induction h with
  | nil => rfl
  | cons first rest ih =>
    rw [List.mapM_cons, parse_spells first, ih]
    rfl

/-- **A filter of directives, separated by commas, is read with all of them.** -/
theorem Filter.parse_spells {texts : List (List Char)} {ds : List Directive}
    (some_text : texts ≠ []) (h : List.Forall₂ Spells texts ds) :
    Filter.parse (.ofList ([','].intercalate texts)) = .ok (.ofDirectives ds) := by
  have cut : Text.cutChars ',' ([','].intercalate texts) = texts := by
    rw [Text.cutChars_eq_splitOn]
    refine List.splitOn_intercalate ',' (fun t ht comma => ?_) some_text
    obtain ⟨d, hd⟩ := exists_spells h ht
    exact hd.ne (by decide) (by decide) (by decide) (by decide) (by decide) ',' comma rfl
  have kept : texts.filter (!·.isEmpty) = texts := by
    rw [List.filter_eq_self]
    intro t ht
    obtain ⟨d, hd⟩ := exists_spells h ht
    rw [List.isEmpty_eq_false_iff.2 hd.ne_nil]
    rfl
  rw [Filter.parse, String.toList_ofList, cut, kept, mapM_parse h]
  rfl

end Log

end FormatDaemon
