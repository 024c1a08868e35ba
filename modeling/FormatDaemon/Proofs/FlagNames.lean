import FormatDaemon.Flag.Key

/-!
# Option names without dashes

The letter behind a dash is put in upper case, and the dash goes. What upper case makes of a
character lies among the letters or beyond, so no dash and no other punctuation comes in with
it, and a name that has lost its dashes stays as it is.

* `Text.eq_or_lt_of_mem_upper`: what upper case makes of a character.
* `mem_camelCase`: **what the characters of a name without dashes are**.
* `camelCase_of_not_mem`, `camelCase_camelCase`: **only dashes make a difference**.
-/

namespace FormatDaemon

/-! ### Upper case -/

namespace Text

/-- The number of a character made from a number, if there is such a character. -/
theorem toNat_ofNat {n : Nat} (h : n.isValidChar) : (Char.ofNat n).toNat = n := by
  unfold Char.ofNat
  rw [dif_pos h]
  rfl

/-- Every run moves its characters past the punctuation in front of the letters, and to
characters. -/
theorem shifts_far : ∀ run ∈ shifts, 0x40 < run.first + run.distance ∧
    (run.last + run.distance < 0xD800 ∨
      0xDFFF < run.first + run.distance ∧ run.last + run.distance < 0x110000) := by
  decide +kernel

theorem expansions_far : ∀ e ∈ expansions, ∀ code ∈ e.2, 0x40 < code ∧ code < 0xD800 := by
  decide +kernel

/-- The place a run moves a character to. -/
theorem CaseRun.far_of_has {run : CaseRun} (hr : run ∈ shifts) {n : Nat} (hn : run.has n = true) :
    0x40 < (n + run.distance).toNat ∧ (n + run.distance).toNat.isValidChar := by
  obtain ⟨low, high⟩ := shifts_far run hr
  have within : run.first ≤ n ∧ n ≤ run.last := by
    unfold has at hn
    simp only [Bool.and_eq_true, decide_eq_true_eq] at hn
    exact hn.1
  unfold Nat.isValidChar
  omega

/-- The basic letters move to the capitals. -/
theorem eq_or_lt_toUpper (c : Char) : c.toUpper = c ∨ 0x40 < c.toUpper.toNat := by
  unfold Char.toUpper
  split
  case isFalse => exact .inl rfl
  case isTrue h =>
    have distance : ('A'.val - 'a'.val).toNat = 2 ^ 32 - 32 := by decide
    have low : 97 ≤ c.val.toNat := UInt32.le_iff_toNat_le.1 h.1
    have high : c.val.toNat ≤ 122 := UInt32.le_iff_toNat_le.1 h.2
    refine .inr ?_
    show 0x40 < (c.val + ('A'.val - 'a'.val)).toNat
    rw [UInt32.toNat_add, distance]
    omega

/-- **Upper case leaves a character alone or makes characters behind the punctuation of it.** -/
theorem eq_or_lt_of_mem_upper {c d : Char} (h : d ∈ upper c) : d = c ∨ 0x40 < d.toNat := by
  unfold upper at h
  split at h
  case isTrue =>
    rw [List.mem_singleton.1 h]
    exact eq_or_lt_toUpper c
  case isFalse =>
    split at h
    case h_1 codes hc =>
      obtain ⟨code, hm, rfl⟩ := List.mem_map.1 h
      obtain ⟨before, after, he, -⟩ := List.lookup_eq_some_iff.1 hc
      have entry : (c.toNat, codes) ∈ expansions := by
        rw [he]
        exact List.mem_append_right _ List.mem_cons_self
      obtain ⟨far, valid⟩ := expansions_far _ entry code hm
      rw [toNat_ofNat (.inl valid)]
      exact .inr far
    case h_2 =>
      split at h
      case h_1 run hr =>
        have taken := List.find?_some hr
        obtain ⟨far, valid⟩ := CaseRun.far_of_has (List.mem_of_find?_eq_some hr) taken
        rw [List.mem_singleton.1 h, toNat_ofNat valid]
        exact .inr far
      case h_2 => exact .inl (List.mem_singleton.1 h)

end Text

/-! ### Dashes -/

namespace Flag

/-- What the characters of a name without dashes are: characters of the name but dashes, or
such as upper case makes. -/
theorem mem_camelChars {raise : Bool} {chars : List Char} {c : Char}
    (h : c ∈ camelChars raise chars) : c ∈ chars ∧ c ≠ '-' ∨ 0x40 < c.toNat := by
  -- in either state, since a dash changes it for the rest
  induction chars generalizing raise with
  | nil => cases h
  | cons d rest ih =>
    have behind : c ∈ rest ∧ c ≠ '-' ∨ 0x40 < c.toNat → c ∈ d :: rest ∧ c ≠ '-' ∨ 0x40 < c.toNat :=
      Or.imp_left (And.imp_left (List.mem_cons_of_mem d))
    unfold camelChars at h
    split at h
    case isTrue => exact behind (ih h)
    case isFalse hd =>
      split at h
      case isTrue =>
        rcases List.mem_append.1 h with h | h
        · rcases Text.eq_or_lt_of_mem_upper h with rfl | far
          · exact .inl ⟨List.mem_cons_self, hd⟩
          · exact .inr far
        · exact behind (ih h)
      case isFalse =>
        rcases List.mem_cons.1 h with rfl | h
        · exact .inl ⟨List.mem_cons_self, hd⟩
        · exact behind (ih h)

/-- **What the characters of a name without dashes are.** -/
theorem mem_camelCase {name : String} {c : Char} (h : c ∈ (camelCase name).toList) :
    c ∈ name.toList ∧ c ≠ '-' ∨ 0x40 < c.toNat := by
  rw [camelCase, String.toList_ofList] at h
  exact mem_camelChars h

theorem dash_not_mem_camelCase (name : String) : '-' ∉ (camelCase name).toList := by
  intro h
  rcases mem_camelCase h with ⟨-, other⟩ | far
  · exact other rfl
  · exact absurd far (by decide)

/-- No equals sign comes into a name. -/
theorem equals_not_mem_camelCase {name : String} (h : '=' ∉ name.toList) :
    '=' ∉ (camelCase name).toList := by
  intro hm
  rcases mem_camelCase hm with ⟨there, -⟩ | far
  · exact h there
  · exact absurd far (by decide)

theorem camelChars_of_not_mem {chars : List Char} (h : '-' ∉ chars) :
    camelChars false chars = chars := by
  induction chars with
  | nil => rfl
  | cons c rest ih =>
    rw [List.mem_cons, not_or] at h
    rw [camelChars, if_neg (Ne.symm h.1), ih h.2]
    rfl

/-- **A name without dashes stays as it is.** -/
theorem camelCase_of_not_mem {name : String} (h : '-' ∉ name.toList) : camelCase name = name := by
  rw [camelCase, camelChars_of_not_mem h, String.ofList_toList]

/-- **A name loses its dashes once.** -/
theorem camelCase_camelCase (name : String) : camelCase (camelCase name) = camelCase name :=
  camelCase_of_not_mem (dash_not_mem_camelCase name)

end Flag

end FormatDaemon
