import FormatDaemon.Json.Reader

/-!
# Integers between reading and printing

* `Number.Exact`: the numbers that JSON keeps exactly, the integers of 64 bits.
* `numeralNode_text`: **such a number is read as it was printed**.
-/

namespace FormatDaemon

/-- Numbers that are kept exactly: integers of 64 bits, with or without a sign. -/
def Number.Exact : Number → Prop
  | .integer value => -(Limit.int64 : Int) ≤ value ∧ value < Limit.nat64
  | .real _ => False

namespace Json

/-! ### Digits -/

theorem toDigits_eq_cons (n : Nat) : ∃ d more, Nat.toDigits 10 n = d :: more :=
  List.exists_cons_of_ne_nil Nat.toDigits_ne_nil

/-- The first digit of a natural is no zero, unless that is all. -/
theorem head?_toDigits {n : Nat} (h : 0 < n) : (Nat.toDigits 10 n).head? ≠ some '0' := by
  induction n using Nat.strongRecOn with
  | ind n ih =>
    rw [Nat.toDigits_eq_if (by decide)]
    split
    case isTrue hn =>
      rw [List.head?_cons, ne_eq, Option.some.injEq, Nat.digitChar_eq_zero]
      omega
    case isFalse hn =>
      -- the last digit comes behind those of `n / 10`, which is not zero
      obtain ⟨d, more, hd⟩ := toDigits_eq_cons (n / 10)
      have first := ih (n / 10) (by omega) (by omega)
      rw [hd] at first ⊢
      exact first

theorem le_ofDigitChars (ds : List Char) (n : Nat) : n ≤ Nat.ofDigitChars 10 ds n := by
  induction ds generalizing n with
  | nil => exact Nat.le_of_eq Nat.ofDigitChars_nil.symm
  | cons c rest ih =>
    rw [Nat.ofDigitChars_cons]
    exact Nat.le_trans (by omega) (ih _)

/-- Digits that fit are all read. -/
theorem fitDigits_eq {ds : List Char} {n : Nat} (h : Nat.ofDigitChars 10 ds n < Limit.nat64) :
    fitDigits n ds = (Nat.ofDigitChars 10 ds n, []) := by
  induction ds generalizing n with
  | nil => rfl
  | cons c rest ih =>
    have step : n * 10 + digitValue c = 10 * n + (c.toNat - '0'.toNat) := by
      rw [Nat.mul_comm, digitValue]
    rw [Nat.ofDigitChars_cons] at h ⊢
    -- the value only grows with more digits, so it fits all the way
    rw [fitDigits, step, if_pos (Nat.lt_of_le_of_lt (le_ofDigitChars rest _) h), ih h]

theorem fitDigits_toDigits {n : Nat} (h : n < Limit.nat64) :
    fitDigits 0 (Nat.toDigits 10 n) = (n, []) := by
  rw [fitDigits_eq (by rwa [Nat.ofDigitChars_ten_toDigits]), Nat.ofDigitChars_ten_toDigits]

theorem value_natural {n : Nat} (h : n < Limit.nat64) :
    (⟨false, Nat.toDigits 10 n, [], none⟩ : Numeral).value = .ok (.integer n) := by
  have fits := fitDigits_toDigits h
  simp [Numeral.value, fits]

theorem value_negative {n : Nat} (h : 0 < n) (hn : n ≤ Limit.int64) :
    (⟨true, Nat.toDigits 10 n, [], none⟩ : Numeral).value = .ok (.integer (-n)) := by
  have fits := fitDigits_toDigits (Nat.lt_of_le_of_lt hn (by decide))
  simp [Numeral.value, fits, h, hn]

namespace Reader

/-- What may stand behind a numeral: nothing that would go on with it. -/
def Ends (rest : List Char) : Prop :=
  ∀ c more, rest = c :: more → isDigit c = false ∧ c ≠ '.' ∧ c ≠ 'e' ∧ c ≠ 'E'

theorem isDigit_of_mem {n : Nat} {c : Char} (h : c ∈ Nat.toDigits 10 n) : isDigit c = true := by
  have hd := Nat.isDigit_of_mem_toDigits (by decide) (by decide) h
  simpa [isDigit, Char.isDigit, Char.le_def] using hd

theorem takeWhile_append {ds rest : List Char} (hd : ∀ c ∈ ds, isDigit c = true)
    (hr : Ends rest) :
    (ds ++ rest).takeWhile isDigit = ds ∧ (ds ++ rest).dropWhile isDigit = rest := by
  rw [List.takeWhile_append_of_pos hd, List.dropWhile_append_of_pos hd]
  cases rest with
  | nil => simp
  | cons c more =>
    have hc : ¬ isDigit c = true := by rw [(hr c more rfl).1]; decide
    rw [List.takeWhile_cons_of_neg hc, List.dropWhile_cons_of_neg hc, List.append_nil]
    exact ⟨rfl, rfl⟩

theorem scale_ends (negative : Bool) (whole fraction : List Char) {c : Cursor} (h : Ends c.rest) :
    scale negative whole fraction c = .done ⟨negative, whole, fraction, none⟩ c := by
  unfold scale
  split
  case h_1 e more he =>
    obtain ⟨-, -, h₁, h₂⟩ := h e more he
    simp [h₁, h₂]
  case h_2 => rfl

theorem unsigned_toDigits (negative : Bool) (n : Nat) {rest : List Char} (h : Ends rest)
    (p : Place) :
    ∃ e, unsigned negative ⟨Nat.toDigits 10 n ++ rest, p⟩ =
      .done ⟨negative, Nat.toDigits 10 n, [], none⟩ e ∧ e.rest = rest := by
  have hc : ∀ c ∈ Nat.toDigits 10 n, isDigit c = true := fun c hc => isDigit_of_mem hc
  obtain ⟨ht, hd⟩ := takeWhile_append hc h
  refine ⟨⟨rest, ⟨p.line, p.column + (Nat.toDigits 10 n).length⟩⟩, ?_, rfl⟩
  simp only [unsigned, digits, ht, hd]
  split
  case h_1 he => exact absurd (Prod.mk.inj he).1 Nat.toDigits_ne_nil
  -- a leading zero stands alone
  case h_2 more hl =>
    have hz := (Prod.mk.inj hl).1
    rcases Nat.eq_zero_or_pos n with rfl | hn
    · rw [Nat.toDigits_zero] at hz
      cases hz
    · exact absurd (by rw [hz]; rfl) (head?_toDigits hn)
  case h_3 whole c _ _ hl =>
    obtain ⟨rfl, rfl⟩ := Prod.mk.inj hl
    split
    case h_1 more hp => exact absurd rfl (h '.' more hp).2.1
    case h_2 => exact scale_ends _ _ _ h

theorem numeral_natural {n : Nat} {rest : List Char} (p : Place) :
    numeral ⟨Nat.toDigits 10 n ++ rest, p⟩ = unsigned false ⟨Nat.toDigits 10 n ++ rest, p⟩ := by
  obtain ⟨d, more, hd⟩ := toDigits_eq_cons n
  have digit : isDigit d = true := isDigit_of_mem (n := n) (by rw [hd]; exact List.mem_cons_self)
  have unsigned : d ≠ '-' := by rintro rfl; exact absurd digit (by decide)
  unfold numeral
  split
  case h_1 he =>
    rw [hd, List.cons_append] at he
    exact absurd (List.cons.inj he).1 unsigned
  case h_2 => rfl

/-- An integer that is kept exactly is scanned as it was printed, and means itself. -/
theorem numeral_text {value : Int} (h : (Number.integer value).Exact) {rest : List Char}
    (hr : Ends rest) (p : Place) :
    ∃ m e, numeral ⟨(Number.integer value).text.toList ++ rest, p⟩ = .done m e ∧
      e.rest = rest ∧ m.value = .ok (.integer value) := by
  obtain ⟨low, high⟩ := h
  cases value with
  | ofNat n =>
    have text : (Number.integer n).text.toList = Nat.toDigits 10 n := Nat.toList_repr
    obtain ⟨e, he, hrest⟩ := unsigned_toDigits false n hr p
    refine ⟨_, e, ?_, hrest, value_natural (by simpa using high)⟩
    rw [Int.ofNat_eq_natCast, text, numeral_natural, he]
  | negSucc n =>
    have text : (Number.integer (.negSucc n)).text.toList = '-' :: Nat.toDigits 10 (n + 1) := by
      rw [← Nat.toList_repr]
      exact String.toList_append
    obtain ⟨e, he, hrest⟩ := unsigned_toDigits true (n + 1) hr ⟨p.line, p.column + 1⟩
    refine ⟨_, e, ?_, hrest, value_negative (Nat.succ_pos n) (by omega)⟩
    rw [text]
    exact he

theorem numeralNode_text {value : Int} (h : (Number.integer value).Exact) {rest : List Char}
    (hr : Ends rest) (p : Place) :
    ∃ span e, numeralNode ⟨(Number.integer value).text.toList ++ rest, p⟩ =
      (.number span (.ok (.integer value)), some e) ∧ e.rest = rest := by
  obtain ⟨m, e, hm, he, hv⟩ := numeral_text h hr p
  simp only [numeralNode, hm, hv]
  exact ⟨_, e, rfl, he⟩

/-- The first character of a printed integer. -/
theorem text_eq_cons (value : Int) : ∃ first more,
    (Number.integer value).text.toList = first :: more ∧ (first = '-' ∨ isDigit first = true) := by
  cases value with
  | ofNat n =>
    obtain ⟨d, more, hd⟩ := toDigits_eq_cons n
    exact ⟨d, more, Nat.toList_repr.trans hd,
      .inr (isDigit_of_mem (n := n) (by rw [hd]; exact List.mem_cons_self))⟩
  | negSucc n => exact ⟨'-', _, String.toList_append, .inl rfl⟩

end Reader

end Json

end FormatDaemon
