import FormatDaemon.Proofs.FlagTokens
import FormatDaemon.Proofs.Numerals
import FormatDaemon.Proofs.RealRange

/-!
# The values of options

A value is one of two words, a numeral, or text. A numeral of up to 64 bits is the natural it
denotes, with or without zeros in front, and a longer one a real, as long as there is one near
enough; past that it stays text.

* `Value.Denotes`: a numeral and the natural it denotes; `denotes_iff`: **numerals are the texts
  of digits**.
* `toDigits_naturalOf`: numerals read and printed again.
* `numberOf?_cases`, `ofText_cases`: **the four kinds of values**.
* `entry_classified`: **what every token says**.
-/

namespace FormatDaemon.Flag

namespace Value

/-! ### Numerals -/

theorem naturalOf_eq (digits : List Char) : naturalOf digits = Nat.ofDigitChars 10 digits 0 := by
  unfold naturalOf Nat.ofDigitChars
  congr 1
  funext n c
  rw [Nat.mul_comm]

/-- The digit of a digit's value. -/
theorem digitChar_of_isDigit {c : Char} (h : isDigit c = true) :
    c.toNat - '0'.toNat < 10 ∧ Nat.digitChar (c.toNat - '0'.toNat) = c := by
  obtain ⟨low, high⟩ : '0'.toNat ≤ c.toNat ∧ c.toNat ≤ '9'.toNat := by
    simpa [isDigit, Char.le_def, UInt32.le_iff_toNat_le] using h
  have zero : '0'.toNat = 48 := rfl
  have nine : '9'.toNat = 57 := rfl
  have small : c.toNat - '0'.toNat < 10 := by omega
  refine ⟨small, Char.toNat_inj.1 ?_⟩
  rw [Nat.toNat_digitChar_of_lt_ten small]
  omega

/-- Digits behind the numeral of a positive number make the numeral they denote together. -/
theorem toDigits_append {digits : List Char} (h : ∀ c ∈ digits, isDigit c = true) {n : Nat}
    (hn : 0 < n) :
    Nat.toDigits 10 n ++ digits = Nat.toDigits 10 (Nat.ofDigitChars 10 digits n) := by
  -- the number in front stays positive, so no zero among the digits is lost
  induction digits generalizing n with
  | nil => rw [List.append_nil, Nat.ofDigitChars_nil]
  | cons c rest ih =>
    obtain ⟨small, char⟩ := digitChar_of_isDigit (h c List.mem_cons_self)
    have next : Nat.toDigits 10 n ++ [c] =
        Nat.toDigits 10 (10 * n + (c.toNat - '0'.toNat)) := by
      rw [← Nat.toDigits_append_toDigits (by decide) hn small, Nat.toDigits_of_lt_base small, char]
    rw [Nat.ofDigitChars_cons, ← ih (fun d hd => h d (List.mem_cons_of_mem c hd)) (by omega),
      ← next, List.append_assoc, List.singleton_append]

/-- **A numeral without zeros in front is printed as it was read.** -/
theorem toDigits_naturalOf {digits : List Char} (h : ∀ c ∈ digits, isDigit c = true)
    (hn : digits ≠ []) (hz : digits.head? ≠ some '0') :
    Nat.toDigits 10 (naturalOf digits) = digits := by
  rw [naturalOf_eq]
  cases digits with
  | nil => exact absurd rfl hn
  | cons c rest =>
    obtain ⟨small, char⟩ := digitChar_of_isDigit (h c List.mem_cons_self)
    have positive : 0 < c.toNat - '0'.toNat := by
      rw [Nat.pos_iff_ne_zero]
      intro zero
      rw [zero] at char
      exact hz (by rw [← char]; rfl)
    have alone : Nat.toDigits 10 (c.toNat - '0'.toNat) = [c] := by
      rw [Nat.toDigits_of_lt_base small, char]
    rw [Nat.ofDigitChars_cons, Nat.mul_zero, Nat.zero_add,
      ← toDigits_append (fun d hd => h d (List.mem_cons_of_mem c hd)) positive, alone]
    rfl

/-- The value of a text of digits only. -/
theorem ofText_numeral {text : String} (h : text.toList.all isDigit = true) :
    ofText text = match numberOf? (naturalOf text.toList) with
      | some n => .number n
      | none => .text text := by
  have word : ∀ w : String, w.toList.all isDigit = false → text ≠ w := by
    rintro _ hw rfl
    rw [h] at hw
    cases hw
  unfold ofText
  rw [if_neg (word "true" (by decide)), if_neg (word "false" (by decide))]
  exact if_pos h

/-- Any other text is no number. -/
theorem ofText_ne_number {text : String} (h : text.toList.all isDigit = false) (n : Number) :
    ofText text ≠ .number n := by
  unfold ofText
  split_ifs with ht hf hd
  · simp
  · simp
  · rw [h] at hd
    cases hd
  · simp

/-- A text that denotes a natural: its decimal digits behind any number of zeros. -/
def Denotes (text : String) (n : Nat) : Prop :=
  ∃ zeros, text.toList = List.replicate zeros '0' ++ Nat.toDigits 10 n

/-- Zeros in front of digits do not count. -/
theorem naturalOf_replicate (zeros : Nat) (digits : List Char) :
    naturalOf (List.replicate zeros '0' ++ digits) = naturalOf digits := by
  induction zeros with
  | zero => rfl
  | succ zeros ih =>
    rw [← ih]
    rfl

/-- The natural that a numeral denotes is the one its digits are read as. -/
theorem Denotes.naturalOf_eq {text : String} {n : Nat} (h : Denotes text n) :
    naturalOf text.toList = n := by
  obtain ⟨zeros, spelled⟩ := h
  rw [spelled, naturalOf_replicate, Value.naturalOf_eq, Nat.ofDigitChars_ten_toDigits]

/-- A numeral denotes one natural. -/
theorem Denotes.iff_eq {text : String} {n m : Nat} (h : Denotes text n) :
    Denotes text m ↔ m = n := by
  constructor
  · intro hm
    rw [← hm.naturalOf_eq, h.naturalOf_eq]
  · rintro rfl
    exact h

/-- A numeral consists of digits. -/
theorem Denotes.all_isDigit {text : String} {n : Nat} (h : Denotes text n) :
    text.toList.all isDigit = true := by
  obtain ⟨zeros, spelled⟩ := h
  rw [spelled, List.all_append, Bool.and_eq_true]
  constructor
  · rw [List.all_eq_true]
    intro c hc
    rw [List.eq_of_mem_replicate hc]
    rfl
  · exact List.all_eq_true.2 fun c hc => Json.Reader.isDigit_of_mem hc

/-- Digits are zeros and the numeral of what they denote. -/
theorem exists_eq_replicate {digits : List Char} (hn : digits ≠ [])
    (h : ∀ c ∈ digits, isDigit c = true) :
    ∃ zeros, digits = List.replicate zeros '0' ++ Nat.toDigits 10 (naturalOf digits) := by
  induction digits with
  | nil => exact absurd rfl hn
  | cons c rest ih =>
    by_cases zero : c = '0'
    · -- a zero counts among those in front, unless it is all there is
      subst zero
      have same : naturalOf ('0' :: rest) = naturalOf rest := naturalOf_replicate 1 rest
      by_cases alone : rest = []
      · subst alone
        exact ⟨0, rfl⟩
      · obtain ⟨zeros, spelled⟩ := ih alone fun d hd => h d (List.mem_cons_of_mem _ hd)
        refine ⟨zeros + 1, ?_⟩
        rw [same, List.replicate_succ, List.cons_append, ← spelled]
    · refine ⟨0, ?_⟩
      rw [toDigits_naturalOf h hn (by simpa using zero)]
      rfl

/-- **The numerals are the texts of digits.** -/
theorem denotes_iff {text : String} (hn : text ≠ "") {n : Nat} :
    Denotes text n ↔ text.toList.all isDigit = true ∧ naturalOf text.toList = n := by
  constructor
  · intro h
    exact ⟨h.all_isDigit, h.naturalOf_eq⟩
  · rintro ⟨digits, rfl⟩
    exact exists_eq_replicate (by simpa using hn) (List.all_eq_true.1 digits)

theorem exists_denotes_iff {text : String} (hn : text ≠ "") :
    (∃ n, Denotes text n) ↔ ∀ c ∈ text.toList, '0' ≤ c ∧ c ≤ '9' := by
  simp only [denotes_iff hn, exists_and_left, exists_eq', and_true, List.all_eq_true, isDigit,
    Bool.and_eq_true, decide_eq_true_eq]

/-! ### Kinds of values -/

/-- The words of a switch are no numerals. -/
theorem Denotes.ne_toString {text : String} {n : Nat} (h : Denotes text n) (on : Bool) :
    text ≠ toString on := by
  rintro rfl
  have digits := h.all_isDigit
  cases on <;> exact absurd digits (by decide)

/-- A text that is no word of a switch and no numeral of a number stays text. -/
theorem ofText_text {text : String} (word : ∀ on : Bool, text ≠ toString on)
    (h : text.toList.all isDigit = true → numberOf? (naturalOf text.toList) = none) :
    ofText text = .text text := by
  have on : text ≠ "true" := word true
  have off : text ≠ "false" := word false
  unfold ofText
  rw [if_neg on, if_neg off]
  split
  case isTrue digits => rw [h digits]
  case isFalse => rfl

/-- What becomes of a natural: itself in 64 bits, the nearest real beyond them, and nothing where
no real is near. -/
theorem numberOf?_cases (n : Nat) :
    n < Limit.nat64 ∧ numberOf? n = some (.integer n) ∨
      (Limit.nat64 ≤ n ∧ n < Binary64.limit ∧
        ∃ x, Binary64.ofNat? n = some x ∧ numberOf? n = some (.real x)) ∨
      Binary64.limit ≤ n ∧ numberOf? n = none := by
  have long : 2 ^ 53 ≤ Limit.nat64 := by decide
  unfold numberOf?
  rcases Nat.lt_or_ge n Limit.nat64 with fits | large
  · exact .inl ⟨fits, if_pos fits⟩
  · have limited := Binary64.ofNat?_eq_none_iff (long.trans large)
    rw [if_neg (Nat.not_lt.2 large)]
    cases near : Binary64.ofNat? n with
    | none => exact .inr (.inr ⟨limited.1 near, rfl⟩)
    | some x =>
      have below : n < Binary64.limit := by
        rw [← Nat.not_le, ← limited, near]
        simp
      exact .inr (.inl ⟨large, below, x, rfl, rfl⟩)

/-- **The four kinds of values**: a switch, a natural of 64 bits, a real, and text. -/
theorem ofText_cases {text : String} (hn : text ≠ "") :
    (∃ on : Bool, text = toString on ∧ ofText text = .switch on) ∨
      (∃ n, Denotes text n ∧ n < Limit.nat64 ∧ ofText text = .number (.integer n)) ∨
      (∃ n x, Denotes text n ∧ Limit.nat64 ≤ n ∧ n < Binary64.limit ∧
        Binary64.ofNat? n = some x ∧ ofText text = .number (.real x)) ∨
      (∀ on : Bool, text ≠ toString on) ∧ (∀ n, Denotes text n → Binary64.limit ≤ n) ∧
        ofText text = .text text := by
  by_cases word : ∃ on : Bool, text = toString on
  · obtain ⟨on, rfl⟩ := word
    exact .inl ⟨on, rfl, by cases on <;> rfl⟩
  rw [not_exists] at word
  by_cases digits : text.toList.all isDigit = true
  · have denotes : Denotes text (naturalOf text.toList) := (denotes_iff hn).2 ⟨digits, rfl⟩
    have read := ofText_numeral digits
    rcases numberOf?_cases (naturalOf text.toList) with
      ⟨fits, number⟩ | ⟨large, below, x, near, number⟩ | ⟨beyond, none⟩
    · rw [number] at read
      exact .inr (.inl ⟨_, denotes, fits, read⟩)
    · rw [number] at read
      exact .inr (.inr (.inl ⟨_, x, denotes, large, below, near, read⟩))
    · refine .inr (.inr (.inr ⟨word, fun n hn => ?_, ofText_text word fun _ => none⟩))
      rw [← hn.naturalOf_eq]
      exact beyond
  · exact .inr (.inr (.inr ⟨word, fun n hn => absurd hn.all_isDigit digits,
      ofText_text word fun h => absurd h digits⟩))

/-- What a value says, for a text that is not empty: it is a switch just for the two words, a
number just for the numerals below the range of the reals, and the text itself for all others;
a number is the natural denoted if that has 64 bits, and the real next to it otherwise. -/
structure Classified (text : String) (value : Value) : Prop where
  switch : ∀ on : Bool, value = .switch on ↔ text = toString on
  numeral : (∃ n, Denotes text n) ↔ ∀ c ∈ text.toList, '0' ≤ c ∧ c ≤ '9'
  number : (∃ n, value = .number n) ↔ ∃ n, Denotes text n ∧ n < Binary64.limit
  integer : ∀ n, Denotes text n → n < Limit.nat64 → value = .number (.integer n)
  real : ∀ n, Denotes text n → Limit.nat64 ≤ n → n < Binary64.limit →
    ∃ x, Binary64.ofNat? n = some x ∧ value = .number (.real x)
  text : ∀ s, value = .text s ↔
    s = text ∧ (∀ on : Bool, text ≠ toString on) ∧ ¬ ∃ n, Denotes text n ∧ n < Binary64.limit

/-- **Every text is classified so.** -/
theorem classified_ofText {text : String} (hn : text ≠ "") : Classified text (ofText text) := by
  have wide : Limit.nat64 < Binary64.limit := by decide +kernel
  have numeral := exists_denotes_iff hn
  rcases ofText_cases hn with ⟨on, rfl, read⟩ | ⟨n, denotes, fits, read⟩ |
    ⟨n, x, denotes, large, below, near, read⟩ | ⟨word, beyond, read⟩
  · have none (n : Nat) : ¬ Denotes (toString on) n := fun h => h.ne_toString on rfl
    have same (other : Bool) : on = other ↔ toString on = toString other := by
      cases on <;> cases other <;> decide
    constructor
    case numeral => exact numeral
    case switch => simp only [read, switch.injEq, same, implies_true]
    case text =>
      rw [read]
      exact fun s => ⟨fun h => (nomatch h), fun h => absurd rfl (h.2.1 on)⟩
    all_goals simp [read, none]
  · -- a numeral is no word of a switch and denotes nothing else, which decides every field
    have only (m : Nat) : Denotes text m ↔ m = n := denotes.iff_eq
    have word := denotes.ne_toString
    have below : n < Binary64.limit := fits.trans wide
    constructor
    case numeral => exact numeral
    all_goals simp [read, only, word, below, fits]
  · have only (m : Nat) : Denotes text m ↔ m = n := denotes.iff_eq
    have word := denotes.ne_toString
    constructor
    case numeral => exact numeral
    all_goals simp [read, only, word, below, large, near]
  · have none (n : Nat) (h : Denotes text n) : ¬ n < Binary64.limit := Nat.not_lt.2 (beyond n h)
    constructor
    case numeral => exact numeral
    case switch => simp [read, word]
    case number => simpa [read] using beyond
    case integer => exact fun n h fits => absurd (fits.trans wide) (none n h)
    case real => exact fun n h _ below => absurd below (none n h)
    case text => simpa [read, word, eq_comm] using beyond

end Value

/-! ### Tokens -/

/-- **What every token says.** A token is dashes, a name up to the first equals sign, and all
that is behind that as its value. With a value it is an entry for its whole name, and the value
is classified; without one it is a switch, and `no-` in front of a name counts. The number of
dashes never does, and with a value those in the name do not. -/
theorem entry_classified (token : String) :
    let s := Spelling.ofToken token
    s.token = token ∧
      (s.value ≠ "" →
        (entry token).1 = camelCase s.name ∧ Value.Classified s.value (entry token).2 ∧
          entry s.camel.token = entry token) ∧
      (s.value = "" →
        (∀ rest, s.name = "no-" ++ rest → entry token = (camelCase rest, .switch false)) ∧
          ((∀ rest, s.name ≠ "no-" ++ rest) → entry token = (camelCase s.name, .switch true))) ∧
      ∀ n, entry (s.withDashes n).token = entry token := by
  intro s
  have whole : s.token = token := Spelling.token_ofToken token
  clear_value s
  subst whole
  refine ⟨rfl, fun valued => ?_, fun valueless => ⟨?_, ?_⟩, fun n => ?_⟩
  · have camel : s.camel.value ≠ "" := valued
    rw [Spelling.entry_valued valued, Spelling.entry_valued camel]
    refine ⟨rfl, Value.classified_ofText valued, ?_⟩
    exact Prod.ext (camelCase_camelCase s.name) rfl
  · exact fun rest named => Spelling.entry_negated valueless named
  · exact Spelling.entry_plain valueless
  · exact Spelling.entry_congr rfl rfl

/-- The largest integer behind zeros, digits that are not decimal ones, and an equals sign with
nothing behind it. -/
example : ["--a=0018446744073709551615", "-no-b=٣", "no-b="].map entry =
    [("a", .number (.integer 18446744073709551615)), ("noB", .text "٣"), ("b", .switch false)] := by
  decide

end FormatDaemon.Flag
