import FormatDaemon.Json.Reader

/-!
# Strings between reading and printing

* `scanText_escape`: one printed character is read as itself.
* `text_stringChars`: **a string is read as it was printed**.
-/

namespace FormatDaemon.Json.Reader

/-! ### One character -/

theorem scanText_letter {e c : Char} (hu : e ≠ 'u') (he : letterEscape? e = some c)
    (cs rest : List Char) (p : Place) :
    ∃ q, scanText (.ok cs) none ('\\' :: e :: rest) p = scanText (.ok (c :: cs)) none rest q := by
  refine ⟨(p.next '\\').next e, ?_⟩
  rw [scanText.eq_6 _ _ _ _ _ (fun _ _ _ _ _ h _ => hu h) hu, he]
  rfl

theorem scanText_plain {c : Char} (hq : c ≠ '"') (hb : c ≠ '\\') (hc : ¬ c.toNat < 0x20)
    (cs rest : List Char) (p : Place) :
    ∃ q, scanText (.ok cs) none (c :: rest) p = scanText (.ok (c :: cs)) none rest q := by
  refine ⟨p.next c, ?_⟩
  rw [scanText.eq_7 _ _ _ _ _ hq (fun h _ => hb h) (fun _ _ _ _ _ h _ => hb h)
    (fun _ h _ => hb h) (fun _ _ h _ => hb h), if_neg hc]
  rfl

/-- The two digits of a control give its number back. -/
theorem hexQuad?_controlDigits : ∀ n : Nat, n < 0x20 →
    hexQuad? '0' '0' (Nat.digitChar (n / 16)) (Nat.digitChar (n % 16)) = some n := by
  decide

theorem scanText_control {c : Char} (hc : c.toNat < 0x20) (cs rest : List Char) (p : Place) :
    ∃ q, scanText (.ok cs) none ('\\' :: 'u' :: '0' :: '0' :: controlDigits c ++ rest) p =
      scanText (.ok (c :: cs)) none rest q := by
  -- a control is no half of a pair
  have unit : ∀ q, readUnit (.ok cs) none c.toNat q = (.ok (c :: cs), none) := by
    intro q
    have low : ¬ 0xDC00 ≤ c.toNat := by omega
    have high : ¬ 0xD800 ≤ c.toNat := by omega
    simp [readUnit, low, high]
  simp only [controlDigits, List.cons_append, List.nil_append]
  rw [scanText.eq_4, hexQuad?_controlDigits _ hc]
  simp only [unit]
  exact ⟨_, rfl⟩

/-- The three ways to print a character. -/
theorem escape_cases (c : Char) :
    (∃ e, e ≠ 'u' ∧ letterEscape? e = some c ∧ escape c = ['\\', e]) ∨
    (c.toNat < 0x20 ∧ escape c = '\\' :: 'u' :: '0' :: '0' :: controlDigits c) ∨
    (c ≠ '"' ∧ c ≠ '\\' ∧ ¬ c.toNat < 0x20 ∧ escape c = [c]) := by
  unfold escape
  by_cases h : c = '"'
  · exact .inl ⟨'"', by decide, by rw [h]; rfl, if_pos h⟩
  rw [if_neg h]
  by_cases h : c = '\\'
  · exact .inl ⟨'\\', by decide, by rw [h]; rfl, if_pos h⟩
  rw [if_neg h]
  by_cases h : c = '\n'
  · exact .inl ⟨'n', by decide, by rw [h]; rfl, if_pos h⟩
  rw [if_neg h]
  by_cases h : c = '\r'
  · exact .inl ⟨'r', by decide, by rw [h]; rfl, if_pos h⟩
  rw [if_neg h]
  by_cases h : c = '\t'
  · exact .inl ⟨'t', by decide, by rw [h]; rfl, if_pos h⟩
  rw [if_neg h]
  by_cases h : c.toNat = 0x8
  · exact .inl ⟨'b', by decide, by rw [← Char.ofNat_toNat c, h]; rfl, if_pos h⟩
  rw [if_neg h]
  by_cases h : c.toNat = 0xC
  · exact .inl ⟨'f', by decide, by rw [← Char.ofNat_toNat c, h]; rfl, if_pos h⟩
  rw [if_neg h]
  by_cases h : c.toNat < 0x20
  · exact .inr (.inl ⟨h, if_pos h⟩)
  exact .inr (.inr ⟨‹_›, ‹_›, h, if_neg h⟩)

/-- A printed character is read as itself. -/
theorem scanText_escape (c : Char) (cs rest : List Char) (p : Place) :
    ∃ q, scanText (.ok cs) none (escape c ++ rest) p = scanText (.ok (c :: cs)) none rest q := by
  rcases escape_cases c with ⟨e, hu, he, hc⟩ | ⟨h, hc⟩ | ⟨hq, hb, h, hc⟩
  · rw [hc]
    exact scanText_letter hu he cs rest p
  · rw [hc]
    exact scanText_control h cs rest p
  · rw [hc]
    exact scanText_plain hq hb h cs rest p

/-! ### Whole strings -/

theorem scanText_flatMap (s cs rest : List Char) (p : Place) :
    ∃ q, scanText (.ok cs) none (s.flatMap escape ++ '"' :: rest) p =
      .done (.ok (cs.reverse ++ s)) ⟨rest, q⟩ := by
  induction s generalizing cs p with
  | nil =>
    refine ⟨p.next '"', ?_⟩
    rw [List.flatMap_nil, List.nil_append, List.append_nil, scanText]
    rfl
  | cons c more ih =>
    -- `cs` has what was read so far, the last character first
    obtain ⟨q, hq⟩ := scanText_escape c cs (more.flatMap escape ++ '"' :: rest) p
    obtain ⟨e, he⟩ := ih (c :: cs) q
    refine ⟨e, ?_⟩
    rw [List.flatMap_cons, List.append_assoc, hq, he, List.reverse_cons, List.append_assoc]
    rfl

/-- **A string is read as it was printed.** -/
theorem text_stringChars (s : String) (rest : List Char) (p : Place) :
    ∃ q, text (Cursor.drop ⟨stringChars s ++ rest, p⟩) = .done (.ok s.toList) ⟨rest, q⟩ := by
  obtain ⟨q, hq⟩ := scanText_flatMap s.toList [] rest ⟨p.line, p.column + 1⟩
  refine ⟨q, ?_⟩
  simp only [text, Cursor.drop, stringChars, List.cons_append, List.append_assoc, List.tail_cons,
    List.nil_append]
  rw [hq]
  rfl

theorem textNode_stringChars (s : String) (rest : List Char) (p : Place) :
    ∃ span q, textNode ⟨stringChars s ++ rest, p⟩ =
      (.string span (.ok s), some ⟨rest, q⟩) := by
  obtain ⟨q, hq⟩ := text_stringChars s rest p
  unfold textNode
  rw [hq]
  simp only [Except.map, String.ofList_toList]
  exact ⟨_, q, rfl⟩

end FormatDaemon.Json.Reader
