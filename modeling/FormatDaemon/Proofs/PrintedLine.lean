import FormatDaemon.Json.Printer
import FormatDaemon.Proofs.BlankText
import FormatDaemon.Proofs.PrintedStrings

/-!
# A printed document is one line

* `newline_not_mem_chars`: **no printed document has a newline in it**, whatever its
  strings say and however its numbers are written.
* `trim_print`: nothing blank surrounds a printed object.
-/

namespace FormatDaemon

/-! ### Numbers -/

theorem newline_not_mem_toDigits (n : Nat) : '\n' ∉ Nat.toDigits 10 n := fun h =>
  absurd (Nat.isDigit_of_mem_toDigits (by decide) (by decide) h) (by decide)

namespace Binary64

theorem newline_not_mem_decimalText (d : Decimal) : '\n' ∉ (decimalText d).toList := by
  have hd := newline_not_mem_toDigits d.digits
  have ht : ∀ n, '\n' ∉ (Nat.toDigits 10 d.digits).take n := fun n h => hd (List.mem_of_mem_take h)
  have hr : ∀ n, '\n' ∉ (Nat.toDigits 10 d.digits).drop n := fun n h => hd (List.mem_of_mem_drop h)
  have hz : ∀ n, '\n' ∉ List.replicate n '0' := fun n h =>
    absurd (List.eq_of_mem_replicate h) (by decide)
  have point : '\n' ∉ (if ((Nat.toDigits 10 d.digits).drop 1).isEmpty then []
      else '.' :: (Nat.toDigits 10 d.digits).drop 1) := by
    split
    · exact List.not_mem_nil
    · rw [List.mem_cons, not_or]
      exact ⟨by decide, hr 1⟩
  -- digits, zeros, a point, a sign: the parts of any layout
  have sign : ∀ e : Int, '\n' ≠ (if e < 0 then '-' else '+') := by
    intro e
    split <;> decide
  unfold decimalText
  dsimp only
  split
  · split
    · simp [hd, hz]
    · split <;> simp [hd, ht, hr, hz]
  · simp only [String.toList_ofList, List.mem_append, List.mem_cons, not_or]
    exact ⟨⟨ht 1, point⟩, by decide, sign _, newline_not_mem_toDigits _⟩

theorem newline_not_mem_text (x : Binary64) : '\n' ∉ x.text.toList := by
  have body : '\n' ∉ (if x.rank = 0 then "0.0" else decimalText x.shortest).toList := by
    split
    · decide
    · exact newline_not_mem_decimalText _
  unfold text
  dsimp only
  split
  · rw [String.toList_append, List.mem_append]
    rintro (h | h)
    · exact absurd h (by decide)
    · exact body h
  · exact body

end Binary64

theorem Number.newline_not_mem_text (n : Number) : '\n' ∉ n.text.toList := by
  cases n with
  | real x => exact x.newline_not_mem_text
  | integer value =>
    cases value with
    | ofNat n =>
      rw [show (Number.integer (.ofNat n)).text.toList = Nat.toDigits 10 n from Nat.toList_repr]
      exact newline_not_mem_toDigits n
    | negSucc n =>
      have split : (Number.integer (.negSucc n)).text.toList = '-' :: (n + 1).repr.toList :=
        String.toList_append
      rw [split, Nat.toList_repr, List.mem_cons]
      rintro (h | h)
      · exact absurd h (by decide)
      · exact newline_not_mem_toDigits _ h

namespace Json

/-! ### Documents -/

theorem newline_not_mem_escape (c : Char) : '\n' ∉ escape c := by
  have digit : ∀ n : Nat, n < 16 → '\n' ≠ Nat.digitChar n := by decide
  rcases Reader.escape_cases c with ⟨e, -, he, hc⟩ | ⟨h, hc⟩ | ⟨-, -, h, hc⟩
  · have hn : e ≠ '\n' := by rintro rfl; cases he
    rw [hc]
    simp [hn.symm]
  · rw [hc]
    simp only [controlDigits, List.mem_cons, List.not_mem_nil, or_false, not_or]
    exact ⟨by decide, by decide, by decide, by decide, digit _ (by omega), digit _ (by omega)⟩
  · rw [hc, List.mem_singleton]
    rintro rfl
    exact h (by decide)

theorem newline_not_mem_stringChars (s : String) : '\n' ∉ stringChars s := by
  have body : '\n' ∉ s.toList.flatMap escape := by
    rw [List.mem_flatMap]
    rintro ⟨c, -, hc⟩
    exact newline_not_mem_escape c hc
  simp [stringChars, body]

mutual

/-- **A printed document is one line.** -/
theorem newline_not_mem_chars (j : Json) : '\n' ∉ j.chars := by
  match j with
  | .null | .bool true | .bool false | .array [] | .object [] =>
    rw [chars]
    decide
  | .number n =>
    rw [chars]
    exact n.newline_not_mem_text
  | .string s =>
    rw [chars]
    exact newline_not_mem_stringChars s
  | .array (item :: rest) =>
    rw [chars]
    simp [newline_not_mem_chars item, newline_not_mem_itemChars rest]
  | .object (member :: rest) =>
    rw [chars]
    simp [newline_not_mem_stringChars, newline_not_mem_chars member.2,
      newline_not_mem_memberChars rest]

theorem newline_not_mem_itemChars (items : List Json) : '\n' ∉ itemChars items := by
  match items with
  | [] =>
    rw [itemChars]
    decide
  | item :: rest =>
    rw [itemChars]
    simp [newline_not_mem_chars item, newline_not_mem_itemChars rest]

theorem newline_not_mem_memberChars (members : List (String × Json)) :
    '\n' ∉ memberChars members := by
  match members with
  | [] =>
    rw [memberChars]
    decide
  | member :: rest =>
    rw [memberChars]
    simp [newline_not_mem_stringChars, newline_not_mem_chars member.2,
      newline_not_mem_memberChars rest]

end

/-! ### Objects -/

theorem memberChars_eq (members : List (String × Json)) :
    ∃ body, memberChars members = body ++ ['\x7d'] := by
  induction members with
  | nil => exact ⟨[], by rw [memberChars]; rfl⟩
  | cons member rest ih =>
    obtain ⟨body, hb⟩ := ih
    rw [memberChars, hb, ← List.append_assoc]
    exact ⟨_, rfl⟩

/-- A printed object stands between braces. -/
theorem chars_object (members : List (String × Json)) :
    ∃ body, (object members).chars = '\x7b' :: body ++ ['\x7d'] := by
  cases members with
  | nil => exact ⟨[], by rw [chars]; rfl⟩
  | cons member rest =>
    obtain ⟨body, hb⟩ := memberChars_eq rest
    rw [chars, hb, ← List.append_assoc]
    exact ⟨_, rfl⟩

/-- Trimming a line with a printed object leaves the object. -/
theorem trim_print (members : List (String × Json)) :
    Text.trim ((object members).print ++ "\n") = (object members).print := by
  obtain ⟨body, hb⟩ := chars_object members
  have line : (object members).print.toList = '\x7b' :: body ++ ['\x7d'] := by
    rw [print, hb, String.toList_ofList]
  refine Text.trim_eq ⟨⟨[], ['\n'], String.toList_append, nofun, ?_⟩, ?_, ?_⟩
  · intro c hc
    rw [List.mem_singleton.1 hc]
    decide
  · intro c hc
    rw [line] at hc
    cases hc
    decide
  · intro c hc
    rw [line, List.getLast?_concat] at hc
    cases hc
    decide

end Json

end FormatDaemon
