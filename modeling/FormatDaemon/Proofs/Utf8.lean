import FormatDaemon.Text.Utf8

/-!
# Text and bytes

* `decode?_encode`, `encode_of_decode?`: **decoding undoes encoding, and is undone by it**.
* `toNat_of_mem`: below 128 a byte only stands for the character of its number.
* `IsText`: byte strings that are text.
-/

namespace FormatDaemon.Utf8

/-! ### Cutting encoded text -/

theorem scalar?_append (c : Char) (rest : List UInt8) :
    scalar? (String.utf8EncodeChar c ++ rest) = some c := by
  have hlen : (String.utf8EncodeChar c).length ≤ 4 := by
    rw [String.length_utf8EncodeChar]
    exact c.utf8Size_le_four
  rw [scalar?, List.take_append, List.take_of_length_le hlen, List.toByteArray_append,
    ByteArray.utf8DecodeChar?_utf8EncodeChar_append]

/-- A scalar is only found at the front of its own encoding. -/
theorem exists_of_scalar? {bytes : List UInt8} {c : Char} (h : scalar? bytes = some c) :
    ∃ rest, bytes = String.utf8EncodeChar c ++ rest := by
  obtain ⟨more, hb⟩ := ByteArray.exists_of_utf8DecodeChar?_eq_some h
  have front : bytes.take 4 = String.utf8EncodeChar c ++ more.data.toList := by
    simpa using congrArg (fun b : ByteArray => b.data.toList) hb
  refine ⟨more.data.toList ++ bytes.drop 4, ?_⟩
  rw [← List.append_assoc, ← front, List.take_append_drop]

theorem pieces_append (c : Char) (rest : List UInt8) :
    pieces (String.utf8EncodeChar c ++ rest) = .scalar c :: pieces rest := by
  obtain ⟨b, more, hb⟩ := List.exists_cons_of_ne_nil
    (l := String.utf8EncodeChar c ++ rest) (by simp)
  -- what is cut off is just the encoding of `c`
  have hs : scalar? (b :: more) = some c := hb ▸ scalar?_append c rest
  have hd : (b :: more).drop c.utf8Size = rest := by
    rw [← hb, ← String.length_utf8EncodeChar, List.drop_left]
  rw [hb, pieces, hs]
  simp only [hd]

theorem pieces_encode (cs : List Char) :
    pieces (cs.flatMap String.utf8EncodeChar) = cs.map .scalar := by
  induction cs with
  | nil => rw [List.flatMap_nil, pieces, List.map_nil]
  | cons c rest ih => rw [List.flatMap_cons, pieces_append, ih, List.map_cons]

theorem mapM_scalar? (cs : List Char) :
    (cs.map Piece.scalar).mapM Piece.scalar? = some cs := by
  induction cs with
  | nil => rfl
  | cons c rest ih => simp [Piece.scalar?, ih]

/-- The pieces of a byte string give it back. -/
theorem flatMap_bytes_pieces (bytes : List UInt8) : (pieces bytes).flatMap Piece.bytes = bytes := by
  induction bytes using pieces.induct with
  | case1 => rw [pieces, List.flatMap_nil]
  | case2 b more c hs ih =>
    obtain ⟨rest, hr⟩ := exists_of_scalar? hs
    have hd : (b :: more).drop c.utf8Size = rest := by
      rw [hr, ← String.length_utf8EncodeChar, List.drop_left]
    rw [pieces, hs]
    simp only [List.flatMap_cons, ih]
    rw [hd, hr, Piece.bytes]
  | case3 b more hs ih =>
    rw [pieces, hs]
    simp only [List.flatMap_cons, ih]
    rw [Piece.bytes, List.take_append_drop]

theorem eq_of_mapM_scalar? {ps : List Piece} {cs : List Char}
    (h : ps.mapM Piece.scalar? = some cs) : ps = cs.map .scalar := by
  induction ps generalizing cs with
  | nil => obtain rfl := Option.some.inj h; rfl
  | cons p rest ih =>
    cases p with
    | broken run => simp [Piece.scalar?] at h
    | scalar c =>
      obtain ⟨others, hr, rfl⟩ : ∃ others, rest.mapM Piece.scalar? = some others ∧
          c :: others = cs := by
        simpa [Piece.scalar?, Option.bind_eq_some_iff] using h
      rw [List.map_cons, ih hr]

/-! ### Decoding and encoding -/

/-- **Decoding undoes encoding.** -/
@[simp] theorem decode?_encode (text : String) : decode? (encode text) = some text := by
  rw [decode?, encode, pieces_encode, mapM_scalar?, Option.map_some, String.ofList_toList]

@[simp] theorem decodeLossy_encode (text : String) : decodeLossy (encode text) = text := by
  have shown : Piece.shown ∘ Piece.scalar = id := rfl
  rw [decodeLossy, encode, pieces_encode, List.map_map, shown, List.map_id, String.ofList_toList]

/-- **Only the encoding of a text is decoded to it.** -/
theorem encode_of_decode? {bytes : List UInt8} {text : String} (h : decode? bytes = some text) :
    encode text = bytes := by
  obtain ⟨cs, hc, rfl⟩ := Option.map_eq_some_iff.1 h
  have hp := eq_of_mapM_scalar? hc
  rw [← flatMap_bytes_pieces bytes, hp, encode, String.toList_ofList, List.flatMap_map]
  rfl

theorem decode?_eq_some_iff {bytes : List UInt8} {text : String} :
    decode? bytes = some text ↔ encode text = bytes :=
  ⟨encode_of_decode?, fun h => h ▸ decode?_encode text⟩

@[simp] theorem encode_append (a b : String) : encode (a ++ b) = encode a ++ encode b := by
  rw [encode, String.toList_append, List.flatMap_append, encode, encode]

@[simp] theorem encode_ofList (cs : List Char) :
    encode (String.ofList cs) = cs.flatMap String.utf8EncodeChar := by
  rw [encode, String.toList_ofList]

/-- Below 128 a byte only stands for the character of its number. -/
theorem toNat_of_mem {c : Char} {b : UInt8} (hb : b.toNat < 128)
    (h : b ∈ String.utf8EncodeChar c) : c.toNat = b.toNat := by
  -- all bytes of a longer encoding are at least 128
  have high : ∀ n : Nat, 128 ≤ n → n < 256 → b ≠ UInt8.ofNat n := by
    rintro n hn hn' rfl
    rw [UInt8.toNat_ofNat', Nat.mod_eq_of_lt hn'] at hb
    omega
  unfold String.utf8EncodeChar at h
  simp only at h
  split at h
  · rw [List.mem_singleton] at h
    rw [h, UInt8.toNat_ofNat', Nat.mod_eq_of_lt (by omega)]
    rfl
  all_goals exfalso
  split at h
  · simp only [List.mem_cons, List.not_mem_nil, or_false] at h
    rcases h with h | h <;> exact high _ (by omega) (by omega) h
  split at h
  · simp only [List.mem_cons, List.not_mem_nil, or_false] at h
    rcases h with h | h | h <;> exact high _ (by omega) (by omega) h
  · simp only [List.mem_cons, List.not_mem_nil, or_false] at h
    rcases h with h | h | h | h <;> exact high _ (by omega) (by omega) h

/-- Below 128 a byte only stands in a text for the character of its number. -/
theorem mem_of_mem_encode {cs : List Char} {b : UInt8} (hb : b.toNat < 128)
    (h : b ∈ cs.flatMap String.utf8EncodeChar) : Char.ofNat b.toNat ∈ cs := by
  obtain ⟨c, hc, hm⟩ := List.mem_flatMap.1 h
  rwa [← toNat_of_mem hb hm, Char.ofNat_toNat]

/-! ### Byte strings that are text -/

/-- Byte strings that are text. -/
def IsText (bytes : List UInt8) : Prop := ∃ text, encode text = bytes

theorem IsText.encode (text : String) : IsText (encode text) := ⟨text, rfl⟩

theorem isText_iff {bytes : List UInt8} :
    IsText bytes ↔ ∃ cs : List Char, bytes = cs.flatMap String.utf8EncodeChar := by
  constructor
  · rintro ⟨text, rfl⟩
    exact ⟨text.toList, rfl⟩
  · rintro ⟨cs, rfl⟩
    exact ⟨.ofList cs, encode_ofList cs⟩

theorem isText_nil : IsText [] := ⟨"", rfl⟩

theorem IsText.append {a b : List UInt8} (ha : IsText a) (hb : IsText b) : IsText (a ++ b) := by
  obtain ⟨s, rfl⟩ := ha
  obtain ⟨t, rfl⟩ := hb
  exact ⟨s ++ t, encode_append s t⟩

/-- What is no text is decoded to none. -/
theorem decode?_eq_none_iff {bytes : List UInt8} : decode? bytes = none ↔ ¬ IsText bytes := by
  rw [Option.eq_none_iff_forall_ne_some, IsText, not_exists]
  exact forall_congr' fun text => not_congr decode?_eq_some_iff

/-- Text is decoded to itself either way. -/
theorem IsText.decode? {bytes : List UInt8} (h : IsText bytes) :
    decode? bytes = some (decodeLossy bytes) := by
  obtain ⟨text, rfl⟩ := h
  rw [decode?_encode, decodeLossy_encode]

theorem exists_broken {ps : List Piece} (h : ps.mapM Piece.scalar? = none) :
    ∃ run, .broken run ∈ ps := by
  induction ps with
  | nil => cases h
  | cons p rest ih =>
    cases p with
    | broken run => exact ⟨run, List.mem_cons_self⟩
    | scalar c =>
      have none_later : rest.mapM Piece.scalar? = none := by
        cases hr : rest.mapM Piece.scalar? with
        | none => rfl
        | some others => simp [Piece.scalar?, hr] at h
      obtain ⟨run, hm⟩ := ih none_later
      exact ⟨run, List.mem_cons_of_mem _ hm⟩

/-- **What is no text shows U+FFFD somewhere.** -/
theorem replacement_mem_decodeLossy {bytes : List UInt8} (h : ¬ IsText bytes) :
    '\uFFFD' ∈ (decodeLossy bytes).toList := by
  have none_decoded : (pieces bytes).mapM Piece.scalar? = none :=
    Option.map_eq_none_iff.1 (decode?_eq_none_iff.2 h)
  obtain ⟨run, hm⟩ := exists_broken none_decoded
  rw [decodeLossy, String.toList_ofList]
  exact List.mem_map.2 ⟨.broken run, hm, rfl⟩

end FormatDaemon.Utf8
