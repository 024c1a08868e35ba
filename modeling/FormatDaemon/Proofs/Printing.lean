import FormatDaemon.Proofs.Decoding
import FormatDaemon.Proofs.Numerals
import FormatDaemon.Proofs.PrintedStrings

/-!
# Documents between reading and printing

* `Json.nest`: how deep arrays and objects stand in each other.
* `Json.Exact`: the documents whose numbers are kept exactly.
* `value_chars`: a document is read as it was printed, whatever ends it.
* `says_print`, `ofText_print`: **a printed document reads as itself**, with blanks behind it.
-/

namespace FormatDaemon.Json

/-! ### Depth and numbers -/

mutual

/-- How deep arrays and objects stand in each other. -/
def nest : Json → Nat
  | .array items => nestItems items + 1
  | .object members => nestMembers members + 1
  | .null | .bool _ | .number _ | .string _ => 0

/-- How deep arrays and objects stand in each other in some items. -/
def nestItems : List Json → Nat
  | [] => 0
  | item :: rest => max item.nest (nestItems rest)

/-- How deep arrays and objects stand in each other in some members. -/
def nestMembers : List (String × Json) → Nat
  | [] => 0
  | member :: rest => max member.2.nest (nestMembers rest)

end

mutual

/-- All numbers are kept exactly. -/
def Exact : Json → Prop
  | .number n => n.Exact
  | .array items => ExactItems items
  | .object members => ExactMembers members
  | .null | .bool _ | .string _ => True

/-- All numbers in some items are kept exactly. -/
def ExactItems : List Json → Prop
  | [] => True
  | item :: rest => item.Exact ∧ ExactItems rest

/-- All numbers in some members are kept exactly. -/
def ExactMembers : List (String × Json) → Prop
  | [] => True
  | member :: rest => member.2.Exact ∧ ExactMembers rest

end

namespace Reader

/-! ### Where documents start and end -/

/-- The first characters of documents. -/
def Starts (c : Char) : Prop :=
  c ≠ ' ' ∧ c ≠ '\n' ∧ c ≠ '\t' ∧ c ≠ '\r' ∧ c ≠ ']'

theorem starts_of_isDigit {c : Char} (h : isDigit c = true) : Starts c := by
  refine ⟨?_, ?_, ?_, ?_, ?_⟩ <;> (rintro rfl; exact absurd h (by decide))

theorem chars_eq_cons {j : Json} (h : j.Exact) :
    ∃ first more, j.chars = first :: more ∧ Starts first := by
  have starts : ∀ c ∈ ['n', 't', 'f', '"', '[', '\x7b', '-'], Starts c := by
    simp [Starts]
  cases j with
  | null => exact ⟨'n', _, by rw [chars], starts _ (by decide)⟩
  | bool b =>
    cases b with
    | true => exact ⟨'t', _, by rw [chars], starts _ (by decide)⟩
    | false => exact ⟨'f', _, by rw [chars], starts _ (by decide)⟩
  | number n =>
    cases n with
    | real => exact h.elim
    | integer value =>
      obtain ⟨first, more, ht, hf⟩ := text_eq_cons value
      refine ⟨first, more, by rw [chars, ht], ?_⟩
      rcases hf with rfl | hf
      · exact starts _ (by decide)
      · exact starts_of_isDigit hf
  | string s => exact ⟨'"', _, by rw [chars]; rfl, starts _ (by decide)⟩
  | array items =>
    cases items with
    | nil => exact ⟨'[', _, by rw [chars], starts _ (by decide)⟩
    | cons item rest => exact ⟨'[', _, by rw [chars]; rfl, starts _ (by decide)⟩
  | object members =>
    cases members with
    | nil => exact ⟨'\x7b', _, by rw [chars], starts _ (by decide)⟩
    | cons member rest => exact ⟨'\x7b', _, by rw [chars]; rfl, starts _ (by decide)⟩

theorem ends_itemChars (items : List Json) (rest : List Char) : Ends (itemChars items ++ rest) := by
  intro c more h
  cases items <;>
  · rw [itemChars] at h
    rw [← (List.cons.inj h).1]
    decide

theorem ends_memberChars (members : List (String × Json)) (rest : List Char) :
    Ends (memberChars members ++ rest) := by
  intro c more h
  cases members <;>
  · rw [memberChars] at h
    rw [← (List.cons.inj h).1]
    decide

theorem blanks_cons {c : Char} (h : Starts c) (rest : List Char) (p : Place) :
    Cursor.blanks ⟨c :: rest, p⟩ = ⟨c :: rest, p⟩ := by
  obtain ⟨h₁, h₂, h₃, h₄, -⟩ := h
  simp [Cursor.blanks, Cursor.skipBlanks, h₁, h₂, h₃, h₄]

/-! ### Steps of the reader -/

variable {limit? : Option Nat} {fuel depth : Nat} {rest : List Char} {p : Place}

theorem item_eq {c d : Cursor} {node : Node} {tail : Items} {e? : Option Cursor}
    (hv : value limit? fuel depth c = (node, some d))
    (ht : items limit? fuel depth false d = (tail, e?)) :
    item limit? (fuel + 1) depth c = (.item (c.peekFault .trailingText) node tail, e?) := by
  simp only [item, hv, ht]

theorem items_first {j : Json} (h : j.Exact) :
    items limit? (fuel + 1) depth true ⟨j.chars ++ rest, p⟩ =
      item limit? fuel depth ⟨j.chars ++ rest, p⟩ := by
  obtain ⟨first, more, hc, hs⟩ := chars_eq_cons h
  rw [hc, List.cons_append]
  unfold items
  simp only [blanks_cons hs]
  split
  case h_1 he => cases he
  case h_2 he => exact absurd (List.cons.inj he).1 hs.2.2.2.2
  case h_3 hb => cases hb
  case h_4 => rfl
  case h_5 => contradiction

theorem blanks_punctuation {c : Char} (h : c = ',' ∨ c = ']' ∨ c = ':' ∨ c = '\x7d')
    (rest : List Char) (p : Place) : Cursor.blanks ⟨c :: rest, p⟩ = ⟨c :: rest, p⟩ := by
  rcases h with rfl | rfl | rfl | rfl <;> rfl

theorem items_next {j : Json} (h : j.Exact) :
    items limit? (fuel + 1) depth false ⟨',' :: (j.chars ++ rest), p⟩ =
      item limit? fuel depth ⟨j.chars ++ rest, ⟨p.line, p.column + 1⟩⟩ := by
  obtain ⟨first, more, hc, hs⟩ := chars_eq_cons h
  rw [hc, List.cons_append]
  unfold items
  simp only [blanks_punctuation (.inl rfl), Cursor.drop, List.tail_cons, blanks_cons hs]
  split
  case h_1 he => cases he
  -- a comma with the end behind it is a fault, but here an item is behind it
  case h_2 he => exact absurd (List.cons.inj he).1 hs.2.2.2.2
  case h_3 => rfl

theorem items_close {first : Bool} :
    items limit? (fuel + 1) depth first ⟨']' :: rest, p⟩ =
      (.close (some ⟨p.line, p.column + 1⟩), some ⟨rest, ⟨p.line, p.column + 1⟩⟩) := by
  cases first <;> (unfold items; rfl)

theorem members_close {first : Bool} :
    members limit? (fuel + 1) depth first ⟨'\x7d' :: rest, p⟩ =
      (.close (some p) (some ⟨p.line, p.column + 1⟩), some ⟨rest, ⟨p.line, p.column + 1⟩⟩) := by
  cases first <;> (unfold members; rfl)

theorem members_first (name : String) :
    members limit? (fuel + 1) depth true ⟨stringChars name ++ rest, p⟩ =
      member limit? fuel depth (some p) ⟨stringChars name ++ rest, p⟩ := by
  unfold members; rfl

theorem members_next (name : String) :
    members limit? (fuel + 1) depth false ⟨',' :: (stringChars name ++ rest), p⟩ =
      member limit? fuel depth (some p)
        ⟨stringChars name ++ rest, ⟨p.line, p.column + 1⟩⟩ := by
  unfold members; rfl

theorem member_eq (name : String) (here : Mark) (body : List Char) :
    ∃ q, ∀ {node : Node} {d : Cursor} {tail : Members} {e? : Option Cursor},
      value limit? fuel depth ⟨body, q⟩ = (node, some d) →
      members limit? fuel depth false d = (tail, e?) →
      ∃ span behind, member limit? (fuel + 1) depth here ⟨stringChars name ++ ':' :: body, p⟩ =
        (.member here span (.ok name) behind node tail, e?) := by
  obtain ⟨q, hq⟩ := text_stringChars name (':' :: body) p
  refine ⟨⟨q.line, q.column + 1⟩, fun hv ht => ?_⟩
  unfold member
  simp only [hq, blanks_punctuation (.inr (.inr (.inl rfl))), Except.map, String.ofList_toList]
  simp only [Cursor.drop, List.tail_cons, hv, ht]
  exact ⟨_, _, rfl⟩

/-! ### Whole documents -/

/-- A part of the tree that is read without faults, and what is left of the text. -/
def Reads {α β : Type} (document : α → Except Fault β) (reading : Reading α) (b : β)
    (rest : List Char) : Prop :=
  ∃ part q, reading = (part, some ⟨rest, q⟩) ∧ document part = .ok b

variable {limit : Nat} {body : List Char} {j : Json} {js : List Json} {ms : List (String × Json)}

theorem reads_item {mid : List Char} {c : Cursor}
    (hv : Reads Node.document (value limit? fuel depth c) j mid)
    (ht : ∀ q, Reads Items.documents (items limit? fuel depth false ⟨mid, q⟩) js rest) :
    Reads Items.documents (item limit? (fuel + 1) depth c) (j :: js) rest := by
  obtain ⟨node, q, hv, hn⟩ := hv
  obtain ⟨tail, e, ht, hd⟩ := ht q
  refine ⟨_, e, item_eq hv ht, ?_⟩
  rw [Items.documents, hn, hd]
  rfl

theorem reads_member {mid : List Char} {name : String} {here : Mark}
    (hv : ∀ q, Reads Node.document (value limit? fuel depth ⟨body, q⟩) j mid)
    (ht : ∀ q, Reads Members.documents (members limit? fuel depth false ⟨mid, q⟩) ms rest) :
    Reads Members.documents
      (member limit? (fuel + 1) depth here ⟨stringChars name ++ ':' :: body, p⟩)
      ((name, j) :: ms) rest := by
  obtain ⟨q, hm⟩ := @member_eq limit? fuel depth p name here body
  obtain ⟨node, d, hv, hn⟩ := hv q
  obtain ⟨tail, e, ht, hd⟩ := ht d
  obtain ⟨span, behind, hm⟩ := hm hv ht
  refine ⟨_, e, hm, ?_⟩
  rw [Members.documents, hn, hd]
  rfl

theorem reads_array (hd : depth < limit)
    (h : ∀ q, Reads Items.documents (items (some limit) fuel (depth + 1) true ⟨body, q⟩) js rest) :
    Reads Node.document (value (some limit) (fuel + 1) depth ⟨'[' :: body, p⟩) (.array js)
      rest := by
  obtain ⟨tail, e, ht, hj⟩ := h ⟨p.line, p.column + 1⟩
  have free (c : Cursor) : barrier (some limit) depth c = none := if_neg (by omega)
  refine ⟨.array ⟨some p, some ⟨p.line, p.column + 1⟩, some p⟩ none tail, e, ?_, ?_⟩
  · have start : Cursor.blanks ⟨'[' :: body, p⟩ = ⟨'[' :: body, p⟩ := rfl
    unfold value
    simp only [start, Cursor.drop, List.tail_cons, ht, free]
    rfl
  · rw [Node.document, hj]
    rfl

theorem reads_object (hd : depth < limit)
    (h : ∀ q, Reads Members.documents (members (some limit) fuel (depth + 1) true ⟨body, q⟩) ms
      rest) :
    Reads Node.document (value (some limit) (fuel + 1) depth ⟨'\x7b' :: body, p⟩) (.object ms)
      rest := by
  obtain ⟨tail, e, ht, hj⟩ := h ⟨p.line, p.column + 1⟩
  have free (c : Cursor) : barrier (some limit) depth c = none := if_neg (by omega)
  refine ⟨.object ⟨some p, some ⟨p.line, p.column + 1⟩, some p⟩ none tail, e, ?_, ?_⟩
  · have start : Cursor.blanks ⟨'\x7b' :: body, p⟩ = ⟨'\x7b' :: body, p⟩ := rfl
    unfold value
    simp only [start, Cursor.drop, List.tail_cons, ht, free]
    rfl
  · rw [Node.document, hj]
    rfl

theorem reads_string (s : String) :
    Reads Node.document (value limit? (fuel + 1) depth ⟨stringChars s ++ rest, p⟩) (.string s)
      rest := by
  obtain ⟨span, q, ht⟩ := textNode_stringChars s rest p
  refine ⟨.string span (.ok s), q, ?_, rfl⟩
  rw [← ht]
  unfold value
  rfl

/-- A document that starts with a sign or a digit is a numeral. -/
theorem value_numeral {first : Char} (h : first = '-' ∨ isDigit first = true) :
    value limit? (fuel + 1) depth ⟨first :: rest, p⟩ = numeralNode ⟨first :: rest, p⟩ := by
  have hs : Starts first := by
    rcases h with rfl | h
    · simp [Starts]
    · exact starts_of_isDigit h
  have other : ∀ c more, c ≠ '-' → isDigit c = false → first :: rest ≠ c :: more := by
    rintro c more hc hd he
    rw [(List.cons.inj he).1] at h
    rcases h with h | h
    · exact hc h
    · rw [hd] at h; cases h
  unfold value
  simp only [blanks_cons hs]
  split
  case h_1 he => cases he
  -- of the first characters of other documents none is a sign or a digit
  case h_8 he =>
    rw [← (List.cons.inj he).1, if_pos (by simpa using h)]
  all_goals exact absurd ‹_› (other _ _ (by decide) (by decide))

theorem reads_number {v : Int} (h : (Number.integer v).Exact) (hr : Ends rest) :
    Reads Node.document
      (value limit? (fuel + 1) depth ⟨(Number.integer v).text.toList ++ rest, p⟩)
      (.number (.integer v)) rest := by
  obtain ⟨span, ⟨_, q⟩, hn, rfl⟩ := numeralNode_text h hr p
  obtain ⟨first, more, ht, hf⟩ := text_eq_cons v
  refine ⟨.number span (.ok (.integer v)), q, ?_, rfl⟩
  rw [ht, List.cons_append] at hn ⊢
  rw [value_numeral hf, hn]

theorem length_itemChars_pos (js : List Json) : 0 < (itemChars js).length := by
  cases js <;> (rw [itemChars]; simp)

theorem length_memberChars_pos (ms : List (String × Json)) : 0 < (memberChars ms).length := by
  cases ms <;> (rw [memberChars]; simp)

theorem reads_null : Reads Node.document
    (value limit? (fuel + 1) depth ⟨'n' :: 'u' :: 'l' :: 'l' :: rest, p⟩) .null rest := by
  unfold value
  exact ⟨_, _, rfl, rfl⟩

theorem reads_true : Reads Node.document
    (value limit? (fuel + 1) depth ⟨'t' :: 'r' :: 'u' :: 'e' :: rest, p⟩) (.bool true) rest := by
  unfold value
  exact ⟨_, _, rfl, rfl⟩

theorem reads_false : Reads Node.document
    (value limit? (fuel + 1) depth ⟨'f' :: 'a' :: 'l' :: 's' :: 'e' :: rest, p⟩) (.bool false)
    rest := by
  unfold value
  exact ⟨_, _, rfl, rfl⟩

theorem length_chars_pos {j : Json} (h : j.Exact) : 0 < j.chars.length := by
  obtain ⟨first, more, hc, -⟩ := chars_eq_cons h
  rw [hc]
  exact Nat.succ_pos _

mutual

/-- A document is read as it was printed, whatever ends it. -/
theorem value_chars (j : Json) {fuel depth : Nat} {rest : List Char} {p : Place}
    (hf : 3 * j.chars.length ≤ fuel) (hd : depth + j.nest ≤ limit) (he : j.Exact)
    (hr : Ends rest) :
    Reads Node.document (value (some limit) fuel depth ⟨j.chars ++ rest, p⟩) j rest := by
  -- each character pays for a value, a list and an item of it
  obtain ⟨fuel, rfl⟩ : ∃ n, fuel = n + 3 := ⟨fuel - 3, by have := length_chars_pos he; omega⟩
  match j with
  | .null =>
    rw [chars]
    exact reads_null
  | .bool true =>
    rw [chars]
    exact reads_true
  | .bool false =>
    rw [chars]
    exact reads_false
  | .number (.integer v) =>
    rw [chars]
    exact reads_number he hr
  | .string s =>
    rw [chars]
    exact reads_string s
  | .array [] =>
    rw [chars, List.cons_append, List.singleton_append]
    rw [nest] at hd
    exact reads_array (by omega) fun q => by
      rw [items_close]
      exact ⟨_, _, rfl, rfl⟩
  | .array (item :: more) =>
    rw [nest, nestItems] at hd
    obtain ⟨hi, hm⟩ : item.Exact ∧ ExactItems more := he
    rw [chars] at hf ⊢
    simp only [List.cons_append, List.append_assoc, List.length_cons, List.length_append] at hf ⊢
    refine reads_array (by omega) fun q => ?_
    rw [items_first hi]
    exact reads_item (value_chars item (by omega) (by omega) hi (ends_itemChars more rest))
      fun q => items_chars more (by omega) (by omega) hm
  | .object [] =>
    rw [chars, List.cons_append, List.singleton_append]
    rw [nest] at hd
    exact reads_object (by omega) fun q => by
      rw [members_close]
      exact ⟨_, _, rfl, rfl⟩
  | .object ((name, value) :: more) =>
    rw [nest, nestMembers] at hd
    dsimp only at hd
    obtain ⟨hv, hm⟩ : value.Exact ∧ ExactMembers more := he
    rw [chars] at hf ⊢
    simp only [List.cons_append, List.append_assoc, List.length_cons, List.length_append] at hf ⊢
    refine reads_object (by omega) fun q => ?_
    rw [members_first]
    exact reads_member
      (fun q => value_chars value (by omega) (by omega) hv (ends_memberChars more rest))
      fun q => members_chars more (by omega) (by omega) hm

/-- Items are read as they were printed. -/
theorem items_chars (js : List Json) {fuel depth : Nat} {rest : List Char} {p : Place}
    (hf : 3 * (itemChars js).length ≤ fuel) (hd : depth + nestItems js ≤ limit)
    (he : ExactItems js) :
    Reads Items.documents (items (some limit) fuel depth false ⟨itemChars js ++ rest, p⟩) js
      rest := by
  obtain ⟨fuel, rfl⟩ : ∃ n, fuel = n + 3 := ⟨fuel - 3, by have := length_itemChars_pos js; omega⟩
  match js with
  | [] =>
    rw [itemChars, List.singleton_append, items_close]
    exact ⟨_, _, rfl, rfl⟩
  | item :: more =>
    rw [nestItems] at hd
    obtain ⟨hi, hm⟩ : item.Exact ∧ ExactItems more := he
    rw [itemChars] at hf ⊢
    simp only [List.cons_append, List.append_assoc, List.length_cons, List.length_append] at hf ⊢
    rw [items_next hi]
    exact reads_item (value_chars item (by omega) (by omega) hi (ends_itemChars more rest))
      fun q => items_chars more (by omega) (by omega) hm

/-- Members are read as they were printed. -/
theorem members_chars (ms : List (String × Json)) {fuel depth : Nat} {rest : List Char} {p : Place}
    (hf : 3 * (memberChars ms).length ≤ fuel) (hd : depth + nestMembers ms ≤ limit)
    (he : ExactMembers ms) :
    Reads Members.documents (members (some limit) fuel depth false ⟨memberChars ms ++ rest, p⟩) ms
      rest := by
  obtain ⟨fuel, rfl⟩ : ∃ n, fuel = n + 3 := ⟨fuel - 3, by have := length_memberChars_pos ms; omega⟩
  match ms with
  | [] =>
    rw [memberChars, List.singleton_append, members_close]
    exact ⟨_, _, rfl, rfl⟩
  | (name, value) :: more =>
    rw [nestMembers] at hd
    dsimp only at hd
    obtain ⟨hv, hm⟩ : value.Exact ∧ ExactMembers more := he
    rw [memberChars] at hf ⊢
    simp only [List.cons_append, List.append_assoc, List.length_cons, List.length_append] at hf ⊢
    rw [members_next]
    exact reads_member
      (fun q => value_chars value (by omega) (by omega) hv (ends_memberChars more rest))
      fun q => members_chars more (by omega) (by omega) hm

end

end Reader

open Reader

theorem skipBlanks_blank {tail : List Char} (h : ∀ c ∈ tail, c = ' ' ∨ c = '\n') (p : Place) :
    (Cursor.skipBlanks tail p).rest = [] := by
  induction tail generalizing p with
  | nil => rfl
  | cons c rest ih =>
    have hc := h c List.mem_cons_self
    rw [Cursor.skipBlanks, if_pos (by rcases hc with rfl | rfl <;> decide)]
    exact ih (fun c hc => h c (List.mem_cons_of_mem _ hc)) _

/-- A printed document says itself, whatever blanks stand behind it. -/
theorem says_print {j : Json} (he : j.Exact) (hn : j.nest ≤ depthLimit) {tail : List Char}
    (ht : ∀ c ∈ tail, c = ' ' ∨ c = '\n') : Says (j.print ++ String.ofList tail) j := by
  -- blanks end a numeral, so it does not matter which document stands before them
  have ends : Ends tail := by
    intro c more hc
    rcases ht c (by rw [hc]; exact List.mem_cons_self) with rfl | rfl <;> decide
  have fits : 3 * j.chars.length ≤ 3 * (j.chars ++ tail).length + 3 := by
    rw [List.length_append]
    omega
  have shallow : 0 + j.nest ≤ depthLimit := by rwa [Nat.zero_add]
  obtain ⟨node, q, hv, hd⟩ := @value_chars depthLimit j _ 0 tail ⟨1, 0⟩ fits shallow he ends
  have text : (j.print ++ String.ofList tail).toList = j.chars ++ tail := by
    rw [String.toList_append, print, String.toList_ofList, String.toList_ofList]
  have whole : Document.ofText (some depthLimit) (j.print ++ String.ofList tail) =
      ⟨node, none⟩ := by
    simp only [Document.ofText, text, hv]
    simp only [Cursor.blanks, skipBlanks_blank ht]
    rfl
  rw [Says, whole]
  exact ⟨hd, rfl⟩

/-- **A printed document reads as itself**, whatever decoder then looks at it. -/
theorem ofText_print {j : Json} (he : j.Exact) (hn : j.nest ≤ depthLimit) {tail : List Char}
    (ht : ∀ c ∈ tail, c = ' ' ∨ c = '\n') :
    ∃ node : Node, node.document = .ok j ∧ ∀ {α : Type} (d : Decoder α),
      Decoder.ofText d (j.print ++ String.ofList tail) = d node :=
  (says_print he hn ht).ofText

/-- A text that is a printed document says that document. -/
theorem says_of_print {text : String} {j : Json} (printed : j.print = text) (he : j.Exact)
    (hn : j.nest ≤ depthLimit) : Says text j := by
  have said := @says_print j he hn [] nofun
  rwa [String.ofList_nil, String.append_empty, printed] at said

end FormatDaemon.Json
