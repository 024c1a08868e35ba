/-!
# Tables

Environments, option objects and JSON objects are finite maps from names to
values whose order is the order of the names. The entries are kept sorted, so
equal maps are equal tables.

* `get?`: the view of a table.
* `get?_insert`, `get?_erase`, `get?_ofList`, `get?_overlay`, `get?_map`: what the
  operations do to it.
* `ext_get?`: tables with the same view are equal.
* `ofList_entries`: a table is the table of its entries.
* `entries_around`: the entries around one of them.
-/

namespace FormatDaemon

/-- A finite map with its entries in increasing order of their names. -/
structure Table (α : Type) where
  entries : List (String × α)
  sorted : entries.Pairwise (·.1 < ·.1)
  deriving Repr

namespace Table

variable {α β : Type}

instance [DecidableEq α] : DecidableEq (Table α) := fun s t =>
  if h : s.entries = t.entries then
    .isTrue (by cases s; cases t; simp_all)
  else .isFalse (fun e => h (e ▸ rfl))

/-- The table without entries. -/
def empty : Table α := ⟨[], .nil⟩

instance : EmptyCollection (Table α) := ⟨empty⟩

instance : Inhabited (Table α) := ⟨empty⟩

/-- The value under a name. -/
def get? (t : Table α) (name : String) : Option α := t.entries.lookup name

/-- The names, in order. -/
def names (t : Table α) : List String := t.entries.map Prod.fst

/-- The number of entries. -/
def size (t : Table α) : Nat := t.entries.length

/-- Puts an entry at its place in a sorted list, over an entry of that name. -/
def insertEntry (name : String) (value : α) : List (String × α) → List (String × α)
  | [] => [(name, value)]
  | (n, v) :: rest =>
    if name < n then (name, value) :: (n, v) :: rest
    else if name = n then (name, value) :: rest
    else (n, v) :: insertEntry name value rest

theorem mem_insertEntry {name : String} {value : α} {es : List (String × α)}
    {e : String × α} (h : e ∈ insertEntry name value es) : e = (name, value) ∨ e ∈ es := by
  induction es with
  | nil => simpa [insertEntry] using h
  | cons p rest ih =>
    obtain ⟨n, v⟩ := p
    unfold insertEntry at h
    split at h
    · simpa using h
    · split at h
      · simp only [List.mem_cons] at h ⊢
        rcases h with h | h
        · exact .inl h
        · exact .inr (.inr h)
      · simp only [List.mem_cons] at h ⊢
        rcases h with h | h
        · exact .inr (.inl h)
        · rcases ih h with h | h
          · exact .inl h
          · exact .inr (.inr h)

theorem lt_of_not_lt_of_ne {a b : String} (h₁ : ¬ a < b) (h₂ : a ≠ b) : b < a := by
  have hle : b ≤ a := String.not_lt.1 h₁
  rcases Decidable.em (b < a) with h | h
  · exact h
  · exact absurd (String.le_antisymm (String.not_lt.1 h) hle) h₂

theorem pairwise_insertEntry (name : String) (value : α) {es : List (String × α)}
    (h : es.Pairwise (·.1 < ·.1)) : (insertEntry name value es).Pairwise (·.1 < ·.1) := by
  induction es with
  | nil => simp [insertEntry]
  | cons p rest ih =>
    obtain ⟨n, v⟩ := p
    rw [List.pairwise_cons] at h
    unfold insertEntry
    split
    case isTrue hlt =>
      refine List.pairwise_cons.2 ⟨fun e he => ?_, List.pairwise_cons.2 h⟩
      rcases List.mem_cons.1 he with rfl | he
      · exact hlt
      · exact String.lt_trans hlt (h.1 e he)
    case isFalse hlt =>
      split
      case isTrue heq =>
        subst heq
        exact List.pairwise_cons.2 h
      case isFalse hne =>
        refine List.pairwise_cons.2 ⟨fun e he => ?_, ih h.2⟩
        rcases mem_insertEntry he with rfl | he
        · exact lt_of_not_lt_of_ne hlt hne
        · exact h.1 e he

/-- The table with a value under a name, in place of an earlier one. -/
def insert (t : Table α) (name : String) (value : α) : Table α :=
  ⟨insertEntry name value t.entries, pairwise_insertEntry name value t.sorted⟩

/-- The table without a name. -/
def erase (t : Table α) (name : String) : Table α :=
  ⟨t.entries.filter (·.1 != name), t.sorted.filter _⟩

/-- The table of a list of entries; of entries with one name the last stays. -/
def ofList (es : List (String × α)) : Table α :=
  es.foldl (fun t e => t.insert e.1 e.2) empty

/-- All entries of `top`, over those of `base`. -/
def overlay (base top : Table α) : Table α :=
  top.entries.foldl (fun t e => t.insert e.1 e.2) base

/-- The table with a function applied to every value. -/
def map (f : α → β) (t : Table α) : Table β :=
  ⟨t.entries.map fun e => (e.1, f e.2), by
    rw [List.pairwise_map]
    exact t.sorted⟩

/-! ### The view of a table -/

@[simp] theorem get?_empty (name : String) : (empty : Table α).get? name = none := rfl

theorem lookup_cons_pair (name : String) (value : α) (other : String) (es : List (String × α)) :
    ((name, value) :: es).lookup other = if other = name then some value else es.lookup other := by
  rw [List.lookup_cons]
  by_cases h : other = name
  · simp [h]
  · have hb : (other == name) = false := by simpa using h
    simp [h, hb]

theorem lookup_insertEntry (name : String) (value : α) (other : String)
    {es : List (String × α)} (h : es.Pairwise (·.1 < ·.1)) :
    (insertEntry name value es).lookup other =
      if other = name then some value else es.lookup other := by
  induction es with
  | nil => exact lookup_cons_pair name value other []
  | cons p rest ih =>
    obtain ⟨n, v⟩ := p
    rw [List.pairwise_cons] at h
    unfold insertEntry
    split
    · exact lookup_cons_pair name value other _
    · split
      case isTrue heq =>
        subst heq
        simp only [lookup_cons_pair]
        by_cases ho : other = name <;> simp [ho]
      case isFalse hne =>
        simp only [lookup_cons_pair, ih h.2]
        by_cases hn : other = n
        · subst hn
          have : other ≠ name := fun e => hne e.symm
          simp [this]
        · simp [hn]

/-- Inserting changes the value under one name. -/
@[simp] theorem get?_insert (t : Table α) (name : String) (value : α) (other : String) :
    (t.insert name value).get? other = if other = name then some value else t.get? other :=
  lookup_insertEntry name value other t.sorted

theorem lookup_filter_ne (name other : String) (es : List (String × α)) :
    (es.filter (·.1 != name)).lookup other = if other = name then none else es.lookup other := by
  induction es with
  | nil => simp
  | cons p rest ih =>
    obtain ⟨n, v⟩ := p
    by_cases hn : n = name
    · subst hn
      simp only [bne_self_eq_false, Bool.false_eq_true, not_false_eq_true,
        List.filter_cons_of_neg, lookup_cons_pair, ih]
      by_cases ho : other = n <;> simp [ho]
    · have hb : (n != name) = true := by simpa using hn
      simp only [hb, List.filter_cons_of_pos, lookup_cons_pair, ih]
      by_cases ho : other = n
      · subst ho; simp [hn]
      · simp [ho]

/-- Erasing clears the value under one name. -/
@[simp] theorem get?_erase (t : Table α) (name other : String) :
    (t.erase name).get? other = if other = name then none else t.get? other :=
  lookup_filter_ne name other t.entries

theorem lookup_eq_none_of_lt {es : List (String × α)} {name : String}
    (h : ∀ e ∈ es, name < e.1) : es.lookup name = none := by
  induction es with
  | nil => rfl
  | cons p rest ih =>
    obtain ⟨n, v⟩ := p
    have hlt : name < n := h _ List.mem_cons_self
    have hne : name ≠ n := fun e => String.lt_irrefl n (e ▸ hlt)
    rw [lookup_cons_pair, if_neg hne]
    exact ih fun e he => h e (List.mem_cons_of_mem _ he)

theorem entries_eq_of_lookup {es fs : List (String × α)}
    (he : es.Pairwise (·.1 < ·.1)) (hf : fs.Pairwise (·.1 < ·.1))
    (h : ∀ name, es.lookup name = fs.lookup name) : es = fs := by
  induction es generalizing fs with
  | nil =>
    cases fs with
    | nil => rfl
    | cons q _ =>
      have := h q.1
      rw [lookup_cons_pair] at this
      simp at this
  | cons p rest ih =>
    obtain ⟨n, v⟩ := p
    rw [List.pairwise_cons] at he
    cases fs with
    | nil =>
      have := h n
      rw [lookup_cons_pair] at this
      simp at this
    | cons q others =>
      obtain ⟨m, w⟩ := q
      rw [List.pairwise_cons] at hf
      have hnm : n = m := by
        rcases Decidable.em (n < m) with hlt | hge
        · have := h n
          rw [lookup_cons_pair, if_pos rfl, lookup_cons_pair,
            if_neg (fun e : n = m => String.lt_irrefl m (e ▸ hlt)),
            lookup_eq_none_of_lt fun e he' => String.lt_trans hlt (hf.1 e he')] at this
          simp at this
        · rcases Decidable.em (n = m) with e | e
          · exact e
          · have hlt := lt_of_not_lt_of_ne hge e
            have := h m
            rw [lookup_cons_pair, if_neg (fun e' : m = n => e e'.symm), lookup_cons_pair,
              if_pos rfl,
              lookup_eq_none_of_lt fun e he' => String.lt_trans hlt (he.1 e he')] at this
            simp at this
      subst hnm
      have hvw : v = w := by
        have := h n
        simpa [lookup_cons_pair] using this
      subst hvw
      have hrest : rest = others := by
        refine ih he.2 hf.2 fun name => ?_
        by_cases hn : name = n
        · subst hn
          rw [lookup_eq_none_of_lt he.1, lookup_eq_none_of_lt hf.1]
        · have := h name
          simpa [lookup_cons_pair, hn] using this
      rw [hrest]

/-- **Tables with the same view are equal.** -/
theorem ext_get? {s t : Table α} (h : ∀ name, s.get? name = t.get? name) : s = t := by
  obtain ⟨es, he⟩ := s
  obtain ⟨fs, hf⟩ := t
  obtain rfl : es = fs := entries_eq_of_lookup he hf h
  rfl

theorem get?_foldl_insert (es : List (String × α)) (t : Table α) (name : String) :
    (es.foldl (fun t e => t.insert e.1 e.2) t).get? name =
      (es.reverse.lookup name).or (t.get? name) := by
  induction es generalizing t with
  | nil => rfl
  | cons e rest ih =>
    rw [List.foldl_cons, ih, get?_insert, List.reverse_cons, List.lookup_append,
      lookup_cons_pair, Option.or_assoc]
    by_cases h : name = e.1
    · rw [if_pos h, if_pos h, Option.some_or]
    · rw [if_neg h, if_neg h, List.lookup_nil, Option.none_or]

/-- The table of a list has the last entry under each name. -/
@[simp] theorem get?_ofList (es : List (String × α)) (name : String) :
    (ofList es).get? name = es.reverse.lookup name := by
  rw [ofList, get?_foldl_insert, get?_empty, Option.or_none]

/-- Sorted entries have one value for a name, from whichever end it is looked up. -/
theorem lookup_reverse {es : List (String × α)} (h : es.Pairwise (·.1 < ·.1)) (name : String) :
    es.reverse.lookup name = es.lookup name := by
  induction es with
  | nil => rfl
  | cons e rest ih =>
    rw [List.pairwise_cons] at h
    rw [List.reverse_cons, List.lookup_append, ih h.2, lookup_cons_pair, lookup_cons_pair]
    by_cases hn : name = e.1
    · rw [if_pos hn, if_pos hn, hn, lookup_eq_none_of_lt h.1, Option.none_or]
    · rw [if_neg hn, if_neg hn, List.lookup_nil, Option.or_none]

/-- An overlay has the values of its top, and those of its base under other names. -/
@[simp] theorem get?_overlay (base top : Table α) (name : String) :
    (base.overlay top).get? name = (top.get? name).or (base.get? name) := by
  rw [overlay, get?_foldl_insert, lookup_reverse top.sorted]
  rfl

/-- A table is the table of its entries. -/
@[simp] theorem ofList_entries (t : Table α) : ofList t.entries = t := by
  refine ext_get? fun name => ?_
  rw [get?_ofList, lookup_reverse t.sorted]
  rfl

/-- An entry is the value under its name. -/
theorem get?_of_mem (t : Table α) {e : String × α} (h : e ∈ t.entries) :
    t.get? e.1 = some e.2 := by
  obtain ⟨es, hs⟩ := t
  change e ∈ es at h
  change es.lookup e.1 = some e.2
  induction es with
  | nil => cases h
  | cons d rest ih =>
    rw [List.pairwise_cons] at hs
    rw [lookup_cons_pair]
    rcases List.mem_cons.1 h with rfl | h
    · rw [if_pos rfl]
    · have hlt := hs.1 e h
      rw [if_neg fun he : e.1 = d.1 => String.lt_irrefl d.1 (he ▸ hlt), ih hs.2 h]

theorem mem_of_get? {t : Table α} {name : String} {value : α} (h : t.get? name = some value) :
    (name, value) ∈ t.entries := by
  obtain ⟨before, after, entries, -⟩ := List.lookup_eq_some_iff.1 h
  rw [entries]
  exact List.mem_append_right _ List.mem_cons_self

/-- An entry stands once, among entries of other names. -/
theorem entries_around {t : Table α} {name : String} {value : α} (h : t.get? name = some value) :
    ∃ before after, t.entries = before ++ (name, value) :: after ∧
      ∀ e ∈ before ++ after, e.1 ≠ name := by
  obtain ⟨before, after, split⟩ := List.append_of_mem (mem_of_get? h)
  have sorted := t.sorted
  rw [split, List.pairwise_append, List.pairwise_cons] at sorted
  obtain ⟨-, ⟨behind, -⟩, ahead⟩ := sorted
  refine ⟨before, after, split, fun e he same => ?_⟩
  rcases List.mem_append.1 he with he | he
  · have lt : e.1 < name := ahead e he _ List.mem_cons_self
    exact String.lt_irrefl name (same ▸ lt)
  · have lt : name < e.1 := behind e he
    exact String.lt_irrefl name (same ▸ lt)

/-- The names are those with a value. -/
theorem mem_names_iff {t : Table α} {name : String} :
    name ∈ t.names ↔ ∃ value, t.get? name = some value := by
  rw [names, List.mem_map]
  constructor
  · rintro ⟨e, he, rfl⟩
    exact ⟨e.2, t.get?_of_mem he⟩
  · rintro ⟨value, h⟩
    exact ⟨_, mem_of_get? h, rfl⟩

theorem lookup_map (f : α → β) (name : String) (es : List (String × α)) :
    (es.map fun e => (e.1, f e.2)).lookup name = (es.lookup name).map f := by
  induction es with
  | nil => rfl
  | cons e rest ih =>
    rw [List.map_cons, lookup_cons_pair, lookup_cons_pair, ih]
    by_cases h : name = e.1
    · rw [if_pos h, if_pos h, Option.map_some]
    · rw [if_neg h, if_neg h]

@[simp] theorem get?_map (f : α → β) (t : Table α) (name : String) :
    (t.map f).get? name = (t.get? name).map f :=
  lookup_map f name t.entries

end Table

end FormatDaemon
