import FormatDaemon.Proofs.FlagTokens

/-!
# The option table

Among tokens with one key the last one counts, whichever way each of them spells the option,
and that is all that the order of tokens decides.

* `Flag.lastValue?`: the value of the last token with a key; `get?_tableOf`: **the table of a
  list of tokens holds the last value under each key**.
* `Flag.named`: the tokens with a key; `tableOf_congr`: **only the order of tokens with one key
  counts**.
* `tableOf_append`: **more tokens are laid over the table**.
* `tableOf_decided`: all of this, for all lists of tokens.
-/

namespace FormatDaemon.Flag

/-! ### The last value -/

/-- The value of the last token with a name. -/
def lastValue? (tokens : List String) (name : String) : Option Value :=
  (tokens.reverse.find? fun token => (entry token).1 == name).map fun token => (entry token).2

theorem lookup_map_entry (tokens : List String) (name : String) :
    (tokens.map entry).lookup name =
      (tokens.find? fun token => (entry token).1 == name).map fun token => (entry token).2 := by
  induction tokens with
  | nil => rfl
  | cons token rest ih =>
    rw [List.map_cons, Table.lookup_cons_pair, ih]
    by_cases h : name = (entry token).1
    · rw [if_pos h, List.find?_cons_of_pos (by simp [h]), Option.map_some]
    · rw [if_neg h, List.find?_cons_of_neg (by simpa using fun e => h e.symm)]

/-- **The last token with a name decides.** -/
theorem get?_tableOf (tokens : List String) (name : String) :
    (tableOf tokens).get? name = lastValue? tokens name := by
  rw [tableOf, Table.get?_ofList, ← List.map_reverse, lookup_map_entry, lastValue?]

theorem lastValue?_append (tokens more : List String) (name : String) :
    lastValue? (tokens ++ more) name = (lastValue? more name).or (lastValue? tokens name) := by
  unfold lastValue?
  rw [List.reverse_append, List.find?_append, Option.map_or]

/-- A token with another name says nothing. -/
theorem lastValue?_cons_of_ne {token name : String} (other : (entry token).1 ≠ name)
    (rest : List String) : lastValue? (token :: rest) name = lastValue? rest name := by
  unfold lastValue?
  rw [List.reverse_cons, List.find?_append, List.find?_cons_of_neg (by simpa using other),
    List.find?_nil, Option.or_none]

/-- A token in front of others with other names is the last one with its name. -/
theorem lastValue?_append_cons {before after : List String} {token name : String}
    (named : (entry token).1 = name) (last : ∀ t ∈ after, (entry t).1 ≠ name) :
    lastValue? (before ++ token :: after) name = some (entry token).2 := by
  have others : after.reverse.find? (fun t => (entry t).1 == name) = none := by
    rw [List.find?_eq_none]
    intro t ht
    simpa using last t (List.mem_reverse.1 ht)
  unfold lastValue?
  rw [List.reverse_append, List.reverse_cons, List.append_assoc, List.find?_append, others,
    Option.none_or, List.singleton_append, List.find?_cons_of_pos (by simp [named])]
  rfl

/-- The value under a key is that of a token with no other of its key behind it. -/
theorem lastValue?_eq_some_iff {tokens : List String} {key : String} {value : Value} :
    lastValue? tokens key = some value ↔ ∃ before token after,
      tokens = before ++ token :: after ∧ entry token = (key, value) ∧
        ∀ later ∈ after, (entry later).1 ≠ key := by
  constructor
  · intro h
    obtain ⟨token, found, rfl⟩ := Option.map_eq_some_iff.1 h
    -- the search comes from the end, so what it passes by stands behind the token
    obtain ⟨keyed, after, before, cut, others⟩ := List.find?_eq_some_iff_append.1 found
    refine ⟨before.reverse, token, after.reverse, ?_, ?_, fun later hl => ?_⟩
    · rw [← List.reverse_inj, cut]
      simp
    · rw [← beq_iff_eq.1 keyed]
    · simpa using others later (List.mem_reverse.1 hl)
  · rintro ⟨before, token, after, rfl, said, others⟩
    rw [lastValue?_append_cons (by rw [said]) others, said]

/-- There is a value under the keys of the tokens. -/
theorem exists_lastValue?_iff {tokens : List String} {key : String} :
    (∃ value, lastValue? tokens key = some value) ↔ ∃ token ∈ tokens, (entry token).1 = key := by
  unfold lastValue?
  rw [← Option.isSome_iff_exists, Option.isSome_map, List.find?_isSome]
  simp only [List.mem_reverse, beq_iff_eq]

/-! ### Tokens of one name -/

/-- The tokens with a name, in their order. -/
def named (name : String) (tokens : List String) : List String :=
  tokens.filter fun token => (entry token).1 == name

theorem lastValue?_named (tokens : List String) (name : String) :
    lastValue? (named name tokens) name = lastValue? tokens name := by
  unfold lastValue? named
  rw [← List.filter_reverse, List.find?_filter]
  congr 2
  funext token
  simp only [and_self, Bool.decide_eq_true]

/-- Tokens of different names may change places. -/
theorem named_swap {a b : String} (h : (entry a).1 ≠ (entry b).1) (rest : List String)
    (name : String) : named name (a :: b :: rest) = named name (b :: a :: rest) := by
  unfold named
  simp only [List.filter_cons]
  by_cases ha : (entry a).1 = name
  · have hb : ¬ (entry b).1 = name := fun hb => h (ha.trans hb.symm)
    simp [ha, hb]
  · simp [ha]

/-- **Only the order of tokens with one name counts.** -/
theorem tableOf_congr {tokens tokens' : List String}
    (h : ∀ name, named name tokens = named name tokens') : tableOf tokens = tableOf tokens' := by
  refine Table.ext_get? fun name => ?_
  rw [get?_tableOf, get?_tableOf, ← lastValue?_named tokens, h name, lastValue?_named]

/-! ### Tables of tokens -/

/-- **More tokens are laid over the table.** -/
theorem tableOf_append (tokens more : List String) :
    tableOf (tokens ++ more) = (tableOf tokens).overlay (tableOf more) := by
  refine Table.ext_get? fun name => ?_
  rw [Table.get?_overlay, get?_tableOf, get?_tableOf, get?_tableOf, lastValue?_append]

/-- The keys of the table are those of the tokens. -/
theorem mem_names_tableOf {tokens : List String} {key : String} :
    key ∈ (tableOf tokens).names ↔ ∃ token ∈ tokens, (entry token).1 = key := by
  rw [Table.mem_names_iff, ← exists_lastValue?_iff]
  simp only [get?_tableOf]

/-- **A token with another of its key behind it says nothing.** -/
theorem tableOf_overruled {earlier later : String} (same : (entry earlier).1 = (entry later).1)
    (before between after : List String) :
    tableOf (before ++ earlier :: between ++ later :: after) =
      tableOf (before ++ between ++ later :: after) := by
  refine Table.ext_get? fun name => ?_
  rw [get?_tableOf, get?_tableOf, lastValue?_append, lastValue?_append (before ++ between)]
  by_cases said : ∃ value, lastValue? (later :: after) name = some value
  · obtain ⟨value, hv⟩ := said
    rw [hv, Option.some_or, Option.some_or]
  · -- nothing under the name from the later token on, so the earlier one has another name
    have other : ¬ (entry earlier).1 = name := by
      rintro rfl
      exact said (exists_lastValue?_iff.2 ⟨later, List.mem_cons_self, same.symm⟩)
    rw [lastValue?_append before, lastValue?_cons_of_ne other, lastValue?_append before]

/-- **What decides the option table.** More tokens are laid over it; it has the value of the
last token under each of their keys, and no other key, and no dash or equals sign in a key;
however two tokens spell an option, the later one overrules the earlier; and tokens of different
keys may change places. -/
theorem tableOf_decided (tokens more : List String) :
    tableOf (tokens ++ more) = (tableOf tokens).overlay (tableOf more) ∧
      (∀ key value, (tableOf tokens).get? key = some value ↔ ∃ before token after,
        tokens = before ++ token :: after ∧ entry token = (key, value) ∧
          ∀ later ∈ after, (entry later).1 ≠ key) ∧
      (∀ key, key ∈ (tableOf tokens).names ↔ ∃ token ∈ tokens, (entry token).1 = key) ∧
      (∀ key ∈ (tableOf tokens).names, '-' ∉ key.toList ∧ '=' ∉ key.toList) ∧
      (∀ (name : String) (s t : Spelling), s.Spells name ∨ s.Spells (camelCase name) →
        t.Spells name ∨ t.Spells (camelCase name) → ∀ between,
          tableOf (tokens ++ s.token :: between ++ t.token :: more) =
            tableOf (tokens ++ between ++ t.token :: more)) ∧
      ∀ tokens', (∀ key, named key tokens' = named key tokens) →
        tableOf tokens' = tableOf tokens := by
  have keyed : ∀ (name : String) (s : Spelling), s.Spells name ∨ s.Spells (camelCase name) →
      (entry s.token).1 = camelCase name := by
    rintro name s (spelled | spelled)
    · exact spelled.key_eq
    · rw [spelled.key_eq, camelCase_camelCase]
  refine ⟨tableOf_append tokens more, fun key value => ?_, fun key => mem_names_tableOf, ?_, ?_,
    fun tokens' same => tableOf_congr same⟩
  · rw [get?_tableOf]
    exact lastValue?_eq_some_iff
  · intro key hk
    obtain ⟨token, -, rfl⟩ := mem_names_tableOf.1 hk
    exact not_mem_key token
  · intro name s t hs ht between
    exact tableOf_overruled ((keyed name s hs).trans (keyed name t ht).symm) tokens between more

/-- Spellings that do not look alike. -/
example : (tableOf ["--no-x=", "--a--b", "--", "--x=1", "---aB=y=2", "-="]).entries =
    [("", .switch true), ("aB", .text "y=2"), ("x", .number (.integer 1))] := by decide

end FormatDaemon.Flag
