import FormatDaemon.Proofs.Utf8
import FormatDaemon.Settings.Loading

/-!
# Which layer decides a setting

A setting is decided by the uppermost layer it is in, and among the variables by the last one
that is for it. Variables for other settings do not matter, wherever they stand.

* `get?_over`: which of two layers decides a setting.
* `Variable.get?_foldl_apply`: variables for other settings.
* `Variable.Sets`, `Variable.Sets.get?_layer`: **the last variable for a setting decides it**.
-/

namespace FormatDaemon.Settings

theorem get?_membersOver {es : List (String × Json)} (sorted : es.Pairwise (·.1 < ·.1))
    (base : Layer) (name : String) :
    (membersOver base es).get? name =
      match es.lookup name with
      | some j => some (valueOver (base.get? name) j)
      | none => base.get? name := by
  induction es generalizing base with
  | nil => rfl
  | cons e rest ih =>
    obtain ⟨n, j⟩ := e
    obtain ⟨first, later⟩ := List.pairwise_cons.1 sorted
    rw [membersOver, ih later, Table.get?_insert, Table.lookup_cons_pair]
    by_cases h : name = n
    · subst h
      -- entries are sorted, so none behind the first has its name
      have gone : rest.lookup name = none :=
        Table.lookup_eq_none_of_lt fun e he => first e he
      simp only [gone, if_true]
    · simp only [if_neg h]

/-- Which layer decides a setting. -/
theorem get?_over (above below : Layer) (name : String) :
    (above.over below).get? name =
      match above.get? name with
      | some j => some (valueOver (below.get? name) j)
      | none => below.get? name :=
  get?_membersOver above.sorted below name

namespace Variable

variable {setting text : String} {entry : List UInt8 × List UInt8}

/-- A variable that is not for a setting. -/
def Apart (setting : String) (entry : List UInt8 × List UInt8) : Prop :=
  ∀ inner, names? (Utf8.decodeLossy entry.1) ≠ some (setting :: inner)

theorem get?_apply (apart : Apart setting entry) (settings : Layer) :
    (apply settings entry).get? setting = settings.get? setting := by
  unfold apply
  split
  next n rest named =>
    have other : setting ≠ n := by
      rintro rfl
      exact apart rest named
    rw [Table.get?_insert, if_neg other]
  next => rfl

/-- Variables that are not for a setting leave it alone. -/
theorem get?_foldl_apply {entries : List (List UInt8 × List UInt8)}
    (apart : ∀ entry ∈ entries, Apart setting entry) (settings : Layer) :
    (entries.foldl apply settings).get? setting = settings.get? setting := by
  induction entries generalizing settings with
  | nil => rfl
  | cons entry rest ih =>
    rw [List.foldl_cons, ih fun e he => apart e (List.mem_cons_of_mem _ he),
      get?_apply (apart entry List.mem_cons_self)]

/-- A variable for a setting itself sets it. -/
theorem apply_named {key : List UInt8} (named : names? (Utf8.decodeLossy key) = some [setting])
    (settings : Layer) :
    apply settings (key, Utf8.encode text) = settings.insert setting (value text) := by
  unfold apply
  simp only [Utf8.decodeLossy_encode, named]
  rfl

/-- An environment whose last variable for a setting is a text. -/
def Sets (setting text : String) (vars : List (List UInt8 × List UInt8)) : Prop :=
  ∃ before key after, vars = before ++ (key, Utf8.encode text) :: after ∧
    names? (Utf8.decodeLossy key) = some [setting] ∧ ∀ entry ∈ after, Apart setting entry

/-- **The last variable for a setting decides it.** -/
theorem Sets.get?_layer {vars : List (List UInt8 × List UInt8)} (h : Sets setting text vars) :
    (layer vars).get? setting = some (value text) := by
  obtain ⟨before, key, after, rfl, named, apart⟩ := h
  rw [layer, List.foldl_append, List.foldl_cons, get?_foldl_apply apart, apply_named named,
    Table.get?_insert, if_pos rfl]

end Variable

end FormatDaemon.Settings
