import FormatDaemon.Invocation

/-!
# Variables of a request

The environment of a request is a base with the changes of a client on top. One variable
of it is decided by the last change of it, and by the base if there is none.

* `get?_layered`, `get?_snapshot`: **the value of a variable**.
* `Environment.SwitchesOn`, `isOn_iff`: the values that switch on.
* `localOnly_iff`: when the engine must come from the project.
-/

namespace FormatDaemon

namespace Environment

theorem get?_foldl_change (changes : List (String × Option String)) (vars : Table String)
    (name : String) :
    (changes.foldl change vars).get? name =
      (changes.reverse.lookup name).getD (vars.get? name) := by
  induction changes generalizing vars with
  | nil => rfl
  | cons c rest ih =>
    obtain ⟨changed, value?⟩ := c
    rw [List.foldl_cons, ih, List.reverse_cons, List.lookup_append, Table.lookup_cons_pair]
    cases rest.reverse.lookup name with
    | some later => rfl
    | none =>
      -- without a later change this one decides
      cases value? with
      | none =>
        rw [change, Table.get?_erase]
        split <;> rfl
      | some value =>
        rw [change, Table.get?_insert]
        split <;> rfl

/-- **The value of a variable**: that of its last change, if there is one. -/
theorem get?_layered (base : List (String × String)) (changes : List (String × Option String))
    (name : String) :
    (layered base changes).get? name =
      (changes.reverse.lookup name).getD (base.reverse.lookup name) := by
  rw [layered, get?, get?_foldl_change, Table.get?_ofList]

/-! ### Switches -/

/-- A value that switches on: trimmed, it is not empty, and in small letters it is none of
the words for "off". -/
def SwitchesOn (value : String) : Prop :=
  Text.trim value ≠ "" ∧
    ∀ off ∈ ["0", "false", "no", "off"], (Text.trim value).toList.map Char.toLower ≠ off.toList

theorem isOn_iff (value : String) : isOn value = true ↔ SwitchesOn value := by
  have small : ∀ off ∈ offSpellings, off.toList.map Char.toLower = off.toList := by decide
  have spelled : offSpellings.any (Text.eqIgnoreAsciiCase (Text.trim value)) = true ↔
      ∃ off ∈ offSpellings, (Text.trim value).toList.map Char.toLower = off.toList := by
    rw [List.any_eq_true]
    refine exists_congr fun off => and_congr_right fun ho => ?_
    rw [Text.eqIgnoreAsciiCase, beq_iff_eq, small off ho]
  unfold isOn SwitchesOn
  rw [Bool.and_eq_true, bne_iff_ne, Bool.not_eq_true', ← Bool.not_eq_true, spelled]
  simp only [not_exists, not_and]
  exact Iff.rfl

theorem localOnly_iff {env : Environment} :
    env.localOnly = true ↔ ∃ value, env.get? localOnlyName = some value ∧ SwitchesOn value := by
  unfold localOnly flag
  cases env.get? localOnlyName with
  | none => simp
  | some value => simp [isOn_iff]

end Environment

namespace Base

/-- The variables of a base that are text, in their order. -/
def textVariables : Base → List (String × String)
  | .fixed vars => vars.entries
  | .process vars => vars.filterMap Environment.textVariable?

/-- The value of a variable without any changes. -/
def value? (base : Base) (name : String) : Option String := base.textVariables.reverse.lookup name

theorem snapshot_eq (base : Base) (changes : Table (Option String)) :
    base.snapshot changes = .layered base.textVariables changes.entries := by
  cases base <;> rfl

/-- **The value of a variable in a request**: the client's, if it changes the variable. -/
theorem get?_snapshot (base : Base) (changes : Table (Option String)) (name : String) :
    (base.snapshot changes).get? name = (changes.get? name).getD (base.value? name) := by
  rw [snapshot_eq, Environment.get?_layered, Table.lookup_reverse changes.sorted]
  rfl

end Base

end FormatDaemon
