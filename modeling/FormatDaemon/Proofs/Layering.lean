import FormatDaemon.Collaborators.Static
import FormatDaemon.Proofs.Snapshot

/-!
# Layers of an environment

A base and the changes on top of it are lists in which names may come again. The last
entry with a name counts, and one among the changes counts more than one of the base.

* `layered_congr`: **only the order of entries with one name counts**.
* `layered_entries`: **layers compose**: changes on top of changes are changes in a row.
* `run_snapshot`: an invocation runs the same over its own snapshot without changes.
* `layers_of_request`: **how layers decide the variables of a request**, and that a request
  does not depend on the layer a variable comes from.
-/

namespace FormatDaemon

namespace Environment

variable {α : Type}

/-! ### Entries of one name -/

/-- The entries with a name, in their order. -/
def named (name : String) (entries : List (String × α)) : List (String × α) :=
  entries.filter (·.1 == name)

theorem lookup_named (name : String) (entries : List (String × α)) :
    (named name entries).lookup name = entries.lookup name := by
  unfold named
  induction entries with
  | nil => rfl
  | cons e rest ih =>
    rw [List.filter_cons, Table.lookup_cons_pair]
    by_cases h : name = e.1
    · have own : (e.1 == name) = true := by simp [h]
      rw [if_pos own, Table.lookup_cons_pair, if_pos h, if_pos h]
    · have other : ¬ (e.1 == name) = true := by simpa using fun he => h he.symm
      rw [if_neg other, if_neg h, ih]

/-- The last entry with a name is the last of its entries. -/
theorem lookup_reverse_named (name : String) (entries : List (String × α)) :
    (named name entries).reverse.lookup name = entries.reverse.lookup name := by
  have turned : (named name entries).reverse = named name entries.reverse :=
    (List.filter_reverse).symm
  rw [turned, lookup_named]

/-! ### Layers -/

variable {base base' : List (String × String)} {changes changes' : List (String × Option String)}

theorem ext_get? {env env' : Environment} (h : ∀ name, env.get? name = env'.get? name) :
    env = env' := by
  obtain ⟨vars⟩ := env
  obtain ⟨vars'⟩ := env'
  have same : vars = vars' := Table.ext_get? h
  rw [same]

/-- **Only the order of entries with one name counts.** -/
theorem layered_congr (hb : ∀ name, named name base' = named name base)
    (hc : ∀ name, named name changes' = named name changes) :
    layered base' changes' = layered base changes := by
  refine ext_get? fun name => ?_
  rw [get?_layered, get?_layered, ← lookup_reverse_named name base',
    ← lookup_reverse_named name changes', hb, hc, lookup_reverse_named, lookup_reverse_named]

/-- **Layers compose**: changes on top of changes are changes in a row. -/
theorem layered_entries (base : List (String × String))
    (changes more : List (String × Option String)) :
    layered (layered base changes).vars.entries more = layered base (changes ++ more) := by
  refine ext_get? fun name => ?_
  have below : (layered base changes).vars.entries.reverse.lookup name =
      (layered base changes).get? name := Table.lookup_reverse (layered base changes).vars.sorted _
  rw [get?_layered, get?_layered, below, get?_layered, List.reverse_append, List.lookup_append]
  -- a later change decides, and without one everything is as below
  cases more.reverse.lookup name <;> rfl

@[simp] theorem layered_nil (env : Environment) : layered env.vars.entries [] = env := by
  obtain ⟨vars⟩ := env
  rw [layered, List.foldl_nil, Table.ofList_entries]

end Environment

open Environment

/-! ### Snapshots -/

namespace Base

theorem snapshot_ofList (base : List (String × String)) (changes : List (String × Option String)) :
    (fixed (.ofList base)).snapshot (.ofList changes) = layered base changes := by
  refine ext_get? fun name => ?_
  have below : (fixed (.ofList base)).value? name = base.reverse.lookup name := by
    rw [← Table.get?_ofList]
    exact Table.lookup_reverse (Table.ofList base).sorted name
  rw [get?_snapshot, get?_layered, Table.get?_ofList, below]

theorem snapshot_process (process : List (List UInt8 × List UInt8))
    (changes : List (String × Option String)) :
    (Base.process process).snapshot (.ofList changes) = captured process changes := by
  refine ext_get? fun name => ?_
  have own : (Base.process process).value? name =
      (process.filterMap textVariable?).reverse.lookup name := rfl
  rw [get?_snapshot, captured, get?_layered, Table.get?_ofList, own]

theorem snapshot_fixed (env : Environment) : (fixed env.vars).snapshot .empty = env :=
  layered_nil env

end Base

namespace Invocation

variable {ε σ : Type}

/-- An invocation runs the same over its own snapshot without changes. -/
theorem run_snapshot (isFile : Path → Bool) (base : Base) (i : Invocation) :
    ({ i with clientEnv := .empty } : Invocation).run (ε := ε) isFile
      (.fixed (base.snapshot i.clientEnv).vars) = i.run isFile base := by
  have same : ({ i with clientEnv := .empty } : Invocation).request
      (.fixed (base.snapshot i.clientEnv).vars) = i.request base := by
    unfold request
    rw [Base.snapshot_fixed]
  unfold run
  rw [same]

/-- **How layers decide the variables of a request.** The last change of a variable decides
it, and without one the last entry of the base. So further changes may be put in a row with
the first ones, entries of different names may change places, and a request over a base with
changes goes as it does over their result without any. -/
theorem layers_of_request (isFile : Path → Bool) (base : List (String × String))
    (process : List (List UInt8 × List UInt8)) (changes : List (String × Option String))
    (cwd : Path) (args : List String) (text : String) (c : Collaborators ε σ) (s : σ) :
    let run (below : Base) (clientEnv : Table (Option String)) :=
      ((⟨cwd, args, clientEnv, text⟩ : Invocation).run isFile below).run c s
    (∀ name, (layered base changes).get? name =
      (changes.reverse.lookup name).getD (base.reverse.lookup name)) ∧
    (∀ more, layered (layered base changes).vars.entries more = layered base (changes ++ more)) ∧
    (∀ base' changes', (∀ name, named name base' = named name base) →
      (∀ name, named name changes' = named name changes) →
      layered base' changes' = layered base changes) ∧
    run (.fixed (.ofList base)) (.ofList changes) =
      run (.fixed (layered base changes).vars) .empty ∧
    run (.process process) (.ofList changes) =
      run (.fixed (captured process changes).vars) .empty := by
  intro run
  refine ⟨get?_layered base changes, layered_entries base changes,
    fun base' changes' hb hc => layered_congr hb hc, ?_, ?_⟩
  · have same := run_snapshot (ε := ε) isFile (.fixed (.ofList base))
      ⟨cwd, args, .ofList changes, text⟩
    rw [Base.snapshot_ofList] at same
    simp only [run]
    rw [← same]
  · have same := run_snapshot (ε := ε) isFile (.process process)
      ⟨cwd, args, .ofList changes, text⟩
    rw [Base.snapshot_process] at same
    simp only [run]
    rw [← same]

/-- Setting, removing and setting again, with another variable in between or in front. -/
theorem layers_of_request_again :
    let changes := [("A", some "2"), ("B", none), ("A", none), ("A", some "3")]
    let changes' := [("B", none), ("A", some "2"), ("A", none), ("A", some "3")]
    let base := [("B", "0"), ("A", "1"), ("B", "1")]
    layered base changes' = layered base changes ∧
      (layered base changes).get? "A" = some "3" ∧ (layered base changes).get? "B" = none := by
  intro changes changes' base
  obtain ⟨decided, -, congr, -, -⟩ := @layers_of_request _ Static.Memory (fun _ => false) base []
    changes (.ofText "/p") ["a.js"] "x" (Static.collaborators ⟨none, none⟩)
    ⟨none, [], [], [], []⟩
  have moved : ∀ name, named name changes' = named name changes := by
    intro name
    by_cases ha : name = "A"
    · subst ha; rfl
    · by_cases hb : name = "B"
      · subst hb; rfl
      · have na : ("A" == name) = false := by simpa using Ne.symm ha
        have nb : ("B" == name) = false := by simpa using Ne.symm hb
        simp [named, changes, changes', na, nb]
  refine ⟨congr base changes' (fun _ => rfl) moved, ?_, ?_⟩
  · rw [decided]; rfl
  · rw [decided]; rfl

end Invocation

end FormatDaemon
