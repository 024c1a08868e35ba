import FormatDaemon.Proofs.Lines
import FormatDaemon.Proofs.Printing

/-!
# What can cross a line

Between the daemon and a helper everything is a line of text. What can cross it
unchanged are values in normal form with integers of 64 bits, not too deep in each
other, and paths that are text.

* `Json.Portable`, `Options.Portable`: values and options.
* `Operation.Portable`, `Operation.PortableAnswer`: questions and answers.
-/

namespace FormatDaemon

/-! ### Values -/

/-- A value that can stand in an object within an object. -/
structure Json.Portable (j : Json) : Prop where
  exact : j.Exact
  normal : j.normal = j
  shallow : j.nest + 2 ≤ Json.Reader.depthLimit

/-- Options whose values can cross a line. -/
def Options.Portable (o : Options) : Prop := ∀ name j, o.get? name = some j → j.Portable

namespace Json

theorem exactMembers {ms : List (String × Json)} (h : ∀ m ∈ ms, m.2.Exact) : ExactMembers ms := by
  induction ms with
  | nil => trivial
  | cons m rest ih =>
    exact ⟨h m List.mem_cons_self, ih fun m hm => h m (List.mem_cons_of_mem _ hm)⟩

theorem nestMembers_le {ms : List (String × Json)} {n : Nat} (h : ∀ m ∈ ms, m.2.nest ≤ n) :
    nestMembers ms ≤ n := by
  induction ms with
  | nil => exact Nat.zero_le n
  | cons m rest ih =>
    rw [nestMembers]
    exact Nat.max_le.2
      ⟨h m List.mem_cons_self, ih fun m hm => h m (List.mem_cons_of_mem _ hm)⟩

theorem nest_le_nestMembers {ms : List (String × Json)} {m : String × Json} (h : m ∈ ms) :
    m.2.nest ≤ nestMembers ms := by
  induction ms with
  | nil => cases h
  | cons d rest ih =>
    rw [nestMembers]
    rcases List.mem_cons.1 h with rfl | h
    · exact Nat.le_max_left _ _
    · exact Nat.le_trans (ih h) (Nat.le_max_right _ _)

theorem normalMembers_eq {ms : List (String × Json)} (h : ∀ m ∈ ms, m.2.normal = m.2) :
    normalMembers ms = ms := by
  induction ms with
  | nil => rfl
  | cons m rest ih =>
    obtain ⟨name, value⟩ := m
    have hv : value.normal = value := h (name, value) List.mem_cons_self
    rw [normalMembers, hv, ih fun m hm => h m (List.mem_cons_of_mem _ hm)]

/-- An object whose names are in order and whose values are in normal form is in normal form. -/
theorem normal_object {ms : List (String × Json)} (hs : ms.Pairwise (·.1 < ·.1))
    (h : ∀ m ∈ ms, m.2.normal = m.2) : (object ms).normal = object ms := by
  rw [normal, normalMembers_eq h]
  exact congrArg (fun t : Options => object t.entries) (Table.ofList_entries ⟨ms, hs⟩)

end Json

namespace Options

open Json (nestMembers)

variable {o : Options}

theorem Portable.of_mem (h : Portable o) : ∀ m ∈ o.entries, m.2.Portable :=
  fun m hm => h m.1 m.2 (o.get?_of_mem hm)

theorem portable_of_mem (h : ∀ m ∈ o.entries, m.2.Portable) : Portable o :=
  fun name j hj => h (name, j) (Table.mem_of_get? hj)

theorem Portable.exact (h : Portable o) : (Json.ofTable o).Exact :=
  Json.exactMembers fun m hm => (h.of_mem m hm).exact

theorem Portable.nest_le (h : Portable o) : (Json.ofTable o).nest + 1 ≤ Json.Reader.depthLimit := by
  have hn : nestMembers o.entries ≤ Json.Reader.depthLimit - 2 :=
    Json.nestMembers_le fun m hm => by have := (h.of_mem m hm).shallow; omega
  have limit : Json.Reader.depthLimit = 127 := rfl
  rw [Json.ofTable, Json.nest]
  omega

theorem Portable.normal (h : Portable o) : (Json.ofTable o).normal = Json.ofTable o :=
  Json.normal_object o.sorted fun m hm => (h.of_mem m hm).normal

end Options

/-! ### Questions and answers -/

namespace Operation

/-- The options in a question. -/
def options? : Operation → Option Options
  | .format _ options | .check _ options => some options
  | .resolveConfig .. | .fileInfo .. => none

/-- A question that can cross a line. -/
structure Portable (operation : Operation) : Prop where
  paths : ∀ p ∈ operation.paths, p.IsText
  options : ∀ o, operation.options? = some o → Options.Portable o

/-- An answer that can cross a line. -/
def PortableAnswer : (operation : Operation) → operation.Answer → Prop
  | .resolveConfig .., found? => ∀ o, found? = some o → Options.Portable o
  | .fileInfo .., _ | .format .., _ | .check .., _ => True

end Operation

end FormatDaemon
