import FormatDaemon.Collaborators.Helpers
import FormatDaemon.Collaborators.Static
import FormatDaemon.Proofs.Course

/-!
# What is told and what is asked

The events of a dialogue go to a log. Collaborators reply to calls, and what they are told
is not for them.

* `Dialogue.silent`: a dialogue without its events; `course_silent`: its courses are the
  same.
* `Collaborators.Deaf`: collaborators whose replies do not depend on what they are told.
* `Deaf.run_congr`: **with deaf collaborators, dialogues that ask the same run the same**.
* `Helper.deaf`, `Static.deaf`: the collaborators at hand are deaf.
-/

namespace FormatDaemon

variable {ε σ τ α : Type}

namespace Dialogue

/-- A dialogue without its events. -/
def silent : Dialogue ε α → Dialogue ε α
  | .done a => .done a
  | .tell _ next => next.silent
  | .ask call next => .ask call fun reply => (next reply).silent

@[simp] theorem silent_tell (event : Event) (d : Dialogue ε α) :
    (tell event d).silent = d.silent := rfl

@[simp] theorem silent_tellAll (events : List Event) (d : Dialogue ε α) :
    (tellAll events d).silent = d.silent := by
  induction events with
  | nil => rfl
  | cons event rest ih => exact ih

/-- Events are no part of a course. -/
theorem course_silent {d : Dialogue ε α} {ts : List (Turn ε)} {out : α} :
    d.silent.Course ts out ↔ d.Course ts out := by
  induction d generalizing ts with
  | done a => exact Iff.rfl
  | tell event next ih => exact ih
  | ask call next ih =>
    simp only [silent, course_ask]
    refine exists_congr fun reply => exists_congr fun rest => and_congr_right fun _ => ?_
    exact ih reply

/-- Dialogues that ask the same have the same courses. -/
theorem course_congr {d d' : Dialogue ε α} (h : d'.silent = d.silent) {ts : List (Turn ε)}
    {out : α} : d'.Course ts out ↔ d.Course ts out := by
  rw [← course_silent, h, course_silent]

end Dialogue

/-- Collaborators whose replies do not depend on what they are told. They depend on a part
of the memory, the `view`, that calls alone change. -/
structure Collaborators.Deaf (c : Collaborators ε σ) (view : σ → τ) : Prop where
  hear : ∀ event s, view (c.hear event s) = view s
  reply : ∀ call s t, view s = view t →
    (c.reply call s).1 = (c.reply call t).1 ∧ view (c.reply call s).2 = view (c.reply call t).2

namespace Collaborators.Deaf

variable {c : Collaborators ε σ} {view : σ → τ}

/-- The events of a dialogue do not matter. -/
theorem run_silent (h : c.Deaf view) (d : Dialogue ε α) {s t : σ} (hv : view s = view t) :
    (d.silent.run c t).outcome = (d.run c s).outcome ∧
      (d.silent.run c t).calls = (d.run c s).calls ∧
      view (d.silent.run c t).memory = view (d.run c s).memory := by
  induction d generalizing s t with
  | done a => exact ⟨rfl, rfl, hv.symm⟩
  | tell event next ih => exact ih ((h.hear event s).trans hv)
  | ask call next ih =>
    obtain ⟨same, after⟩ := h.reply call s t hv
    obtain ⟨outcome, calls, memory⟩ := ih (c.reply call s).1 after
    simp only [Dialogue.silent, Dialogue.run]
    rw [← same]
    exact ⟨outcome, by rw [calls], memory⟩

/-- **With deaf collaborators, dialogues that ask the same run the same.** -/
theorem run_congr (h : c.Deaf view) {d d' : Dialogue ε α} (hd : d'.silent = d.silent) (s : σ) :
    (d'.run c s).outcome = (d.run c s).outcome ∧ (d'.run c s).calls = (d.run c s).calls ∧
      view (d'.run c s).memory = view (d.run c s).memory := by
  obtain ⟨outcome, calls, memory⟩ := h.run_silent d (t := s) rfl
  obtain ⟨outcome', calls', memory'⟩ := h.run_silent d' (t := s) rfl
  rw [hd] at outcome' calls' memory'
  exact ⟨outcome'.symm.trans outcome, calls'.symm.trans calls, memory'.symm.trans memory⟩

end Collaborators.Deaf

/-- Helpers are started whatever is told. -/
theorem Helper.deaf (system : Helper.System σ) (s : Helper.Setup) :
    (Helper.collaborators system s).Deaf fun m => { m with told := [] } := by
  refine ⟨fun _ _ => rfl, fun call m m' hv => ?_⟩
  obtain ⟨state, launches, told⟩ := m
  obtain ⟨state', launches', told'⟩ := m'
  obtain ⟨rfl, rfl⟩ : state = state' ∧ launches = launches' := by simpa using hv
  have looked : ∀ start? shim? env, (find system s start? shim? env ⟨state, launches, told⟩).1 =
        (find system s start? shim? env ⟨state, launches, told'⟩).1 ∧
      { (find system s start? shim? env ⟨state, launches, told⟩).2 with told := [] } =
        { (find system s start? shim? env ⟨state, launches, told'⟩).2 with told := [] } := by
    intro start? shim? env
    rcases hs : system.start (Lookup.launch s.program shim? start? env) state with ⟨_ | _, _⟩ <;>
      simp only [find, Memory.start, Memory.hear, hs, and_self]
  cases call with
  | locate start shim? env => exact looked (some start) shim? env
  | locateGlobal shim? env => exact looked s.globalPath? shim? env
  | load module shim? env => exact ⟨rfl, rfl⟩
  | perform engine operation =>
    rcases hs : system.start (Exchange.launch s.program engine operation) state with ⟨_ | _, _⟩ <;>
      simp only [collaborators, reply, perform, Memory.start, Memory.hear, hs, and_self]

/-- Static collaborators only remember what they are told. -/
theorem Static.deaf (modules : Static.Modules) :
    (Static.collaborators modules).Deaf fun m => { m with told := [] } := by
  refine ⟨fun _ _ => rfl, fun call s t hv => ?_⟩
  obtain ⟨engine?, lookups, loaded, operations, told⟩ := s
  obtain ⟨engine'?, lookups', loaded', operations', told'⟩ := t
  obtain ⟨rfl, rfl, rfl, rfl⟩ : engine? = engine'? ∧ lookups = lookups' ∧ loaded = loaded' ∧
      operations = operations' := by simpa using hv
  cases call with
  | locate | locateGlobal | load | perform => exact ⟨rfl, rfl⟩

end FormatDaemon
