import FormatDaemon.Dialogue

/-!
# Courses of a dialogue

Collaborators may reply anything, so a dialogue can take many courses. A course
is the list of its turns, each a call with the reply to it, and the outcome.

* `Turn`: a call and its reply; `Call.Kind`: what a call is about.
* `Dialogue.turns`: the turns of a dialogue with collaborators.
* `Dialogue.Course`: the courses a dialogue can take, whoever replies.
* `course_run`: **a dialogue with collaborators takes one of its courses**.
* `course_bind`: a course of two dialogues is a course of each.
* `Same`, `simulate`: dialogues and collaborators that go the same way.
-/

namespace FormatDaemon

/-- What a call is about. -/
inductive Call.Kind where
  | locate
  | locateGlobal
  | load
  | fileInfo
  | resolveConfig
  | format
  | check
  deriving DecidableEq, Repr

/-- What a question to an engine is about. -/
@[simp] def Operation.kind : Operation → Call.Kind
  | .resolveConfig .. => .resolveConfig
  | .fileInfo .. => .fileInfo
  | .format .. => .format
  | .check .. => .check

/-- What a call is about. -/
@[simp] def Call.kind {ε : Type} : Call ε → Call.Kind
  | .locate .. => .locate
  | .locateGlobal .. => .locateGlobal
  | .load .. => .load
  | .perform _ operation => operation.kind

/-- A call and the reply to it. -/
structure Turn (ε : Type) where
  call : Call ε
  reply : call.Reply

namespace Turn

variable {ε : Type}

/-- What the call is about. -/
def kind (t : Turn ε) : Call.Kind := t.call.kind

/-- Whether the call failed. -/
def failed (t : Turn ε) : Bool := !t.reply.isOk

@[simp] theorem kind_mk {call : Call ε} {reply : call.Reply} :
    (⟨call, reply⟩ : Turn ε).kind = call.kind := rfl

/-- The module a lookup gave. -/
def module? : Turn ε → Option Path
  | ⟨.locate .., .ok module⟩ | ⟨.locateGlobal .., .ok module⟩ => some module
  | _ => none

/-- The engine a load gave. -/
def engine? : Turn ε → Option ε
  | ⟨.load .., .ok engine?⟩ => engine?
  | _ => none

/-- Whether the engine said that the file is not ignored. -/
def spared : Turn ε → Bool
  | ⟨.perform _ (.fileInfo ..), .ok info⟩ => !info.ignored
  | _ => false

/-- The configuration an engine gave. -/
def config? : Turn ε → Option Options
  | ⟨.perform _ (.resolveConfig ..), .ok found?⟩ => found?
  | _ => none

end Turn

section Asked

variable {ε : Type} {k : Call.Kind} {t : Turn ε} {ts us : List (Turn ε)}

/-- Whether some turn is about this. -/
def Asked (k : Call.Kind) (ts : List (Turn ε)) : Prop := ∃ t ∈ ts, t.kind = k

@[simp] theorem asked_append :
    Asked k (ts ++ us) ↔ Asked k ts ∨ Asked k us := by
  simp only [Asked, List.mem_append, or_and_right, exists_or]

@[simp] theorem asked_cons :
    Asked k (t :: ts) ↔ t.kind = k ∨ Asked k ts := by
  simp only [Asked, List.mem_cons, or_and_right, exists_or, exists_eq_left]

@[simp] theorem asked_nil : ¬ Asked k ([] : List (Turn ε)) := by
  simp only [Asked, List.not_mem_nil, false_and, exists_false, not_false_eq_true]

/-- Turns in the order of some kinds are about no other kind. -/
theorem not_asked_of_sublist {ks : List Call.Kind}
    (h : (ts.map Turn.kind).Sublist ks) (hk : k ∉ ks) : ¬ Asked k ts := by
  rintro ⟨t, ht, rfl⟩
  exact hk (h.subset (List.mem_map_of_mem ht))

end Asked

namespace Dialogue

variable {ε σ α β : Type}

/-- The turns of a dialogue with collaborators. -/
def turns (c : Collaborators ε σ) : Dialogue ε α → σ → List (Turn ε)
  | .done _, _ => []
  | .tell event next, s => next.turns c (c.hear event s)
  | .ask call next, s =>
    ⟨call, (c.reply call s).1⟩ :: (next (c.reply call s).1).turns c (c.reply call s).2

/-- The courses a dialogue can take: its turns and its outcome. -/
def Course : Dialogue ε α → List (Turn ε) → α → Prop
  | .done a, ts, b => ts = [] ∧ b = a
  | .tell _ next, ts, b => next.Course ts b
  | .ask call next, ts, b => ∃ reply rest, ts = ⟨call, reply⟩ :: rest ∧ (next reply).Course rest b

@[simp] theorem course_done {a b : α} {ts : List (Turn ε)} :
    (done a).Course ts b ↔ ts = [] ∧ b = a := Iff.rfl

@[simp] theorem course_tell {event : Event} {next : Dialogue ε α} {ts : List (Turn ε)} {b : α} :
    (tell event next).Course ts b ↔ next.Course ts b := Iff.rfl

theorem course_ask {call : Call ε} {next : call.Reply → Dialogue ε α} {ts : List (Turn ε)}
    {b : α} :
    (ask call next).Course ts b ↔
      ∃ reply rest, ts = ⟨call, reply⟩ :: rest ∧ (next reply).Course rest b := Iff.rfl

/-- The calls of a run are those of its turns. -/
theorem calls_run (c : Collaborators ε σ) (d : Dialogue ε α) (s : σ) :
    (d.run c s).calls = (d.turns c s).map (·.call) := by
  induction d generalizing s with
  | done a => rfl
  | tell event next ih => exact ih _
  | ask call next ih =>
    simp only [run, turns, List.map_cons]
    rw [ih]

/-- **A dialogue with collaborators takes one of its courses.** -/
theorem course_run (c : Collaborators ε σ) (d : Dialogue ε α) (s : σ) :
    d.Course (d.turns c s) (d.run c s).outcome := by
  induction d generalizing s with
  | done a => exact ⟨rfl, rfl⟩
  | tell event next ih => exact ih _
  | ask call next ih => exact ⟨_, _, rfl, ih _ _⟩

/-- A course of one dialogue after another is a course of each. -/
theorem course_bind {d : Dialogue ε α} {f : α → Dialogue ε β} {ts : List (Turn ε)} {b : β} :
    (d.bind f).Course ts b ↔
      ∃ before a after, ts = before ++ after ∧ d.Course before a ∧ (f a).Course after b := by
  induction d generalizing ts with
  | done a =>
    constructor
    · intro h
      exact ⟨[], a, ts, rfl, ⟨rfl, rfl⟩, h⟩
    · rintro ⟨_, _, after, rfl, ⟨rfl, rfl⟩, h⟩
      exact h
  | tell event next ih => exact ih
  | ask call next ih =>
    constructor
    · rintro ⟨reply, rest, rfl, h⟩
      obtain ⟨before, a, after, rfl, h₁, h₂⟩ := (ih reply).1 h
      exact ⟨⟨call, reply⟩ :: before, a, after, rfl, ⟨reply, before, rfl, h₁⟩, h₂⟩
    · rintro ⟨_, a, after, rfl, ⟨reply, before, rfl, h₁⟩, h₂⟩
      exact ⟨reply, before ++ after, rfl, (ih reply).2 ⟨before, a, after, rfl, h₁, h₂⟩⟩

/-- A course of a dialogue that goes on after a success ends with its failure, or
goes on. -/
theorem course_andThen {κ κ' : Type} {raise : κ → κ'} {d : Dialogue ε (Except κ α)}
    {f : α → Dialogue ε (Except κ' β)} {ts : List (Turn ε)} {out : Except κ' β} :
    (d.andThen raise f).Course ts out ↔
      (∃ e, d.Course ts (.error e) ∧ out = .error (raise e)) ∨
      ∃ before a after, ts = before ++ after ∧ d.Course before (.ok a) ∧
        (f a).Course after out := by
  unfold andThen
  rw [course_bind]
  constructor
  · rintro ⟨before, a | a, after, rfl, h₁, h₂⟩
    · obtain ⟨rfl, rfl⟩ := h₂
      exact .inl ⟨a, by rwa [List.append_nil], rfl⟩
    · exact .inr ⟨before, a, after, rfl, h₁, h₂⟩
  · rintro (⟨e, h, rfl⟩ | ⟨before, a, after, rfl, h₁, h₂⟩)
    · exact ⟨ts, .error e, [], (List.append_nil ts).symm, h, rfl, rfl⟩
    · exact ⟨before, .ok a, after, rfl, h₁, h₂⟩

/-- Events are no turns. -/
@[simp] theorem course_tellAll {events : List Event} {next : Dialogue ε α} {ts : List (Turn ε)}
    {b : α} : (tellAll events next).Course ts b ↔ next.Course ts b := by
  induction events with
  | nil => exact Iff.rfl
  | cons event rest ih => exact ih

/-! ### Going the same way -/

/-- The turns of one dialogue after another. -/
theorem turns_bind (c : Collaborators ε σ) (d : Dialogue ε α) (f : α → Dialogue ε β) (s : σ) :
    (d.bind f).turns c s =
      d.turns c s ++ (f (d.run c s).outcome).turns c (d.run c s).memory := by
  induction d generalizing s with
  | done a => rfl
  | tell event next ih => exact ih _
  | ask call next ih =>
    simp only [bind, turns, run, List.cons_append]
    rw [ih]

/-- The run of one dialogue after another. -/
theorem run_bind (c : Collaborators ε σ) (d : Dialogue ε α) (f : α → Dialogue ε β) (s : σ) :
    let first := d.run c s
    let second := (f first.outcome).run c first.memory
    (d.bind f).run c s = ⟨second.outcome, first.calls ++ second.calls, second.memory⟩ := by
  induction d generalizing s with
  | done a => rfl
  | tell event next ih => exact ih _
  | ask call next ih =>
    simp only [bind, run, List.cons_append]
    rw [ih]

/-- Two dialogues go the same way with some collaborators. -/
structure Same (c : Collaborators ε σ) (s : σ) (d d' : Dialogue ε α) : Prop where
  run : d.run c s = d'.run c s
  turns : d.turns c s = d'.turns c s

theorem Same.refl (c : Collaborators ε σ) (s : σ) (d : Dialogue ε α) : Same c s d d :=
  ⟨rfl, rfl⟩

theorem turns_tellAll (c : Collaborators ε σ) (events : List Event) (d : Dialogue ε α) (s : σ) :
    (tellAll events d).turns c s = d.turns c (events.foldl (fun s event => c.hear event s) s) := by
  induction events generalizing s with
  | nil => rfl
  | cons event rest ih => exact ih _

theorem Same.tellAll {c : Collaborators ε σ} {events : List Event} {s : σ} {d d' : Dialogue ε α}
    (h : Same c (events.foldl (fun s event => c.hear event s) s) d d') :
    Same c s (tellAll events d) (tellAll events d') := by
  induction events generalizing s with
  | nil => exact h
  | cons event rest ih => exact ⟨(ih h).run, (ih h).turns⟩

theorem Same.tell {c : Collaborators ε σ} {event : Event} {s : σ} {d d' : Dialogue ε α}
    (h : Same c (c.hear event s) d d') : Same c s (.tell event d) (.tell event d') :=
  ⟨h.run, h.turns⟩

theorem Same.ask {c : Collaborators ε σ} {s : σ} {call : Call ε}
    {next next' : call.Reply → Dialogue ε α}
    (h : Same c (c.reply call s).2 (next (c.reply call s).1) (next' (c.reply call s).1)) :
    Same c s (.ask call next) (.ask call next') := by
  constructor
  · simp only [Dialogue.run]
    rw [h.run]
  · simp only [Dialogue.turns]
    rw [h.turns]

/-- After a common beginning it is enough to go the same way from where that ends. -/
theorem Same.bind {c : Collaborators ε σ} {s : σ} {d : Dialogue ε α} {f f' : α → Dialogue ε β}
    (h : Same c (d.run c s).memory (f (d.run c s).outcome) (f' (d.run c s).outcome)) :
    Same c s (d.bind f) (d.bind f') := by
  induction d generalizing s with
  | done a => exact h
  | tell event next ih => exact ⟨(ih h).run, (ih h).turns⟩
  | ask call next ih => exact Same.ask (ih _ h)

/-! ### Simulation -/

/-- What holds of every reply holds of every turn. -/
theorem forall_turns {c : Collaborators ε σ} {P : Turn ε → Prop}
    (h : ∀ call s, P ⟨call, (c.reply call s).1⟩) (d : Dialogue ε α) (s : σ) :
    ∀ t ∈ d.turns c s, P t := by
  induction d generalizing s with
  | done a => intro t ht; cases ht
  | tell event next ih => exact ih _
  | ask call next ih =>
    intro t ht
    rcases List.mem_cons.1 ht with rfl | ht
    · exact h call s
    · exact ih _ _ t ht

/-- **Collaborators that give the same replies have the same dialogue**, as long as only
calls are made on which they agree. -/
theorem simulate {τ : Type} {c : Collaborators ε σ} {c' : Collaborators ε τ} {R : σ → τ → Prop}
    {good : Call ε → Prop} (hear : ∀ event s t, R s t → R (c.hear event s) (c'.hear event t))
    (reply : ∀ call s t, good call → R s t →
      (c'.reply call t).1 = (c.reply call s).1 ∧ R (c.reply call s).2 (c'.reply call t).2)
    (d : Dialogue ε α) {s : σ} {t : τ} (related : R s t) (h : ∀ u ∈ d.turns c s, good u.call) :
    (d.run c' t).outcome = (d.run c s).outcome ∧ (d.run c' t).calls = (d.run c s).calls ∧
      R (d.run c s).memory (d.run c' t).memory := by
  induction d generalizing s t with
  | done a => exact ⟨rfl, rfl, related⟩
  | tell event next ih => exact ih (hear event s t related) h
  | ask call next ih =>
    obtain ⟨same, after⟩ := reply call s t (h _ List.mem_cons_self) related
    obtain ⟨outcome, calls, memory⟩ :=
      ih (c.reply call s).1 after fun u hu => h u (List.mem_cons_of_mem _ hu)
    -- with the same reply the same dialogue goes on
    rw [← same] at outcome calls memory
    simp only [run]
    rw [← same]
    exact ⟨outcome, by rw [calls], memory⟩

end Dialogue

end FormatDaemon
