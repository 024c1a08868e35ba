import FormatDaemon.Proofs.RequestCalls
import FormatDaemon.Proofs.RequestOrder
import FormatDaemon.Proofs.Snapshot

/-!
# Staying within the project

With the switch for it on, an engine must come from the project, and what is installed
globally has no influence on a request.

* `Collaborators.AlikeBut`: collaborators that only differ on one kind of call.
* `asked_locateGlobal_iff`: when the global install is searched.
* `local_only_isolated`: **a request that may not leave the project, or need not, does not
  depend on the global install**, and the client has the last word on whether it may.
-/

namespace FormatDaemon

variable {ε σ τ α : Type}

/-- Collaborators that reply alike, with memories that stay related, except to one kind
of call. -/
structure Collaborators.AlikeBut (k : Call.Kind) (c : Collaborators ε σ) (c' : Collaborators ε τ)
    (R : σ → τ → Prop) : Prop where
  hear : ∀ event s t, R s t → R (c.hear event s) (c'.hear event t)
  reply : ∀ call s t, call.kind ≠ k → R s t →
    (c'.reply call t).1 = (c.reply call s).1 ∧ R (c.reply call s).2 (c'.reply call t).2

/-- A dialogue without calls of that kind runs the same with both. -/
theorem Collaborators.AlikeBut.run_eq {k : Call.Kind} {c : Collaborators ε σ}
    {c' : Collaborators ε τ} {R : σ → τ → Prop} (h : AlikeBut k c c' R) (d : Dialogue ε α)
    {s : σ} {t : τ} (hR : R s t) (hk : ¬ Asked k (d.turns c s)) :
    (d.run c' t).outcome = (d.run c s).outcome ∧ (d.run c' t).calls = (d.run c s).calls := by
  have others : ∀ u ∈ d.turns c s, u.call.kind ≠ k := fun u hu he => hk ⟨u, hu, he⟩
  obtain ⟨outcome, calls, -⟩ := Dialogue.simulate h.hear h.reply d hR others
  exact ⟨outcome, calls⟩

/-- Static collaborators with the same module in the project differ on global lookups only. -/
theorem Static.alikeBut (project? globally? globally'? : Option Path) :
    (Static.collaborators ⟨project?, globally?⟩).AlikeBut .locateGlobal
      (Static.collaborators ⟨project?, globally'?⟩) Eq := by
  refine ⟨fun event s t h => h ▸ rfl, fun call s t hk h => ?_⟩
  subst h
  cases call with
  | locateGlobal => exact absurd rfl hk
  | locate | load | perform => exact ⟨rfl, rfl⟩

/-- **When the global install is searched**: exactly after a failed search of the project,
unless the engine must come from there. -/
theorem Request.asked_locateGlobal_iff (isFile : Path → Bool) (r : Request)
    (c : Collaborators ε σ) (s : σ) :
    Asked .locateGlobal ((r.run isFile).turns c s) ↔
      (∃ t ∈ (r.run isFile).turns c s, t.kind = .locate ∧ t.failed) ∧ r.env.localOnly = false := by
  have course := Dialogue.course_run c (r.run isFile) s
  unfold run at course ⊢
  cases ha : Arguments.ofTokens? r.args with
  | error error => simp [Dialogue.turns]
  | ok args =>
    simp only [ha] at course ⊢
    exact (way_of_course course).orderly.everywhere

namespace Invocation

variable {isFile : Path → Bool} {base : Base} {i : Invocation}

/-- **A request that may not leave the project, or need not, does not depend on the global
install.** Whatever the base says, the client has the last word on whether it may. -/
theorem local_only_isolated (isFile : Path → Bool) (base : Base) (i : Invocation)
    (c : Collaborators ε σ) (s : σ) :
    let env := base.snapshot i.clientEnv
    let turns := (i.run isFile base).turns c s
    ((∃ value, env.get? Environment.localOnlyName = some value ∧ Environment.SwitchesOn value) ∨
        (∀ t ∈ turns, t.kind = .locate → t.failed = false) →
      ¬ Asked .locateGlobal turns ∧
      ∀ (c' : Collaborators ε τ) (R : σ → τ → Prop) (t : τ), c.AlikeBut .locateGlobal c' R →
        R s t →
        ((i.run isFile base).run c' t).outcome = ((i.run isFile base).run c s).outcome ∧
        ((i.run isFile base).run c' t).calls = ((i.run isFile base).run c s).calls) ∧
    ∀ change, i.clientEnv.get? Environment.localOnlyName = some change →
      (Asked .locateGlobal turns ↔
        (∃ t ∈ turns, t.kind = .locate ∧ t.failed) ∧
          ∀ value, change = some value → ¬ Environment.SwitchesOn value) := by
  intro env turns
  have asked : Asked .locateGlobal turns ↔
      (∃ t ∈ turns, t.kind = .locate ∧ t.failed) ∧ env.localOnly = false := by
    simp only [turns, turns_run]
    exact Request.asked_locateGlobal_iff isFile (i.request base) c s
  refine ⟨fun h => ?_, fun change hc => ?_⟩
  · have quiet : ¬ Asked .locateGlobal turns := by
      rw [asked]
      rintro ⟨⟨t, ht, hk, hf⟩, free⟩
      rcases h with on | found
      · rw [Environment.localOnly_iff.2 on] at free
        cases free
      · rw [found t ht hk] at hf
        cases hf
    exact ⟨quiet, fun c' R t alike hR => alike.run_eq _ hR quiet⟩
  · have decided : env.get? Environment.localOnlyName = change := by
      rw [Base.get?_snapshot, hc]
      rfl
    rw [asked, ← Bool.not_eq_true, Environment.localOnly_iff, decided]
    simp only [not_exists, not_and]

/-- A client that keeps to the project over a base that does not, and one that leaves it
over a base that would not. -/
theorem local_only_isolated_yes :
    let request (change : Option String) : Invocation :=
      ⟨.ofText "/p", ["a.js"], .ofList [("PRETTIERD_LOCAL_PRETTIER_ONLY", change)], "x"⟩
    let base (value : String) : Base := .fixed (.ofList [("PRETTIERD_LOCAL_PRETTIER_ONLY", value)])
    let ending (globally : Path) := ((request (some " Yes ")).run (fun _ => false) (base "off")).run
      (Static.collaborators ⟨none, some globally⟩) ⟨some {}, [], [], [], []⟩
    (ending (.ofText "/evil")).outcome = (ending (.ofText "/good")).outcome ∧
      (ending (.ofText "/evil")).calls = (ending (.ofText "/good")).calls ∧
      Asked .locateGlobal (((request none).run (fun _ => false) (base "1")).turns
        (Static.collaborators ⟨none, none⟩) ⟨some {}, [], [], [], []⟩) := by
  intro request base ending
  have on : Environment.SwitchesOn " Yes " := by
    unfold Environment.SwitchesOn
    decide
  obtain ⟨isolated, -⟩ := @local_only_isolated _ _ Static.Memory (fun _ => false) (base "off")
    (request (some " Yes ")) (Static.collaborators ⟨none, some (.ofText "/good")⟩)
    ⟨some {}, [], [], [], []⟩
  obtain ⟨-, decided⟩ := @local_only_isolated _ _ Static.Memory (fun _ => false) (base "1")
    (request none) (Static.collaborators ⟨none, none⟩) ⟨some {}, [], [], [], []⟩
  obtain ⟨outcome, calls⟩ :=
    (isolated (.inl ⟨" Yes ", by decide, on⟩)).2 _ Eq _ (Static.alikeBut none _ _) rfl
  refine ⟨outcome, calls, ?_⟩
  rw [decided none (by decide)]
  exact ⟨⟨_, List.mem_cons_self, rfl, rfl⟩, nofun⟩

end Invocation

end FormatDaemon
