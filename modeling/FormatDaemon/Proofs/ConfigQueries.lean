import FormatDaemon.Collaborators.Planned
import FormatDaemon.Proofs.RequestOrder

/-!
# The questions of a discovery

Configuration is asked for at most twice: for the file, and where nothing is known of it, for
the file of last resort. The first answer that is not "nothing" is the result.

* `Discovery.Consulted`: what a discovery asks, when, and what it makes of the answers.
* `Way.consulted`, `discover_consulted`: **every discovery consults the engine so, whatever it
  answers**.
-/

namespace FormatDaemon

variable {ε σ : Type}

/-- What an engine said about configuration, if that was the question. -/
def Turn.verdict? : Turn ε → Option (Except EngineError (Option Options))
  | ⟨.perform _ (.resolveConfig ..), reply⟩ => some reply
  | _ => none

/-- The configuration file of last resort is what its variable says, unless that is empty. -/
theorem Environment.defaultConfig?_eq_some_iff {env : Environment} {name : String} :
    env.defaultConfig? = some name ↔ env.get? defaultConfigName = some name ∧ name ≠ "" := by
  unfold defaultConfig?
  rw [Option.filter_eq_some_iff, bne_iff_ne]

namespace Discovery

/-- Whether an answer ends the search: a failure does, and so does an object, with entries or
without. -/
def settles : Except EngineError (Option Options) → Bool
  | .ok none => false
  | .ok (some _) | .error _ => true

/-- A discovery that asks the engine once or twice, unless it is off: first with the file its
source names, and after "nothing" with the file of last resort, if the environment names one;
always afresh, and with the same switch. The first answer that settles the search is the
result. -/
structure Consulted (env : Environment) (engine : ε) (cwd file : Path) (source : ConfigSource)
    (editorconfig : Bool) (ts : List (Turn ε)) (out : Except EngineError (Option Options)) :
    Prop where
  silent : ts = [] ↔ source = .disabled
  few : ts.length ≤ 2
  first : ∀ t, ts[0]? = some t → ∃ config?, source.explicit? cwd = some config? ∧
    t.call = .perform engine (.resolveConfig file ⟨config?, editorconfig, false⟩)
  again : (∃ t, ts[1]? = some t) ↔
    (∃ t, ts[0]? = some t ∧ t.verdict? = some (.ok none)) ∧
      ∃ name, env.get? Environment.defaultConfigName = some name ∧ name ≠ ""
  second : ∀ t, ts[1]? = some t → ∀ name, env.get? Environment.defaultConfigName = some name →
    let default := cwd.join (.ofText name)
    t.call = .perform engine (.resolveConfig (default.parent?.getD default)
      ⟨some default, editorconfig, false⟩)
  settled : out = ((ts.filterMap Turn.verdict?).find? settles).getD (.ok none)

variable {env : Environment} {engine : ε} {cwd file : Path} {source : ConfigSource}
  {editorconfig : Bool} {ts : List (Turn ε)} {out : Except EngineError (Option Options)}

/-- An answer that settles nothing is the result only where there is no other. -/
theorem getD_find?_settles (answer : Except EngineError (Option Options)) :
    ([answer].find? settles).getD (.ok none) = answer := by
  match answer with
  | .ok none => rfl
  | .ok (some _) => rfl
  | .error _ => rfl

/-- The first question of a discovery that is on. -/
theorem first_call {config? : Option Path} (asked : source.explicit? cwd = some config?)
    (reply : Except EngineError (Option Options)) (rest : List (Turn ε)) :
    ∀ t, (⟨Discovery.first engine file config? editorconfig, reply⟩ :: rest)[0]? = some t →
      ∃ config?, source.explicit? cwd = some config? ∧
        t.call = .perform engine (.resolveConfig file ⟨config?, editorconfig, false⟩) := by
  rintro t ht
  obtain rfl := Option.some.inj ht
  exact ⟨config?, asked, rfl⟩

/-- A discovery that ends with its first question. -/
theorem consulted_once {config? : Option Path} (asked : source.explicit? cwd = some config?)
    {answer : Except EngineError (Option Options)}
    (final : answer = .ok none → env.defaultConfig? = none) :
    Consulted env engine cwd file source editorconfig
      [⟨Discovery.first engine file config? editorconfig, answer⟩] answer where
  silent := by
    rw [← @Way.explicit?_eq_none cwd, asked]
    simp
  few := by simp
  first := first_call asked answer []
  again := by
    refine iff_of_false (by simp) ?_
    rintro ⟨⟨t, ht, nothing⟩, name, named⟩
    obtain rfl := Option.some.inj ht
    have unset := final (Option.some.inj nothing)
    rw [Environment.defaultConfig?_eq_some_iff.2 named] at unset
    cases unset
  second := by simp
  settled := (getD_find?_settles answer).symm

/-- **Each way of a discovery consults the engine so.** -/
theorem Way.consulted (h : Way env engine cwd file source editorconfig ts out) :
    Consulted env engine cwd file source editorconfig ts out := by
  cases h with
  | off off =>
    have disabled := explicit?_eq_none.1 off
    constructor <;> simp [disabled]
  | found asked options => exact consulted_once asked nofun
  | refused asked error => exact consulted_once asked nofun
  | nothing asked unset => exact consulted_once asked fun _ => unset
  | fallback asked named =>
    have known := Environment.defaultConfig?_eq_some_iff.1 named
    refine ⟨?_, by simp, first_call asked _ _, ?_, ?_, ?_⟩
    · rw [← @explicit?_eq_none cwd, asked]
      simp
    · exact iff_of_true ⟨_, rfl⟩ ⟨⟨_, rfl, rfl⟩, _, known⟩
    · intro t ht name again
      obtain rfl := Option.some.inj ht
      obtain rfl := Option.some.inj (known.1.symm.trans again)
      rfl
    · exact (getD_find?_settles out).symm

/-- **Every discovery consults the engine so, whatever it answers**, and its calls are these
questions. -/
theorem discover_consulted (env : Environment) (engine : ε) (cwd file : Path)
    (source : ConfigSource) (editorconfig : Bool) (c : Collaborators ε σ) (s : σ) :
    let discovery := discover env engine cwd file source editorconfig
    let turns := discovery.turns c s
    (discovery.run c s).calls = turns.map (·.call) ∧
      Consulted env engine cwd file source editorconfig turns (discovery.run c s).outcome := by
  intro discovery turns
  exact ⟨Dialogue.calls_run c discovery s,
    (way_of_course (Dialogue.course_run c discovery s)).consulted⟩

/-- The root has no parent, so there the file of last resort is asked for at itself; an empty
object is an answer. -/
example :
    let env : Environment := .layered [("PRETTIERD_DEFAULT_CONFIG", "/")] []
    let asked (answers : List (Planned Options)) :=
      ((discover env () (.ofText "/p") (.ofText "/p/a.js") .search true).run Plan.collaborators
        ⟨{ resolveConfig := answers }, []⟩).calls
    let file : Call Unit :=
      .perform () (.resolveConfig (.ofText "/p/a.js") ⟨none, true, false⟩)
    asked [.ok none] =
        [file, .perform () (.resolveConfig (.ofText "/") ⟨some (.ofText "/"), true, false⟩)] ∧
      asked [.ok (some .empty)] = [file] := by
  exact ⟨rfl, rfl⟩

end Discovery

end FormatDaemon
