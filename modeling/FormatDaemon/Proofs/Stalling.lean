import FormatDaemon.Helper.Pipes
import FormatDaemon.Helper.Rehearsed
import FormatDaemon.Proofs.Lines
import Mathlib.Logic.Relation
import Mathlib.Tactic.ByContra

/-!
# When an exchange stalls

The daemon reads standard error only once it has its line of response, and the helper writes
its response only once it has got rid of its diagnostics. So diagnostics that do not fit into
a pipe stop both sides.

* `Sound`: what every state of an exchange has in common; `sound`: that it has.
* `weight`: what every step makes smaller.
* `exists_step`: diagnostics that fit leave somebody something to do.
* `jammed`: diagnostics that do not fit keep both sides where they are.
* `exchange_stalls`: **exactly the exchanges with more diagnostics than a pipe holds stall**,
  and all others finish with what both sides had to say.
-/

namespace FormatDaemon.Helper.Pipes

variable {capacity : Nat} {talk : Talk} {s t : State} {p q : Pipe}

/-! ### Pipes -/

namespace Pipe

/-- All bytes that pass through a pipe. -/
def all (p : Pipe) : List UInt8 := p.arrived ++ p.held ++ p.ahead

/-- The way that the bytes still have to go. -/
def way (p : Pipe) : Nat := 2 * p.ahead.length + p.held.length

theorem Push.all_eq (push : p.Push capacity q) : q.all = p.all := by
  obtain ⟨bytes, -, -⟩ := push
  simp [all]

theorem Push.way_lt (push : p.Push capacity q) : q.way < p.way := by
  obtain ⟨bytes, some_bytes, -⟩ := push
  have := List.length_pos_iff.2 some_bytes
  simp only [way, List.length_append]
  omega

theorem Push.held_lt (push : p.Push capacity q) : p.held.length < capacity := by
  obtain ⟨bytes, some_bytes, room⟩ := push
  have := List.length_pos_iff.2 some_bytes
  rw [List.length_append] at room
  simp only
  omega

theorem Push.held_le (push : p.Push capacity q) : q.held.length ≤ capacity := by
  obtain ⟨bytes, -, room⟩ := push
  exact room

theorem Push.arrived_eq (push : p.Push capacity q) : q.arrived = p.arrived := by
  obtain ⟨bytes, -, -⟩ := push
  rfl

theorem Pull.all_eq (pull : p.Pull q) : q.all = p.all := by
  obtain ⟨bytes, -⟩ := pull
  simp [all]

theorem Pull.way_lt (pull : p.Pull q) : q.way < p.way := by
  obtain ⟨bytes, some_bytes⟩ := pull
  have := List.length_pos_iff.2 some_bytes
  simp only [way, List.length_append]
  omega

theorem Pull.held_le (pull : p.Pull q) : q.held.length ≤ p.held.length := by
  obtain ⟨bytes, -⟩ := pull
  simp

theorem Pull.ahead_eq (pull : p.Pull q) : q.ahead = p.ahead := by
  obtain ⟨bytes, -⟩ := pull
  rfl

theorem Pull.held_ne (pull : p.Pull q) : p.held ≠ [] := by
  obtain ⟨bytes, some_bytes⟩ := pull
  simp [some_bytes]

/-- A byte can be put into a pipe that is not full. -/
theorem exists_push (some_ahead : p.ahead ≠ []) (room : p.held.length < capacity) :
    ∃ q, p.Push capacity q := by
  obtain ⟨ahead, held, arrived⟩ := p
  cases ahead with
  | nil => exact absurd rfl some_ahead
  | cons byte rest => exact ⟨_, .intro [byte] (by simp) (by simpa [Nat.succ_le_iff] using room)⟩

/-- A byte can be taken out of a pipe that is not empty. -/
theorem exists_pull (some_held : p.held ≠ []) : ∃ q, p.Pull q := by
  obtain ⟨ahead, held, arrived⟩ := p
  cases held with
  | nil => exact absurd rfl some_held
  | cons byte rest => exact ⟨_, .intro [byte] (by simp)⟩

end Pipe

/-! ### Every step brings the end nearer -/

/-- How many steps a daemon has ahead. -/
def DaemonStage.rank : DaemonStage → Nat
  | .sending => 4
  | .listening => 3
  | .draining => 2
  | .waiting => 1
  | .finished => 0

/-- How many steps a helper has ahead. -/
def HelperStage.rank : HelperStage → Nat
  | .reading => 3
  | .complaining => 2
  | .answering => 1
  | .gone => 0

/-- What is still to be done in an exchange. -/
def weight (s : State) : Nat :=
  s.stdin.way + s.stdout.way + s.stderr.way + s.daemon.rank + s.helper.rank

theorem weight_lt (step : Step capacity s t) : weight t < weight s := by
  cases step with
  | send _ push | complain _ push | answer _ _ push =>
    have := push.way_lt
    simp only [weight]
    omega
  | hear _ _ pull | drain _ pull | take _ pull =>
    have := pull.way_lt
    simp only [weight]
    omega
  | close stage | hangUp stage | settle stage | reap stage
  | complete stage | turn stage | breakOff stage | exit stage =>
    simp only [weight, stage, DaemonStage.rank, HelperStage.rank]
    omega

/-- No exchange goes on for ever. -/
theorem wellFounded_step : WellFounded fun t s => Step capacity s t :=
  Subrelation.wf weight_lt (measure weight).wf

/-- From every state an exchange goes on to one in which it can go no further. -/
theorem exists_stuck (s : State) :
    ∃ t, Relation.ReflTransGen (Step capacity) s t ∧ Stuck capacity t := by
  induction s using (@wellFounded_step capacity).induction with
  | _ s ih =>
    by_cases stuck : Stuck capacity s
    · exact ⟨s, .refl, stuck⟩
    · obtain ⟨t, step⟩ := not_forall_not.1 stuck
      obtain ⟨u, later, stuck⟩ := ih t step
      exact ⟨u, .head step later, stuck⟩

/-! ### What every state has in common -/

/-- What every state of an exchange has in common. -/
structure Sound (capacity : Nat) (talk : Talk) (s : State) : Prop where
  request : s.stdin.all = talk.request
  response : s.stdout.all = talk.response
  diagnostics : s.stderr.all = talk.diagnostics
  fits : s.stderr.held.length ≤ capacity
  /-- Standard input is closed behind the whole request. -/
  sent : s.daemon ≠ .sending → s.stdin.ahead = []
  /-- The helper does nothing else before it has the whole request. -/
  taken : s.helper ≠ .reading → s.daemon ≠ .sending ∧ s.stdin.held = []
  /-- The daemon does not look at standard error before it has its response. -/
  unread : s.daemon.listens → s.stderr.arrived = []
  /-- The helper does not respond before it has got rid of its diagnostics. -/
  silent : s.helper = .reading ∨ s.helper = .complaining →
    s.stdout.held = [] ∧ s.stdout.arrived = []
  rid : s.helper = .answering ∨ s.helper = .gone → s.stderr.ahead = []
  /-- The helper breaks off only if nobody listens. -/
  answered : s.helper = .gone → s.daemon.listens → s.stdout.ahead = []
  heard : s.daemon.listens = false →
    newline ∈ s.stdout.arrived ∨ s.stdout.held = [] ∧ s.stdout.ahead = []
  ended : s.daemon = .waiting ∨ s.daemon = .finished → s.helper = .gone
  drained : s.daemon = .waiting ∨ s.daemon = .finished → s.stderr.held = []

theorem sound_start : Sound capacity talk (start talk) where
  request := rfl
  response := rfl
  diagnostics := rfl
  fits := Nat.zero_le _
  sent := fun sending => absurd rfl sending
  taken := fun reading => absurd rfl reading
  unread := fun _ => rfl
  silent := fun _ => ⟨rfl, rfl⟩
  rid := nofun
  answered := nofun
  heard := nofun
  ended := nofun
  drained := nofun

/-- A daemon that has heard all it wants to hear goes on. -/
theorem Sound.goOn {stage : DaemonStage} (sound : Sound capacity talk s)
    (sent : s.daemon ≠ .sending) (deaf : stage.listens = false)
    (heard : newline ∈ s.stdout.arrived ∨ s.stdout.held = [] ∧ s.stdout.ahead = [])
    (ended : stage = .waiting ∨ stage = .finished → s.helper = .gone ∧ s.stderr.held = []) :
    Sound capacity talk { s with daemon := stage } :=
  { sound with
    sent := fun _ => sound.sent sent
    taken := fun reading =>
      ⟨fun (sending : stage = .sending) => absurd deaf (by rw [sending]; nofun),
        (sound.taken reading).2⟩
    unread := fun listens => absurd (deaf.symm.trans listens) nofun
    answered := fun _ listens => absurd (deaf.symm.trans listens) nofun
    heard := fun _ => heard
    ended := fun late => (ended late).1
    drained := fun late => (ended late).2 }

/-- A helper that has nothing more to write, or nobody to write to, leaves. -/
theorem Sound.leave (sound : Sound capacity talk s) (stage : s.helper = .answering)
    (answered : s.daemon.listens → s.stdout.ahead = []) :
    Sound capacity talk { s with helper := .gone } :=
  { sound with
    taken := fun _ => sound.taken (by rw [stage]; nofun)
    silent := nofun
    rid := fun _ => sound.rid (.inl stage)
    answered := fun _ => answered
    ended := fun _ => rfl }

/-- Every step keeps what the states have in common. -/
theorem Sound.step (sound : Sound capacity talk s) (step : Step capacity s t) :
    Sound capacity talk t := by
  -- a pipe keeps all bytes that go through it, and a side that goes on to its next stage knows
  -- what the guard of the step says; everything else stays
  cases step with
  | send stage push =>
    exact { sound with
      request := push.all_eq.trans sound.request
      sent := fun sending => absurd stage sending
      taken := fun reading => absurd stage (sound.taken reading).1 }
  | close stage done =>
    exact { sound with
      sent := fun _ => done
      taken := fun reading => absurd stage (sound.taken reading).1
      unread := fun _ => sound.unread (by rw [stage]; rfl)
      answered := fun gone _ => sound.answered gone (by rw [stage]; rfl)
      heard := nofun
      ended := nofun
      drained := nofun }
  | hear stage _ pull =>
    have listens : s.daemon.listens = true := by rw [stage]; rfl
    exact { sound with
      response := pull.all_eq.trans sound.response
      silent := fun early => absurd (sound.silent early).1 pull.held_ne
      answered := fun gone _ => pull.ahead_eq.trans (sound.answered gone listens)
      heard := fun deaf => absurd (listens.symm.trans deaf) nofun }
  | hangUp stage heard =>
    -- a helper that is gone while somebody listens has written all it had to write
    have written : s.helper = .gone → s.stdout.ahead = [] := fun gone =>
      sound.answered gone (by rw [stage]; rfl)
    refine sound.goOn (by rw [stage]; nofun) rfl ?_ nofun
    exact heard.imp id fun closed => ⟨closed.2, written closed.1⟩
  | drain stage pull =>
    exact { sound with
      diagnostics := pull.all_eq.trans sound.diagnostics
      fits := Nat.le_trans pull.held_le sound.fits
      unread := fun listens => absurd listens (by simp [stage, DaemonStage.listens])
      rid := fun late => pull.ahead_eq.trans (sound.rid late)
      drained := fun late => absurd late (by simp [stage]) }
  | settle stage gone empty =>
    exact sound.goOn (by rw [stage]; nofun) rfl (sound.heard (by rw [stage]; rfl))
      fun _ => ⟨gone, empty⟩
  | reap stage gone =>
    exact sound.goOn (by rw [stage]; nofun) rfl (sound.heard (by rw [stage]; rfl))
      fun _ => ⟨gone, sound.drained (.inl stage)⟩
  | take stage pull =>
    exact { sound with
      request := pull.all_eq.trans sound.request
      sent := fun sending => pull.ahead_eq.trans (sound.sent sending)
      taken := fun reading => absurd stage reading }
  | complete stage begun empty =>
    exact { sound with
      taken := fun _ => ⟨begun, empty⟩
      silent := fun _ => sound.silent (.inl stage)
      rid := nofun
      answered := nofun
      ended := fun late => nomatch stage.symm.trans (sound.ended late) }
  | complain stage push =>
    exact { sound with
      diagnostics := push.all_eq.trans sound.diagnostics
      fits := push.held_le
      unread := fun listens => push.arrived_eq.trans (sound.unread listens)
      rid := fun late => absurd late (by simp [stage])
      drained := fun late => nomatch stage.symm.trans (sound.ended late) }
  | turn stage done =>
    exact { sound with
      taken := fun _ => sound.taken (by rw [stage]; nofun)
      silent := nofun
      rid := fun _ => done
      answered := nofun
      ended := fun late => nomatch stage.symm.trans (sound.ended late) }
  | answer stage listens push =>
    exact { sound with
      response := push.all_eq.trans sound.response
      silent := fun early => absurd early (by simp [stage])
      answered := fun gone => nomatch stage.symm.trans gone
      heard := fun deaf => absurd (listens.symm.trans deaf) nofun }
  | breakOff stage deaf _ =>
    exact sound.leave stage fun listens => absurd (deaf.symm.trans listens) nofun
  | exit stage done => exact sound.leave stage fun _ => done

/-- The states that an exchange can come to. -/
abbrev Reachable (capacity : Nat) (talk : Talk) : State → Prop :=
  Relation.ReflTransGen (Step capacity) (start talk)

theorem Reachable.sound (reachable : Reachable capacity talk s) : Sound capacity talk s := by
  induction reachable with
  | refl => exact sound_start
  | tail _ step ih => exact ih.step step

/-! ### Diagnostics that fit -/

theorem exists_step_of_reading (positive : 0 < capacity) (stage : s.helper = .reading) :
    ∃ t, Step capacity s t := by
  by_cases empty : s.stdin.held = []
  · by_cases sending : s.daemon = .sending
    · by_cases done : s.stdin.ahead = []
      · exact ⟨_, .close sending done⟩
      · obtain ⟨p, push⟩ := Pipe.exists_push done (by rw [empty]; exact positive)
        exact ⟨_, .send sending push⟩
    · exact ⟨_, .complete stage sending empty⟩
  · obtain ⟨p, pull⟩ := Pipe.exists_pull empty
    exact ⟨_, .take stage pull⟩

theorem exists_step_of_complaining (room : s.stderr.held.length < capacity ∨ s.stderr.ahead = [])
    (stage : s.helper = .complaining) : ∃ t, Step capacity s t := by
  by_cases done : s.stderr.ahead = []
  · exact ⟨_, .turn stage done⟩
  · obtain ⟨p, push⟩ := Pipe.exists_push done (room.resolve_right done)
    exact ⟨_, .complain stage push⟩

/-- Whoever listens can do something as long as the response is on its way. -/
theorem exists_step_of_listening (stage : s.daemon = .listening)
    (coming : s.stdout.held ≠ [] ∨ s.helper = .gone) : ∃ t, Step capacity s t := by
  by_cases heard : s.Heard
  · exact ⟨_, .hangUp stage heard⟩
  · obtain ⟨no_line, open_or_held⟩ := not_or.1 heard
    have held : s.stdout.held ≠ [] := coming.elim id fun gone empty =>
      open_or_held ⟨gone, empty⟩
    obtain ⟨p, pull⟩ := Pipe.exists_pull held
    exact ⟨_, .hear stage no_line pull⟩

theorem exists_step_of_answering (sound : Sound capacity talk s) (positive : 0 < capacity)
    (stage : s.helper = .answering) : ∃ t, Step capacity s t := by
  by_cases done : s.stdout.ahead = []
  · exact ⟨_, .exit stage done⟩
  cases listens : s.daemon.listens with
  | false => exact ⟨_, .breakOff stage listens done⟩
  | true =>
    by_cases empty : s.stdout.held = []
    · obtain ⟨p, push⟩ := Pipe.exists_push done (by rw [empty]; exact positive)
      exact ⟨_, .answer stage listens push⟩
    · -- the helper has its request, so the daemon has sent it
      have begun := (sound.taken (by rw [stage]; nofun)).1
      have listening : s.daemon = .listening := by
        cases at_ : s.daemon <;> simp_all [DaemonStage.listens]
      exact exists_step_of_listening listening (.inl empty)

theorem exists_step_of_gone (sound : Sound capacity talk s) (stage : s.helper = .gone)
    (unfinished : s.daemon ≠ .finished) : ∃ t, Step capacity s t := by
  cases at_ : s.daemon with
  | sending => exact absurd at_ (sound.taken (by rw [stage]; nofun)).1
  | listening => exact exists_step_of_listening at_ (.inr stage)
  | draining =>
    by_cases empty : s.stderr.held = []
    · exact ⟨_, .settle at_ stage empty⟩
    · obtain ⟨p, pull⟩ := Pipe.exists_pull empty
      exact ⟨_, .drain at_ pull⟩
  | waiting => exact ⟨_, .reap at_ stage⟩
  | finished => exact absurd at_ unfinished

/-- **Diagnostics that fit into a pipe leave somebody something to do** until the daemon has
finished. -/
theorem exists_step (sound : Sound capacity talk s) (positive : 0 < capacity)
    (fit : talk.diagnostics.length ≤ capacity) (unfinished : s.daemon ≠ .finished) :
    ∃ t, Step capacity s t := by
  cases stage : s.helper with
  | reading => exact exists_step_of_reading positive stage
  | complaining =>
    refine exists_step_of_complaining ?_ stage
    -- as long as some of the diagnostics are ahead, the others do not fill the pipe
    have length : s.stderr.held.length + s.stderr.ahead.length ≤ talk.diagnostics.length := by
      rw [← sound.diagnostics]
      simp only [Pipe.all, List.length_append]
      omega
    rcases Nat.eq_zero_or_pos s.stderr.ahead.length with none_ahead | some_ahead
    · exact .inr (List.length_eq_zero_iff.1 none_ahead)
    · exact .inl (by omega)
  | answering => exact exists_step_of_answering sound positive stage
  | gone => exact exists_step_of_gone sound stage unfinished

/-! ### Diagnostics that do not fit -/

/-- Both sides wait: the daemon has heard nothing, the helper has not got rid of its
diagnostics. -/
structure Jammed (s : State) : Prop where
  daemon : s.daemon.listens
  helper : s.helper = .reading ∨ s.helper = .complaining

/-- **Diagnostics that do not fit into a pipe keep both sides where they are.** -/
theorem Jammed.step (jammed : Jammed s) (sound : Sound capacity talk s)
    (excess : capacity < talk.diagnostics.length) (step : Step capacity s t) : Jammed t := by
  cases step with
  | send | hear | take | complain => exact ⟨jammed.daemon, jammed.helper⟩
  | close => exact ⟨rfl, jammed.helper⟩
  | complete => exact ⟨jammed.daemon, .inr rfl⟩
  | hangUp _ heard =>
    -- nothing came out of a helper that is still there
    have silent := (sound.silent jammed.helper).2
    rcases heard with line | ⟨gone, -⟩
    · rw [silent] at line
      cases line
    · exact absurd jammed.helper (by simp [gone])
  | turn _ done =>
    -- all diagnostics would be in the pipe, which does not hold them
    have all := sound.diagnostics
    rw [Pipe.all, sound.unread jammed.daemon, done, List.nil_append, List.append_nil] at all
    exact absurd sound.fits (by rw [all]; omega)
  | drain stage | settle stage | reap stage =>
    exact absurd jammed.daemon (by simp [stage, DaemonStage.listens])
  | answer stage | breakOff stage | exit stage =>
    exact absurd jammed.helper (by simp [stage])

theorem Reachable.jammed (excess : capacity < talk.diagnostics.length)
    (reachable : Reachable capacity talk s) : Jammed s := by
  induction reachable with
  | refl => exact ⟨rfl, .inl rfl⟩
  | tail earlier step ih => exact ih.step (Reachable.sound earlier) excess step

theorem Jammed.unfinished (jammed : Jammed s) : s.daemon ≠ .finished := by
  intro finished
  have := jammed.daemon
  rw [finished] at this
  cases this

/-! ### Exchanges -/

/-- What the two sides know of each other once the daemon has finished. -/
theorem Sound.of_finished (sound : Sound capacity talk s) (finished : s.daemon = .finished) :
    s.stdin.arrived = talk.request ∧ s.stderr.arrived = talk.diagnostics ∧
      Exchange.firstLine s.stdout.arrived = Exchange.firstLine talk.response := by
  have gone := sound.ended (.inr finished)
  refine ⟨?_, ?_, ?_⟩
  · rw [← sound.request, Pipe.all, (sound.taken (by rw [gone]; nofun)).2,
      sound.sent (by rw [finished]; nofun), List.append_nil, List.append_nil]
  · rw [← sound.diagnostics, Pipe.all, sound.drained (.inr finished), sound.rid (.inr gone),
      List.append_nil, List.append_nil]
  · rw [← sound.response, Pipe.all]
    rcases sound.heard (by rw [finished]; rfl) with line | ⟨held, ahead⟩
    · rw [List.append_assoc, Exchange.firstLine_append_of_mem line]
    · rw [held, ahead, List.append_nil, List.append_nil]

/-- An exchange can stall if and only if its diagnostics do not fit into a pipe. -/
theorem exists_stuck_iff (talk : Talk) (positive : 0 < capacity) :
    (∃ s, Reachable capacity talk s ∧ s.daemon ≠ .finished ∧ Stuck capacity s) ↔
      capacity < talk.diagnostics.length := by
  constructor
  · rintro ⟨s, reachable, unfinished, stuck⟩
    by_contra fit
    obtain ⟨t, step⟩ := exists_step reachable.sound positive (Nat.le_of_not_lt fit) unfinished
    exact stuck t step
  · intro excess
    obtain ⟨s, reachable, stuck⟩ := @exists_stuck capacity (start talk)
    exact ⟨s, reachable, (Reachable.jammed excess reachable).unfinished, stuck⟩

/-- An exchange whose diagnostics fit into a pipe finishes from wherever it is. -/
theorem Reachable.exists_finished (reachable : Reachable capacity talk s)
    (positive : 0 < capacity) (fit : talk.diagnostics.length ≤ capacity) :
    ∃ t, Relation.ReflTransGen (Step capacity) s t ∧ t.daemon = .finished := by
  obtain ⟨t, later, stuck⟩ := @exists_stuck capacity s
  have sound := Reachable.sound (reachable.trans later)
  refine ⟨t, later, ?_⟩
  by_contra unfinished
  obtain ⟨u, step⟩ := exists_step sound positive fit unfinished
  exact stuck u step

/-- **Exactly the exchanges with more diagnostics than a pipe holds stall.** Such an exchange
never finishes, whatever it does. Any other finishes from wherever it is, and then the helper
has read the whole request, and the daemon the first line of the response and all of the
diagnostics. -/
theorem exchange_stalls (talk : Talk) (positive : 0 < capacity) :
    ((∃ s, Reachable capacity talk s ∧ s.daemon ≠ .finished ∧ Stuck capacity s) ↔
        capacity < talk.diagnostics.length) ∧
      (capacity < talk.diagnostics.length →
        ∀ s, Reachable capacity talk s → s.daemon ≠ .finished) ∧
      (talk.diagnostics.length ≤ capacity → ∀ s, Reachable capacity talk s →
        ∃ t, Relation.ReflTransGen (Step capacity) s t ∧ t.daemon = .finished) ∧
      ∀ s, Reachable capacity talk s → s.daemon = .finished →
        s.stdin.arrived = talk.request ∧ s.stderr.arrived = talk.diagnostics ∧
          Exchange.firstLine s.stdout.arrived = Exchange.firstLine talk.response := by
  refine ⟨exists_stuck_iff talk positive, ?_, ?_, ?_⟩
  · intro excess s reachable
    exact (Reachable.jammed excess reachable).unfinished
  · intro fit s reachable
    exact reachable.exists_finished positive fit
  · intro s reachable finished
    exact reachable.sound.of_finished finished

/-- What passes through the pipes if a helper complains of so many bytes. -/
def chatter (count : Nat) : Talk where
  request := [123, 125, 10]
  diagnostics := List.replicate count 120
  response := [123, 125, 10]

/-- One byte more than a pipe holds stalls an exchange, a pipe full does not. -/
theorem exchange_stalls_chatter :
    0 < Rehearsed.pipeCapacity ∧
      (∃ s, Reachable Rehearsed.pipeCapacity (chatter 65537) s ∧ s.daemon ≠ .finished ∧
        Stuck Rehearsed.pipeCapacity s) ∧
      ∃ t, Reachable Rehearsed.pipeCapacity (chatter 65536) t ∧ t.daemon = .finished := by
  have positive : 0 < Rehearsed.pipeCapacity := by decide
  have length (count : Nat) : (chatter count).diagnostics.length = count :=
    List.length_replicate
  refine ⟨positive, (exchange_stalls (chatter 65537) positive).1.2 ?_,
    (exchange_stalls (chatter 65536) positive).2.2.1 ?_ _ .refl⟩
  · rw [length]
    decide
  · rw [length]
    decide

/-- The daemon waits for a response, the helper for room on standard error. -/
def standstill : State where
  daemon := .listening
  helper := .complaining
  stdin := ⟨[], [], [123, 125, 10]⟩
  stdout := ⟨[123, 125, 10], [], []⟩
  stderr := ⟨[120], List.replicate Rehearsed.pipeCapacity 120, []⟩

/-- An exchange comes to a standstill: the helper has read its request and has filled
standard error, which the daemon does not read. -/
theorem reachable_standstill :
    Reachable Rehearsed.pipeCapacity (chatter 65537) standstill ∧
      standstill.daemon ≠ .finished ∧ Stuck Rehearsed.pipeCapacity standstill := by
  refine ⟨?_, nofun, ?_⟩
  · have full : List.replicate 65537 (120 : UInt8) =
        List.replicate Rehearsed.pipeCapacity 120 ++ [120] := List.replicate_succ'
    rw [Reachable, start, chatter, full]
    -- the request goes through at once, and as many diagnostics as there is room for
    refine .head (.send rfl (.intro [123, 125, 10] nofun ?_)) (.head (.close rfl rfl) ?_)
    · decide
    refine .head (.take rfl (.intro [123, 125, 10] nofun)) (.head (.complete rfl nofun rfl) ?_)
    refine .head (.complain rfl (.intro (List.replicate Rehearsed.pipeCapacity 120) ?_ ?_)) .refl
    · exact List.ne_nil_of_length_pos (by rw [List.length_replicate]; decide)
    · exact Nat.le_of_eq List.length_replicate
  · intro t step
    -- the guard of every step fails, mostly because the stage is another one
    cases step with
    | hear _ _ pull => exact pull.held_ne rfl
    | hangUp _ heard => exact heard.elim nofun fun closed => nomatch closed.1
    | complain _ push => exact absurd push.held_lt (by simp [standstill])
    | turn _ done => cases done
    | send stage | close stage | drain stage | settle stage | reap stage => cases stage
    | take stage | complete stage | answer stage | breakOff stage | exit stage => cases stage

end FormatDaemon.Helper.Pipes

namespace FormatDaemon.Helper.Rehearsed

open Pipes

/-- What passes through the pipes between the daemon and a rehearsed helper. -/
def Step.talk (step : Step) (input : List UInt8) : Talk := ⟨input, step.stderr, step.stdout⟩

/-- A rehearsed helper stalls just if its exchange can come to a standstill. -/
theorem Step.stalls_iff {step : Step} (reads : step.reads = true) (input : List UInt8) :
    step.stalls = true ↔ ∃ s, Reachable pipeCapacity (step.talk input) s ∧
      s.daemon ≠ .finished ∧ Stuck pipeCapacity s := by
  rw [exists_stuck_iff _ (by decide), Step.stalls, reads, Bool.true_and, decide_eq_true_iff]
  rfl

/-- If it does not stall, the two sides find in the pipes what its run says. -/
theorem Step.run_of_finished {step : Step} (reads : step.reads = true) {input : List UInt8}
    {s : State} (reachable : Reachable pipeCapacity (step.talk input) s)
    (finished : s.daemon = .finished) :
    s.stdin.arrived = (step.run input).taken ∧ s.stderr.arrived = (step.run input).stderr ∧
      Exchange.firstLine s.stdout.arrived = Exchange.firstLine (step.run input).stdout := by
  have taken : (step.run input).taken = input := by rw [Step.run, reads]; rfl
  rw [taken]
  exact (Reachable.sound reachable).of_finished finished

end FormatDaemon.Helper.Rehearsed
