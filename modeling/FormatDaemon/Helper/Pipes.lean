import FormatDaemon.Helper.Launch

/-!
# Exchanges through pipes

An exchange is two processes at work at once, joined by three pipes of which each holds only
so many bytes. Whoever writes to a full pipe waits, and so does whoever reads from an empty
pipe that somebody may still write to.

* `Pipe`, `Pipe.Push`, `Pipe.Pull`: a pipe, and the bytes that go in and come out.
* `DaemonStage`, `HelperStage`: how far the two sides are.
* `Step`: what one of them can do next.
* `Stuck`: nobody can do anything.
-/

namespace FormatDaemon.Helper.Pipes

/-- A pipe, with the bytes that pass through it. -/
structure Pipe where
  /-- What is still to be written. -/
  ahead : List UInt8
  /-- What was written and not yet read. -/
  held : List UInt8 := []
  /-- What was read. -/
  arrived : List UInt8 := []
  deriving DecidableEq, Repr

/-- Some bytes are put into a pipe that has room for them. -/
inductive Pipe.Push (capacity : Nat) : Pipe → Pipe → Prop where
  | intro {ahead held arrived : List UInt8} (bytes : List UInt8) : bytes ≠ [] →
    (held ++ bytes).length ≤ capacity →
    Push capacity ⟨bytes ++ ahead, held, arrived⟩ ⟨ahead, held ++ bytes, arrived⟩

/-- Some of the bytes in a pipe are taken out. -/
inductive Pipe.Pull : Pipe → Pipe → Prop where
  | intro {ahead held arrived : List UInt8} (bytes : List UInt8) : bytes ≠ [] →
    Pull ⟨ahead, bytes ++ held, arrived⟩ ⟨ahead, held, arrived ++ bytes⟩

/-- How far the side that asks is. -/
inductive DaemonStage where
  /-- It writes the request. -/
  | sending
  /-- It has closed standard input and reads a line from standard output. -/
  | listening
  /-- It has closed standard output and reads standard error to its end. -/
  | draining
  /-- It waits for the helper to end. -/
  | waiting
  | finished
  deriving DecidableEq, Repr

/-- Whether it can still read standard output. -/
def DaemonStage.listens : DaemonStage → Bool
  | .sending | .listening => true
  | _ => false

/-- How far the side that is asked is. -/
inductive HelperStage where
  /-- It reads the request to its end. -/
  | reading
  /-- It writes to standard error. -/
  | complaining
  /-- It writes its response. -/
  | answering
  /-- It has ended, and with it what it could write to. -/
  | gone
  deriving DecidableEq, Repr

/-- How far an exchange is. -/
structure State where
  daemon : DaemonStage := .sending
  helper : HelperStage := .reading
  stdin : Pipe
  stdout : Pipe
  stderr : Pipe
  deriving DecidableEq, Repr

/-- What the two sides have to say. -/
structure Talk where
  request : List UInt8
  diagnostics : List UInt8
  response : List UInt8
  deriving DecidableEq, Repr

/-- The state in which a helper has just started. -/
def start (talk : Talk) : State where
  stdin := ⟨talk.request, [], []⟩
  stdout := ⟨talk.response, [], []⟩
  stderr := ⟨talk.diagnostics, [], []⟩

/-- The end of a line. -/
def newline : UInt8 := 10

/-- Whether a line came in on standard output, or its end. -/
def State.Heard (s : State) : Prop :=
  newline ∈ s.stdout.arrived ∨ s.helper = .gone ∧ s.stdout.held = []

/-- What one of the two sides can do next. -/
inductive Step (capacity : Nat) (s : State) : State → Prop where
  | send {p : Pipe} : s.daemon = .sending → s.stdin.Push capacity p →
    Step capacity s { s with stdin := p }
  | close : s.daemon = .sending → s.stdin.ahead = [] →
    Step capacity s { s with daemon := .listening }
  | hear {p : Pipe} : s.daemon = .listening → newline ∉ s.stdout.arrived → s.stdout.Pull p →
    Step capacity s { s with stdout := p }
  | hangUp : s.daemon = .listening → s.Heard →
    Step capacity s { s with daemon := .draining }
  | drain {p : Pipe} : s.daemon = .draining → s.stderr.Pull p →
    Step capacity s { s with stderr := p }
  | settle : s.daemon = .draining → s.helper = .gone → s.stderr.held = [] →
    Step capacity s { s with daemon := .waiting }
  | reap : s.daemon = .waiting → s.helper = .gone →
    Step capacity s { s with daemon := .finished }
  | take {p : Pipe} : s.helper = .reading → s.stdin.Pull p →
    Step capacity s { s with stdin := p }
  | complete : s.helper = .reading → s.daemon ≠ .sending → s.stdin.held = [] →
    Step capacity s { s with helper := .complaining }
  | complain {p : Pipe} : s.helper = .complaining → s.stderr.Push capacity p →
    Step capacity s { s with stderr := p }
  | turn : s.helper = .complaining → s.stderr.ahead = [] →
    Step capacity s { s with helper := .answering }
  | answer {p : Pipe} : s.helper = .answering → s.daemon.listens → s.stdout.Push capacity p →
    Step capacity s { s with stdout := p }
  /-- Nobody reads the response any more. -/
  | breakOff : s.helper = .answering → s.daemon.listens = false → s.stdout.ahead ≠ [] →
    Step capacity s { s with helper := .gone }
  | exit : s.helper = .answering → s.stdout.ahead = [] →
    Step capacity s { s with helper := .gone }

/-- Nobody can do anything. -/
def Stuck (capacity : Nat) (s : State) : Prop := ∀ t, ¬ Step capacity s t

end FormatDaemon.Helper.Pipes
