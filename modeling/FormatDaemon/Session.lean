import FormatDaemon.Invocation

/-!
# Sessions

An adapter outlives its requests: they arrive one after another, and the
collaborators remember. The files and the variables of the process may have
changed from one arrival to the next.

* `Arrival`: what arrives; `Arrival.dialogue`: how it is answered.
* `Arrival.request?`: what it asks for.
* `Session.after`: what is remembered after some arrivals.
-/

namespace FormatDaemon

/-- What a client sends. -/
inductive Message where
  | invocation (i : Invocation)
  /-- A call shape, with the directory and the text it is about. -/
  | call (cwd : Path) (shape : Json) (text : String)

/-- What a client sends, and what the files and the base are when it arrives. -/
structure Arrival where
  isFile : Path → Bool
  base : Base
  message : Message

namespace Arrival

variable {ε : Type}

/-- An arrival as a dialogue. -/
def dialogue (a : Arrival) : Dialogue ε Outcome :=
  match a.message with
  | .invocation i => i.run a.isFile a.base
  | .call cwd shape text => invokeJson a.isFile a.base cwd shape text

/-- The invocation an arrival stands for, unless it has none of the shapes. -/
def invocation? (a : Arrival) : Option Invocation :=
  match a.message with
  | .invocation i => some i
  | .call cwd shape text =>
    (Wire.callShape shape).toOption.map fun s => .ofPayload cwd s.payload text

/-- The request of an arrival. -/
def request? (a : Arrival) : Option Request := a.invocation?.map (·.request a.base)

end Arrival

/-- What is remembered after some arrivals. -/
def Session.after {ε σ : Type} (c : Collaborators ε σ) (arrivals : List Arrival) (s : σ) : σ :=
  arrivals.foldl (fun s a => (a.dialogue.run c s).memory) s

end FormatDaemon
