import FormatDaemon.Text.Quoted

/-!
# Log events

What happens on the way of a request is told in events: a level, the part of
the program that speaks, a message and named details.

* `Level`, `Event`: the events.
* `Detail`: a detail is a switch, a count, a text of the user's, or a shown value.
-/

namespace FormatDaemon

/-- How much an event matters. -/
inductive Level where
  | error
  | warn
  | info
  | debug
  | trace
  deriving DecidableEq, Repr

namespace Level

/-- The name of a level. -/
def name : Level → String
  | .error => "ERROR"
  | .warn => "WARN"
  | .info => "INFO"
  | .debug => "DEBUG"
  | .trace => "TRACE"

/-- The verbosity a level needs. -/
def rank : Level → Nat
  | .error => 1
  | .warn => 2
  | .info => 3
  | .debug => 4
  | .trace => 5

end Level

/-- A detail of an event. -/
inductive Detail where
  | switch (on : Bool)
  | count (n : Nat)
  /-- A text as it was given; records show it in quotes. -/
  | text (s : String)
  /-- A value that has been put into words. -/
  | shown (s : String)
  deriving DecidableEq, Repr

/-- An event. -/
structure Event where
  level : Level
  target : String
  message : String
  details : List (String × Detail) := []
  deriving DecidableEq, Repr

namespace Event

/-- An event for whoever looks for the cause of something. -/
def debug (target message : String) (details : List (String × Detail) := []) : Event :=
  ⟨.debug, target, message, details⟩

/-- An event for whoever gave the request. -/
def warn (target message : String) (details : List (String × Detail) := []) : Event :=
  ⟨.warn, target, message, details⟩

end Event

end FormatDaemon
