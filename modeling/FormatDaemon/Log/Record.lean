import FormatDaemon.Json.Printer
import FormatDaemon.Log
import FormatDaemon.Settings.LogFormat

/-!
# Log records

An event is written as one record: a line of words, or a JSON object.

* `Event.compact`, `Event.json`: the two forms.
* `Event.record`: an event in a format.
-/

namespace FormatDaemon

/-- A detail in a line of words. -/
def Detail.compact : Detail → String
  | .switch on => if on then "true" else "false"
  | .count n => toString n
  | .text s => Text.quoted s
  | .shown s => s

/-- A detail in an object. -/
def Detail.toJson : Detail → Json
  | .switch on => .bool on
  | .count n => .ofNat n
  | .text s | .shown s => .string s

namespace Event

/-- The name of a level, as wide as the widest one. -/
def paddedLevel (level : Level) : String :=
  String.ofList (List.replicate (5 - level.name.length) ' ') ++ level.name

/-- An event as a line of words. -/
def compact (time : String) (e : Event) : String :=
  time ++ " " ++ paddedLevel e.level ++ " " ++ e.target ++ ": " ++ e.message ++
    String.join (e.details.map fun (name, detail) => " " ++ name ++ "=" ++ detail.compact)

/-- An event as an object. -/
def json (time : String) (e : Event) : Json :=
  .object (("timestamp", .string time) :: ("level", .string e.level.name) ::
    ("message", .string e.message) ::
    (e.details.map fun (name, detail) => (name, detail.toJson)) ++ [("target", .string e.target)])

/-- An event in a format. -/
def record (format : LogFormat) (time : String) (e : Event) : String :=
  match format with
  | .compact => e.compact time
  | .json => (e.json time).print

end Event

end FormatDaemon
