import FormatDaemon.Collaborators.Helpers
import FormatDaemon.CommandLine
import FormatDaemon.Log.Filter
import FormatDaemon.Log.Record
import FormatDaemon.Settings.Loading

/-!
# The program

A process loads its settings, sets its log up, and carries out one request with
helpers.

* `Program.Input`: what a process is given.
* `Program.run`: what it leaves behind.
-/

namespace FormatDaemon

/-- What a process is given: variables, arguments and standard streams. -/
structure Program.Input where
  vars : List (List UInt8 × List UInt8)
  args : List (List UInt8)
  cwd : Path
  stdin : CommandLine.Source
  stdout : CommandLine.Sink

/-- What a process writes to standard error. -/
inductive Note where
  | record (event : Event)
  | text (s : String)

/-- A note as text, with the time of its record. -/
def Note.write (format : LogFormat) (time : String) : Note → String
  | .record event => event.record format time ++ "\n"
  | .text s => s

namespace Program

variable {σ : Type}

/-- What a process leaves behind. -/
structure Finish where
  exit : Nat
  /-- The bytes on standard output. -/
  written : List UInt8
  notes : List Note
  format : LogFormat
  launches : List (Helper.Launch × Except SystemError Helper.Run)

/-- Standard output as it is shown. -/
def Finish.stdout (f : Finish) : String := Utf8.decodeLossy f.written

/-- Which helpers the settings ask for. -/
def setup (s : Settings) : Helper.Setup where
  program := .ofText s.nodeBinary
  globalPath? := s.globalEnginePath?.map .ofText

/-- The notes before a request: what is wrong with the log filter. -/
def filterNotes (s : Settings) : List Note :=
  match Log.Filter.parse s.logFilter with
  | .ok _ => []
  | .error fault =>
    [.text ("invalid log filter '" ++ s.logFilter ++ "': " ++ fault.message ++ "\n")]

/-- Whether an event is recorded; nothing is if the filter is wrong. -/
def isRecorded (s : Settings) (e : Event) : Bool :=
  match Log.Filter.parse s.logFilter with
  | .ok filter => filter.enables e
  | .error _ => false

/-- A process that got no settings. -/
def withoutSettings (error : Settings.LoadError) : Finish where
  exit := 1
  written := []
  notes := [.text ("failed to load configuration: " ++ error.message ++ "\n")]
  format := Settings.default.logFormat
  launches := []

/-- A process with its settings. -/
def runWith (system : Helper.System σ) (state : σ) (tree : FileTree) (s : Settings)
    (p : Input) : Finish :=
  let ending :=
    (CommandLine.run tree.isFile (.process p.vars) p.cwd p.args p.stdin p.stdout).run
      (Helper.collaborators system (setup s)) { system := state }
  { exit := ending.outcome.exit
    written := ending.outcome.written
    notes := filterNotes s ++ (ending.memory.told.filter (isRecorded s)).map .record ++
      [.text ending.outcome.stderr]
    format := s.logFormat
    launches := ending.memory.launches }

/-- What a process leaves behind. -/
def run (system : Helper.System σ) (state : σ) (tree : FileTree) (p : Input) : Finish :=
  match Settings.load tree p.vars with
  | .ok s => runWith system state tree s p
  | .error error => withoutSettings error

end Program

end FormatDaemon
