import FormatDaemon.Invocation

/-!
# The command line

One request: the arguments are those of the process, the text is standard
input, and the result goes to standard output.

* `CommandLine.run`: a process as a dialogue, with its streams and exit status.
-/

namespace FormatDaemon.CommandLine

/-- A stream that is read to its end, or to a failure behind its bytes. -/
structure Source where
  bytes : List UInt8
  failure? : Option SystemError := none

/-- How writing fails: with an error, behind the bytes for which there is still room. -/
structure Jam where
  error : SystemError
  room : Nat := 0

instance : Coe SystemError Jam := ⟨fun error => { error }⟩

/-- A stream that is written and flushed, and how either fails. -/
structure Sink where
  writing? : Option Jam := none
  flushing? : Option SystemError := none

/-- What a process leaves behind. -/
structure Result where
  exit : Nat
  /-- The bytes on standard output. -/
  written : List UInt8
  stderr : String
  deriving DecidableEq, Repr

namespace Result

/-- A process that failed with a line on standard error. -/
def failed (exit : Nat) (message : String) : Result := ⟨exit, [], message ++ "\n"⟩

/-- Standard output as it is shown. -/
def stdout (r : Result) : String := Utf8.decodeLossy r.written

end Result

/-- The first argument that is no text, or all of them as texts. -/
def texts : List (List UInt8) → Except (List UInt8) (List String)
  | [] => .ok []
  | arg :: rest =>
    match Utf8.decode? arg with
    | none => .error arg
    | some text => (texts rest).map (text :: ·)

/-- The text of a stream. -/
def Source.read (s : Source) : Except SystemError String :=
  match s.failure?, Utf8.decode? s.bytes with
  | some error, _ => .error error
  | none, some text => .ok text
  | none, none => .error .notText

/-- Writes bytes and flushes behind them: what arrived, and the failure if there was
one. -/
def Sink.write (s : Sink) (bytes : List UInt8) : List UInt8 × Option SystemError :=
  match s.writing? with
  | none => (bytes, s.flushing?)
  | some jam =>
    if bytes.length ≤ jam.room then (bytes, s.flushing?)
    else (bytes.take jam.room, some jam.error)

/-- What a process leaves behind after its request. -/
def conclude (sink : Sink) : Outcome → Result
  | .ok output =>
    match sink.write (Utf8.encode output) with
    | (written, none) => ⟨0, written, ""⟩
    | (written, some error) => ⟨1, written, "failed to write output: " ++ error.message ++ "\n"⟩
  | .error error => .failed error.exitStatus error.message

/-- A process as a dialogue. -/
def run {ε : Type} (isFile : Path → Bool) (base : Base) (cwd : Path) (args : List (List UInt8))
    (stdin : Source) (stdout : Sink) : Dialogue ε Result :=
  match texts args with
  | .error arg =>
    .done (.failed 2 ("argument is not valid UTF-8: " ++ Utf8.decodeLossy arg))
  | .ok args =>
    match stdin.read with
    | .error error => .done (.failed 1 ("failed to read stdin: " ++ error.message))
    | .ok text =>
      ((Invocation.mk cwd args .empty text).run isFile base).bind fun outcome =>
        .done (conclude stdout outcome)

end FormatDaemon.CommandLine
