import FormatDaemon.FileTree
import FormatDaemon.Helper.Launch

/-!
# Rehearsed helpers

A system without processes: programs are looked for in a file tree, and what a
program does when it is run is laid down beforehand, step by step.

* `refusal?`: why a program cannot be started, if it cannot.
* `Step.run`: what a step does with its input; `Step.stalls`: whether it ever ends.
* `seen`: the variables a helper reads.
* `system`: the system of a tree; its state is the steps still to come.
-/

namespace FormatDaemon.Helper.Rehearsed

/-- What a helper does when it is run. -/
structure Step where
  stdout : List UInt8 := []
  stderr : List UInt8 := []
  ending : Ending := .exit 0
  /-- Whether it reads its input to the end before anything else. -/
  reads : Bool := true

/-- The bytes a pipe holds for a reader that does not read. -/
def pipeCapacity : Nat := 65536

/-- A helper that ignores its input leaves the writer of more than a pipe holds
with a broken pipe. -/
def Step.refusal? (step : Step) (input : List UInt8) : Option SystemError :=
  if step.reads || input.length ≤ pipeCapacity then none else some .brokenPipe

/-- What a step does with its input. -/
def Step.run (step : Step) (input : List UInt8) : Run where
  stdout := step.stdout
  stderr := step.stderr
  ending := step.ending
  taken := if step.reads then input else []
  refused? := step.refusal? input

/-- A helper that has read its request, but has more to say on standard error than a pipe
holds, never comes to its response: nobody reads standard error before that. -/
def Step.stalls (step : Step) : Bool := step.reads && decide (pipeCapacity < step.stderr.length)

/-! ### Programs -/

/-- The number of an error on the way to a file. -/
def errorOf : Astray → Nat
  | .missing => 2
  | .notDirectory => 20
  | .nameTooLong => 36
  | .tooManyLinks => 40
  | .outside => 18

/-- Why the program at a path cannot be run, if it cannot. -/
def denial? (tree : FileTree) (program : Path) : Option Nat :=
  match tree.find program with
  | .ok (_, .file _ true) => none
  | .ok _ => some 13
  | .error astray => some (errorOf astray)

/-- The directories in which programs are looked for by name. -/
def searchDirectories (env : Environment) : List Path :=
  (Text.cut ':' ((env.get? "PATH").getD "/bin:/usr/bin")).map .ofText

/-- Looks for a program by name. A directory without it is passed over; a file
that may not be run is remembered as the reason of failure. -/
def search (tree : FileTree) (name : Path) : (denied : Bool) → (last : Nat) → List Path →
    Option Nat
  | denied, last, [] => some (if denied then 13 else last)
  | denied, _, directory :: rest =>
    match denial? tree (directory.join name) with
    | none => none
    | some 13 => search tree name true 13 rest
    | some code => if code = 2 || code = 20 then search tree name denied code rest else some code

/-- Why a program cannot be started, if it cannot. -/
def programRefusal? (tree : FileTree) (env : Environment) (program : Path) : Option Nat :=
  if program.bytes = [] then some 2
  else if program.bytes.contains Path.slash then denial? tree program
  else search tree program false 2 (searchDirectories env)

/-- The bytes of an argument. -/
def argumentBytes : Argument → List UInt8
  | .bytes value => value
  | .script _ => []

/-- Whether something that is handed to the system contains a zero byte. -/
def hasZero (launch : Launch) : Bool :=
  launch.program.bytes.contains 0 || launch.args.any (fun a => (argumentBytes a).contains 0) ||
    launch.env.vars.entries.any fun e => e.1.toList.contains '\x00' || e.2.toList.contains '\x00'

/-- Why a helper cannot be started, if it cannot. -/
def refusal? (tree : FileTree) (launch : Launch) : Option SystemError :=
  if hasZero launch then some .zeroByte
  else (programRefusal? tree launch.env launch.program).map .numbered

/-! ### What a helper sees -/

/-- What a process reads of an entry `name=value` of its environment: the name ends
before the first equals sign behind its first character. Any other entry is not read. -/
def readEntry? : List Char → Option (String × String)
  | [] => none
  | first :: rest =>
    match rest.dropWhile (· != '=') with
    | [] => none
    | _ :: value =>
      some (String.ofList (first :: rest.takeWhile (· != '=')), String.ofList value)

/-- The variables a helper reads. A name with an equals sign in it comes apart. -/
def seen (env : Environment) : Table String :=
  .ofList (env.vars.entries.filterMap fun e => readEntry? (e.1.toList ++ '=' :: e.2.toList))

/-! ### The system -/

/-- Starts a helper with the next step; after the last step helpers do nothing. -/
def start (tree : FileTree) (launch : Launch) (steps : List Step) :
    Except SystemError Run × List Step :=
  match refusal? tree launch with
  | some cause => (.error cause, steps)
  | none => (.ok ((steps.headD {}).run launch.input), steps.tail)

/-- The system of a tree. -/
def system (tree : FileTree) : System (List Step) where
  start := start tree
  isFile p _ := tree.isFile p

end FormatDaemon.Helper.Rehearsed
