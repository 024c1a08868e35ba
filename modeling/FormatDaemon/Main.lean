import FormatDaemon.Log.Timestamp
import FormatDaemon.Program

/-!
# The executable

Gathers what a process is given, runs the program on it, and writes what it leaves
behind. Helpers cannot be started from here, so every request ends at the lookup of
its engine unless it ends before.
-/

namespace FormatDaemon.Executable

/-- A variable from its entry in the list of the system. -/
def variableOf (entry : List UInt8) : Option (List UInt8 × List UInt8) :=
  match entry.dropWhile (· != 0x3D) with
  | [] => none
  | _ :: value => some (entry.takeWhile (· != 0x3D), value)

/-- The variables of a list of entries, each ended by a zero byte. -/
def varsOf (content : List UInt8) : List (List UInt8 × List UInt8) :=
  (Path.cutAt 0 content).filterMap variableOf

/-- The content of a file, if it can be read. -/
def read? (name : String) : IO (Option (List UInt8)) := do
  try
    let content ← IO.FS.readBinFile name
    return some content.toList
  catch _ => return none

/-- The tree with the file at a path, if it can be read. -/
def withRead (tree : FileTree) (p : Path) : IO FileTree := do
  match ← read? p.shown with
  | some content => return tree.withFile p content
  | none => return tree

/-- The file that a settings file builds on, if it has one. -/
def baseOf (tree : FileTree) (p : Path) : Option Path :=
  match tree.find p with
  | .ok (place, .file content _) =>
    match (Settings.File.parse p content).bind (Settings.File.base? place) with
    | .ok base? => base?
    | .error _ => none
  | _ => none

/-- The tree with some files and those they build on, up to a number of steps. -/
def gather : Nat → FileTree → List Path → IO FileTree
  | 0, tree, _ => return tree
  | fuel + 1, tree, paths => do
    let tree ← paths.foldlM withRead tree
    match paths.filterMap (baseOf tree) with
    | [] => return tree
    | bases => gather fuel tree bases

/-- The files that a process in a directory may look at before it starts helpers. -/
def files (cwd : Path) (vars : List (List UInt8 × List UInt8)) : IO FileTree := do
  let start : FileTree := ⟨cwd.parts.foldl Path.walk [], []⟩
  let shims := Resolution.shimNames.map fun name => cwd.join (.ofText name)
  gather 64 start (Settings.File.candidates vars ++ shims)

/-- A system that starts no helpers: the function is not implemented. -/
def system (tree : FileTree) : Helper.System Unit where
  start _ s := (.error (.numbered 38), s)
  isFile p _ := tree.isFile p

/-- The time now, read off what the system has just made. -/
def now : IO String := do
  let here ← IO.currentDir
  let made ← (here / "/proc/self/stat").metadata
  return Log.Timestamp.text made.modified.sec.toNat made.modified.nsec.toNat

/-- Writes bytes to standard output and flushes; the failure if there is one. -/
def write (bytes : List UInt8) : IO (Option SystemError) := do
  try
    let out ← IO.getStdout
    unless bytes.isEmpty do out.write ⟨bytes.toArray⟩
    out.flush
    return none
  catch e => return some (.other (toString e))

/-- The bytes of standard input, and the failure if reading ended in one. -/
def input : IO CommandLine.Source := do
  try
    let content ← (← IO.getStdin).readBinToEnd
    return ⟨content.toList, none⟩
  catch e => return ⟨[], some (.other (toString e))⟩

end FormatDaemon.Executable

open FormatDaemon Executable in
/-- One request, from arguments and standard input to standard output. -/
def main (args : List String) : IO UInt32 := do
  let cwd := Path.ofText (toString (← IO.currentDir))
  let vars := varsOf ((← read? "/proc/self/environ").getD [])
  let tree ← files cwd vars
  let given : Program.Input :=
    { vars := vars, args := args.map Utf8.encode, cwd := cwd, stdin := ← input, stdout := {} }
  let planned := Program.run (system tree) () tree given
  let finish ←
    match ← write planned.written with
    | none => pure planned
    | some error =>
      pure (Program.run (system tree) () tree { given with stdout := ⟨some error, none⟩ })
  let time ← now
  (← IO.getStderr).putStr (String.join (finish.notes.map (·.write finish.format time)))
  return finish.exit.toUInt32
