/-!
# Argument vectors

The arguments of a request name one file; everything else starts with a dash.
Four flags belong to the request itself, and all other tokens with a dash are
options for later.

* `Arguments.ofTokens?`: the reading of an argument vector.
* `UsageError`: what can be wrong with one.
-/

namespace FormatDaemon

/-- What a request does with the text of its file. -/
inductive Task where
  | format
  | check
  deriving DecidableEq, Repr, Inhabited

/-- Why an argument vector was refused. -/
inductive UsageError where
  | noFile
  | twoFiles (first second : String)
  | noValue (flag : String)
  deriving DecidableEq, Repr

/-- The wording of a usage error. -/
def UsageError.message : UsageError → String
  | .noFile => "no file was given; pass the path of the file being formatted"
  | .twoFiles first second =>
    "only one file may be given, got '" ++ first ++ "' and '" ++ second ++ "'"
  | .noValue flag => flag ++ " requires a value"

/-- An argument vector, read. -/
structure Arguments where
  target : String
  task : Task
  noColor : Bool
  ignorePath : String
  options : List String
  deriving DecidableEq, Repr

namespace Arguments

/-- The flag that suppresses colours. -/
def noColorFlag : String := "--no-color"

/-- The flag whose value names the ignore file. -/
def ignorePathFlag : String := "--ignore-path"

/-- The flag that selects checking. -/
def checkFlag : String := "--check"

/-- The flag that selects formatting. -/
def formatFlag : String := "--format"

/-- The ignore file, unless a flag names one. -/
def defaultIgnorePath : String := ".prettierignore"

/-- What has been read of an argument vector. -/
structure Draft where
  target? : Option String := none
  task : Task := .format
  noColor : Bool := false
  ignorePath : String := defaultIgnorePath
  options : List String := []

/-- Whether a token starts with a dash. -/
def isDashed (token : String) : Bool := token.toList.head? = some '-'

/-- Reads the remaining tokens into a draft. -/
def read (d : Draft) : List String → Except UsageError Draft
  | [] => .ok d
  | token :: rest =>
    if token = ignorePathFlag then
      match rest with
      | [] => .error (.noValue ignorePathFlag)
      | value :: rest => read { d with ignorePath := value } rest
    else if token = noColorFlag then read { d with noColor := true } rest
    else if token = checkFlag then read { d with task := .check } rest
    else if token = formatFlag then read { d with task := .format } rest
    else if isDashed token then read { d with options := d.options ++ [token] } rest
    else
      match d.target? with
      | some first => .error (.twoFiles first token)
      | none => read { d with target? := some token } rest

/-- The reading of an argument vector. -/
def ofTokens? (tokens : List String) : Except UsageError Arguments := do
  let d ← read {} tokens
  match d.target? with
  | some target => .ok ⟨target, d.task, d.noColor, d.ignorePath, d.options⟩
  | none => .error .noFile

end Arguments

end FormatDaemon
