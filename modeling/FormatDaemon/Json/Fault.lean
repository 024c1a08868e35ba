import FormatDaemon.Json.Printer
import FormatDaemon.Text.Quoted

/-!
# What can be wrong with a document

A fault is a cause and, when the document was read from text, the place where
it shows. Causes are either of the text or of the shape: a well-formed document
that is not what its reader asked for.

* `Cause`, `Fault`: the cause alone, and with its place.
* `Cause.message`, `Fault.message`: the wording.
* `Fault.orAt`: the fault at a place, unless it has one of its own.
-/

namespace FormatDaemon.Json

/-- A place in a text: lines count from one; the column is the number of bytes
of the line before the place. -/
structure Place where
  line : Nat
  column : Nat
  deriving DecidableEq, Repr

/-- What a reader found in place of what it asked for. -/
inductive Found where
  | null
  | boolean (b : Bool)
  | integer (i : Int)
  | real (x : Binary64)
  | text (s : String)
  | sequence
  | map
  deriving DecidableEq, Repr

/-- Why a document was refused. -/
inductive Cause where
  | endOfValue
  | endOfText
  | endOfList
  | endOfObject
  | colonExpected
  | listEndExpected
  | objectEndExpected
  | wordExpected
  | valueExpected
  | badEscape
  | badNumber
  | numberTooLarge
  | loneSurrogate
  | cutSurrogate
  | rawControl
  | nameNotText
  | trailingComma
  | trailingText
  | tooDeep
  | wrongType (found : Found) (expected : String)
  | wrongIndex (found : Nat) (count : Nat)
  | wrongLength (length : Nat) (expected : String)
  | unknownVariant (name : String) (known : List String)
  | missingField (name : String)
  | repeatedField (name : String)
  | noVariant (title : String)
  | pathNotText
  deriving DecidableEq, Repr

/-- A cause and the place where it shows, if the document came from a text. -/
structure Fault where
  cause : Cause
  place? : Option Place
  deriving DecidableEq, Repr

/-- A name between backquotes. -/
def ticked (name : String) : String := "`" ++ name ++ "`"

/-- The known names of a choice. -/
def choiceText : List String → String
  | [] => "there are no variants"
  | [a] => "expected " ++ ticked a
  | [a, b] => "expected " ++ ticked a ++ " or " ++ ticked b
  | names => "expected one of " ++ String.intercalate ", " (names.map ticked)

/-- The wording of what was found. -/
def Found.message : Found → String
  | .null => "null"
  | .boolean b => "boolean " ++ ticked (toString b)
  | .integer i => "integer " ++ ticked (toString i)
  | .real x => "floating point " ++ ticked x.text
  | .text s => "string " ++ Text.quoted s
  | .sequence => "sequence"
  | .map => "map"

/-- The wording of a cause. -/
def Cause.message : Cause → String
  | .endOfValue => "EOF while parsing a value"
  | .endOfText => "EOF while parsing a string"
  | .endOfList => "EOF while parsing a list"
  | .endOfObject => "EOF while parsing an object"
  | .colonExpected => "expected `:`"
  | .listEndExpected => "expected `,` or `]`"
  | .objectEndExpected => "expected `,` or `\x7d`"
  | .wordExpected => "expected ident"
  | .valueExpected => "expected value"
  | .badEscape => "invalid escape"
  | .badNumber => "invalid number"
  | .numberTooLarge => "number out of range"
  | .loneSurrogate => "lone leading surrogate in hex escape"
  | .cutSurrogate => "unexpected end of hex escape"
  | .rawControl => "control character (\\u0000-\\u001F) found while parsing a string"
  | .nameNotText => "key must be a string"
  | .trailingComma => "trailing comma"
  | .trailingText => "trailing characters"
  | .tooDeep => "recursion limit exceeded"
  | .wrongType found expected => "invalid type: " ++ found.message ++ ", expected " ++ expected
  | .wrongIndex found count =>
    "invalid value: integer " ++ ticked (toString found) ++
      ", expected variant index 0 <= i < " ++ toString count
  | .wrongLength length expected =>
    "invalid length " ++ toString length ++ ", expected " ++ expected
  | .unknownVariant name known => "unknown variant " ++ ticked name ++ ", " ++ choiceText known
  | .missingField name => "missing field " ++ ticked name
  | .repeatedField name => "duplicate field " ++ ticked name
  | .noVariant title => "data did not match any variant of untagged enum " ++ title
  | .pathNotText => "path contains invalid UTF-8 characters"

/-- The wording of a fault. -/
def Fault.message (f : Fault) : String :=
  match f.place? with
  | none => f.cause.message
  | some place =>
    f.cause.message ++ " at line " ++ toString place.line ++ " column " ++ toString place.column

/-- The fault at a place, unless it has one of its own. -/
def Fault.orAt (f : Fault) (place? : Option Place) : Fault :=
  match f.place? with
  | none => ⟨f.cause, place?⟩
  | some _ => f

end FormatDaemon.Json
