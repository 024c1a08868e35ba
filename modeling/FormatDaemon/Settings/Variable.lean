import FormatDaemon.Number.Decimal
import FormatDaemon.Settings.Layer
import FormatDaemon.Text.Blank
import FormatDaemon.Toml.Text
import FormatDaemon.Toml.Word

/-!
# Settings in variables

A variable whose name starts with `PRETTIERD_` is a setting. Its value is a text,
but is given a type by its looks before it is used.

* `names?`: the setting a variable is for; two underscores lead into an object.
* `value`: the typed value of a variable.
* `layer`: the settings of an environment, where the last variable wins.
-/

namespace FormatDaemon.Settings.Variable

/-! ### Names -/

/-- How the name of a setting starts. -/
def marker : List Char := "PRETTIERD_".toList

/-- The parts of a name between double underscores or dots. -/
def cutNames : List Char → List (List Char)
  | [] => [[]]
  | '_' :: '_' :: rest => [] :: cutNames rest
  | '.' :: rest => [] :: cutNames rest
  | c :: rest =>
    match cutNames rest with
    | [] => [[c]]
    | part :: more => (c :: part) :: more

/-- The names of the setting a variable is for, outermost first, if it is for one.
Letter case does not count, nor do blanks around the name and behind the marker. -/
def names? (name : String) : Option (List String) :=
  let cs := Text.trimChars name.toList
  let start := cs.take marker.length
  let parts := cutNames (Text.trimChars (cs.drop marker.length))
  if start.map Char.toLower = marker.map Char.toLower && !parts.any List.isEmpty then
    some (parts.map fun part => String.ofList (part.map Char.toLower))
  else none

/-! ### Values -/

/-- Whether a character is blank between the parts of a value. -/
def isSpace (c : Char) : Bool :=
  c = ' ' || c = '\t' || c = '\n' || c = '\r' || c = Char.ofNat 0xC

/-- Behind the blanks. -/
def skipSpaces (cs : List Char) : List Char := cs.dropWhile isSpace

/-- Whether a character may stand in a value without quotes. -/
def isPlain (c : Char) : Bool :=
  !(c = ',' || c = '\x7b' || c = '\x7d' || c = '[' || c = ']')

/-- Whether a character may stand in a name without quotes. -/
def isNameChar (c : Char) : Bool := c.isAlphanum || c = '_' || c = '-'

/-- The power of ten a numeral ends with: none without a mark. -/
def power? : Option (List Char) → Option Int
  | none => some 0
  | some cs =>
    let (negative, digits) := Toml.signOf cs
    if digits.isEmpty || !digits.all Toml.isDigit then none
    else
      let n : Int := Toml.numberOf 10 digits
      some (if negative then -n else n)

/-- The real a numeral with a point denotes, if it is one. One that is not finite
is `null`. -/
def real? (cs : List Char) : Option Json := do
  let (negative, magnitude) := Toml.signOf cs
  let (mantissa, scale?) := Toml.cutAt (fun c => c = 'e' || c = 'E') magnitude
  let (whole, fraction?) := Toml.cutAt (· = '.') mantissa
  let fraction ← fraction?
  let power ← power? scale?
  let digits := whole ++ fraction
  if digits.isEmpty || !digits.all Toml.isDigit then none
  else
    let x? := Binary64.ofDecimal? negative (Toml.numberOf 10 digits) (power - fraction.length)
    return .ofOption (fun x => .number (.real x)) x?

/-- The integer a numeral denotes, if it is one of 64 bits, with or without sign. -/
def integer? (cs : List Char) : Option Json :=
  let (negative, digits) := Toml.signOf cs
  let n : Int := Toml.numberOf 10 digits
  let n := if negative then -n else n
  if !digits.isEmpty && digits.all Toml.isDigit && -Limit.int64 ≤ n && n < Limit.nat64 then
    some (.number (.integer n))
  else none

/-- The truth value a word spells, in any letter case. -/
def truth? (cs : List Char) : Option Json :=
  match cs.map Char.toLower with
  | ['t', 'r', 'u', 'e'] => some (.bool true)
  | ['f', 'a', 'l', 's', 'e'] => some (.bool false)
  | _ => none

/-- The value of a run of plain characters. -/
def plain (cs : List Char) : Json :=
  let cs := Text.trimChars cs
  (((real? cs).or (integer? cs)).or (truth? cs)).getD (.string (String.ofList cs))

/-- The rest behind a word, if the text starts with it. -/
def behind? (word cs : List Char) : Option (List Char) :=
  if word.isPrefixOf cs then some (cs.drop word.length) else none

/-- The first characters of a text, as many as have a number of bytes. -/
def ofSize? : Nat → List Char → Option (List Char)
  | 0, _ => some []
  | _ + 1, [] => none
  | size + 1, c :: rest =>
    if c.utf8Size ≤ size + 1 then (ofSize? (size + 1 - c.utf8Size) rest).map (c :: ·) else none

/-- A text behind its opening quote. Of the characters before the first escape only as
many are kept as have that many bytes. -/
def quoted (cs : List Char) : Option (List Char × List Char) := do
  let (text, rest) ← Toml.basic cs
  let start := cs.takeWhile (· != '\\')
  if start.contains '"' then return (text, rest)
  else return ((← ofSize? start.length start) ++ text.drop start.length, rest)

/-- What was read, and the text behind the blanks that follow. -/
def settle {α : Type} : Option (α × List Char) → Option (α × List Char) :=
  Option.map fun (a, rest) => (a, skipSpaces rest)

/-- A name in an object. -/
def name : List Char → Option (String × List Char)
  | '"' :: rest => (quoted rest).map fun (cs, rest) => (String.ofList cs, rest)
  | cs =>
    match cs.takeWhile isNameChar with
    | [] => none
    | found => some (String.ofList found, cs.dropWhile isNameChar)

/-- The parts of a list up to its end, behind its start or a comma; the number
bounds them. -/
def parts {α : Type} (stop : Char) (part : List Char → Option (α × List Char)) :
    Nat → List Char → Option (List α × List Char)
  | 0, _ => none
  | fuel + 1, cs =>
    if cs.head? = some stop then some ([], cs.tail)
    else do
      let (first, rest) ← part cs
      match rest with
      | [] => none
      | c :: rest =>
        if c = ',' then
          let (more, rest) ← parts stop part fuel rest
          return (first :: more, rest)
        else if c = stop then return ([first], rest)
        else none

/-- A name with its value. -/
def member (item : List Char → Option (Json × List Char)) (cs : List Char) :
    Option ((String × Json) × List Char) := do
  let (n, rest) ← settle (name (skipSpaces cs))
  match rest with
  | '=' :: rest =>
    let (j, rest) ← item rest
    return ((n, j), rest)
  | _ => none

/-- A value and what follows it; the number bounds how deep it may go. -/
def structured : Nat → List Char → Option (Json × List Char)
  | 0, _ => none
  | depth + 1, cs =>
    let cs := skipSpaces cs
    settle <|
      match behind? ['t', 'r', 'u', 'e'] cs, behind? ['f', 'a', 'l', 's', 'e'] cs with
      | some rest, _ => some (.bool true, rest)
      | none, some rest => some (.bool false, rest)
      | none, none =>
        match cs with
        | '\x7b' :: rest =>
          (parts '\x7d' (member (structured depth)) cs.length rest).map
            fun (found, rest) => (.ofTable (.ofList found), rest)
        | '[' :: rest =>
          (parts ']' (structured depth) cs.length rest).map
            fun (found, rest) => (.array found, rest)
        | '"' :: rest =>
          (quoted rest).map fun (cs, rest) => (.string (String.ofList cs), rest)
        | '\'' :: c :: '\'' :: rest => some (.string (String.ofList [c]), rest)
        | '\'' :: _ => none
        | cs => some (plain (cs.takeWhile isPlain), cs.dropWhile isPlain)

/-- Whether a text starts like a structure or a quoted text. -/
def startsQuoted (cs : List Char) : Bool :=
  match cs with
  | c :: _ => c = '[' || c = '\x7b' || c = '"' || c = '\''
  | [] => false

/-- The typed value of a variable. A text with commas is a list of texts; what
looks like nothing else is the text itself. -/
def value (text : String) : Json :=
  let cs := Text.trimChars text.toList
  if cs.contains ',' && !startsQuoted cs then
    .array ((Text.cutChars ',' cs).map fun part => .string (String.ofList (Text.trimChars part)))
  else
    match structured (cs.length + 1) cs with
    | some (j, []) => j
    | _ => .string (String.ofList cs)

/-! ### Layers -/

/-- A value inside objects of the given names. -/
def nested (j : Json) : List String → Json
  | [] => j
  | n :: rest => .object [(n, nested j rest)]

/-- The settings with one more variable. -/
def apply (settings : Layer) (entry : List UInt8 × List UInt8) : Layer :=
  match names? (Utf8.decodeLossy entry.1) with
  | some (n :: rest) => settings.insert n (nested (value (Utf8.decodeLossy entry.2)) rest)
  | _ => settings

/-- The settings of an environment. -/
def layer (vars : List (List UInt8 × List UInt8)) : Layer := vars.foldl apply .empty

end FormatDaemon.Settings.Variable
