import FormatDaemon.Toml.Table
import FormatDaemon.Toml.Text
import FormatDaemon.Toml.Word

/-!
# Reading TOML

* `filler`, `lineEnd`: what stands between statements.
* `key`: the names of a key, up to a limit.
* `value`: a value; arrays and tables may stand inside each other up to the same limit.
* `Toml.ofText?`: the table of a text, if the text is a document.
-/

namespace FormatDaemon.Toml

/-- Whether a character is a blank within a line. -/
def isSpace (c : Char) : Bool := c = ' ' || c = '\t'

/-- Behind the blanks. -/
def skipSpaces (cs : List Char) : List Char := cs.dropWhile isSpace

/-- Behind blanks, line ends and comments; the first argument says whether the
text starts inside a comment. -/
def filler : (comment : Bool) → List Char → Option (List Char)
  | _, [] => some []
  | _, '\n' :: rest => filler false rest
  | _, '\r' :: '\n' :: rest => filler false rest
  | true, c :: rest => if isVisible c then filler true rest else none
  | false, c :: rest =>
    if isSpace c then filler false rest
    else if c = '#' then filler true rest
    else some (c :: rest)

/-- Behind the end of a line, which a comment may precede. -/
def lineEnd (cs : List Char) : Option (List Char) :=
  match skipSpaces cs with
  | [] => some []
  | '\n' :: rest => some rest
  | '\r' :: '\n' :: rest => some rest
  | '#' :: rest => filler true rest
  | _ => none

/-- How many names a key may have, and how many arrays and tables may stand in each other. -/
def nesting : Nat := 79

/-! ### Keys -/

/-- Whether a character may stand in a name without quotes. -/
def isBare (c : Char) : Bool :=
  isDigit c || ('a' ≤ c && c ≤ 'z') || ('A' ≤ c && c ≤ 'Z') || c = '_' || c = '-'

/-- A name. -/
def name : List Char → Option (String × List Char)
  | '"' :: rest => (basic rest).map fun (cs, rest) => (String.ofList cs, rest)
  | '\'' :: rest => (literal rest).map fun (cs, rest) => (String.ofList cs, rest)
  | cs =>
    match cs.takeWhile isBare with
    | [] => none
    | bare => some (String.ofList bare, cs.dropWhile isBare)

/-- The names of a key; the number bounds how many there may be. -/
def key : Nat → List Char → Option (Key × List Char)
  | 0, _ => none
  | fuel + 1, cs => do
    let (first, rest) ← name (skipSpaces cs)
    match skipSpaces rest with
    | '.' :: rest =>
      let (more, rest) ← key fuel rest
      return (⟨first :: more.above, more.name⟩, rest)
    | rest => return (⟨[], first⟩, rest)

/-- A key, and what is behind the sign that follows it. -/
def keyBefore (sign : List Char) (cs : List Char) : Option (Key × List Char) := do
  let (k, rest) ← key nesting cs
  if sign.isPrefixOf rest then return (k, rest.drop sign.length) else none

/-! ### Values -/

/-- Whether a character may stand in a word. -/
def isWordChar (c : Char) : Bool := isBare c || c = '+' || c = '.' || c = ':'

/-- A word, and what follows. A date and a time with one blank between them are
one word. -/
def word (cs : List Char) : List Char × List Char :=
  let first := cs.takeWhile isWordChar
  match cs.dropWhile isWordChar with
  | ' ' :: c :: rest =>
    if isDate first && isDigit c then
      (first ++ ' ' :: (c :: rest).takeWhile isWordChar, (c :: rest).dropWhile isWordChar)
    else (first, ' ' :: c :: rest)
  | rest => (first, rest)

/-- The items of an array, behind its bracket or a comma; the number bounds them. -/
def items (item : List Char → Option (Toml × List Char)) :
    Nat → List Char → Option (List Toml × List Char)
  | 0, _ => none
  | fuel + 1, cs => do
    match ← filler false cs with
    | ']' :: rest => return ([], rest)
    | cs =>
      let (first, rest) ← item cs
      match ← filler false rest with
      | ',' :: rest =>
        let (more, rest) ← items item fuel rest
        return (first :: more, rest)
      | ']' :: rest => return ([first], rest)
      | _ => none

/-- The keys and values of a table between braces, behind its brace or a comma;
the number bounds them. -/
def pairs (item : List Char → Option (Toml × List Char)) :
    Nat → List Char → Option (List (Key × Toml) × List Char)
  | 0, _ => none
  | fuel + 1, cs => do
    let (k, rest) ← keyBefore ['='] cs
    let (first, rest) ← item (skipSpaces rest)
    match skipSpaces rest with
    | ',' :: rest =>
      let (more, rest) ← pairs item fuel rest
      return ((k, first) :: more, rest)
    | '\x7d' :: rest => return ([(k, first)], rest)
    | _ => none

/-- A value that holds no others. -/
def scalar : List Char → Option (Toml × List Char)
  | '"' :: rest => (doubleQuoted rest).map fun (cs, rest) => (.string (String.ofList cs), rest)
  | '\'' :: rest => (singleQuoted rest).map fun (cs, rest) => (.string (String.ofList cs), rest)
  | cs => do
    let (found, rest) := word cs
    return (← ofWord? found, rest)

/-- A value; the number bounds how many arrays and tables may stand in each other. -/
def value : Nat → List Char → Option (Toml × List Char)
  | 0, cs => scalar cs
  | depth + 1, cs =>
    match cs with
    | '[' :: rest =>
      (items (value depth) cs.length rest).map fun (found, rest) => (.array found, rest)
    | '\x7b' :: rest =>
      match skipSpaces rest with
      | '\x7d' :: rest => some (.table .inline [], rest)
      | inner => do
        let (found, rest) ← pairs (value depth) cs.length inner
        return (← ofPairs? found, rest)
    | cs => scalar cs

/-! ### Documents -/

/-- A statement. -/
def statement : List Char → Option (Statement × List Char)
  | '[' :: '[' :: rest => (keyBefore [']', ']'] rest).map fun (k, rest) => (.element k, rest)
  | '[' :: rest => (keyBefore [']'] rest).map fun (k, rest) => (.table k, rest)
  | cs => do
    let (k, rest) ← keyBefore ['='] cs
    let (v, rest) ← value nesting (skipSpaces rest)
    return (.assign k v, rest)

/-- The statements of a document; the number bounds them. -/
def statements : Nat → List Char → Option (List Statement)
  | 0, _ => none
  | fuel + 1, cs => do
    match ← filler false cs with
    | [] => return []
    | cs =>
      let (first, rest) ← statement cs
      return first :: (← statements fuel (← lineEnd rest))

/-- Without a byte order mark in front. -/
def withoutMark : List Char → List Char
  | '\uFEFF' :: rest => rest
  | cs => cs

/-- The table of a text, if the text is a document. -/
def ofText? (text : String) : Option Members := do
  let cs := withoutMark text.toList
  ofStatements? (← statements (cs.length + 1) cs)

end FormatDaemon.Toml
