import FormatDaemon.Text.Alphanumeric
import FormatDaemon.Text.Blank

/-!
# Symbols of patterns

A pattern is a regular expression that an automaton without tables of characters can
match. So what depends on such tables, like letter case, is refused unless a switch
limits it to ASCII.

* `Mode`: what the switches say; `Mode.takes`: the symbols it has a meaning for.
* `Symbol`: the smallest parts of a pattern; `escaped`: one behind a backslash.
-/

namespace FormatDaemon.Pattern

/-- What the switches of a pattern say where it is being read. -/
structure Mode where
  /-- Letter case does not count. -/
  caseless : Bool := false
  /-- Symbols stand for characters, and not for bytes. -/
  unicode : Bool := true
  /-- Blanks and comments do not count. -/
  spaced : Bool := false
  deriving DecidableEq, Repr

/-- Behind blanks and comments; the first argument says whether the text starts inside
a comment. -/
def skipBlanks : (comment : Bool) → List Char → List Char
  | _, [] => []
  | true, c :: rest => skipBlanks (c != '\n') rest
  | false, c :: rest =>
    if Text.isBlank c then skipBlanks false rest
    else if c = '#' then skipBlanks true rest
    else c :: rest

/-- Behind what does not count. -/
def Mode.skip (mode : Mode) (cs : List Char) : List Char :=
  if mode.spaced then skipBlanks false cs else cs

/-- Behind what does not count, if there is more. -/
def Mode.next? (mode : Mode) (cs : List Char) : Option (List Char) :=
  match mode.skip cs with
  | [] => none
  | rest => some rest

/-- One of the smallest parts of a pattern. -/
inductive Symbol where
  /-- A character; `byte` if it is written with the two digits of a byte. -/
  | literal (c : Char) (byte : Bool)
  | any
  /-- Digits, blanks or the characters of words, or all others. -/
  | kind (negated : Bool)
  /-- The start or the end of a line or of the text. -/
  | anchor
  /-- The edge of a word, or anywhere else. -/
  | edge
  deriving DecidableEq, Repr

/-- Whether a mode has a meaning for a symbol. A symbol for bytes may match no part of
an encoded character. -/
def Mode.takes (mode : Mode) : Symbol → Bool
  | .literal c byte => if mode.unicode then !mode.caseless else !byte || c.toNat < 0x80
  | .any => mode.unicode
  | .kind negated => !mode.unicode && !negated
  | .anchor | .edge => true

/-! ### Escapes -/

/-- The value of a hexadecimal digit. -/
def hexValue? (c : Char) : Option Nat :=
  if '0' ≤ c && c ≤ '9' then some (c.toNat - '0'.toNat)
  else if 'a' ≤ c && c ≤ 'f' then some (c.toNat - 'a'.toNat + 10)
  else if 'A' ≤ c && c ≤ 'F' then some (c.toNat - 'A'.toNat + 10)
  else none

/-- The number of a count of hexadecimal digits, behind those that were read. -/
def hexNumber (mode : Mode) (read : Nat) : Nat → List Char → Option (Nat × List Char)
  | 0, cs => some (read, mode.skip cs)
  | count + 1, cs =>
    match mode.skip cs with
    | [] => none
    | c :: rest => do hexNumber mode (16 * read + (← hexValue? c)) count rest

/-- The character with a number of a count of hexadecimal digits. -/
def numbered (mode : Mode) (count : Nat) (cs : List Char) : Option (Symbol × List Char) := do
  let (n, rest) ← hexNumber mode 0 count cs
  if n.isValidChar then return (.literal (Char.ofNat n) (count = 2), rest) else none

/-- The symbol of a letter behind a backslash. -/
def ofLetter? : Char → Option Symbol
  | 'd' | 's' | 'w' => some (.kind false)
  | 'D' | 'S' | 'W' => some (.kind true)
  | 'a' => some (.literal (Char.ofNat 0x7) false)
  | 'f' => some (.literal (Char.ofNat 0xC) false)
  | 't' => some (.literal '\t' false)
  | 'n' => some (.literal '\n' false)
  | 'r' => some (.literal '\r' false)
  | 'v' => some (.literal (Char.ofNat 0xB) false)
  | 'A' | 'z' => some .anchor
  | 'b' | 'B' | '<' | '>' => some .edge
  | _ => none

/-- The symbol behind a backslash. Any ASCII character that is neither a letter nor a
digit and has no meaning of its own stands for itself. -/
def escaped (mode : Mode) : List Char → Option (Symbol × List Char)
  | [] => none
  | 'x' :: rest => numbered mode 2 rest
  | 'u' :: rest => numbered mode 4 rest
  | 'U' :: rest => numbered mode 8 rest
  | c :: rest =>
    match ofLetter? c with
    | some symbol => some (symbol, rest)
    | none =>
      if c.toNat < 0x80 && !c.isAlphanum then some (.literal c false, rest) else none

end FormatDaemon.Pattern
