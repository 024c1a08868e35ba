import FormatDaemon.Text.Cut

/-!
# Blank text

White space is the Unicode property White_Space, which is wider than ASCII.

* `isBlank`: the property.
* `trim`: the text without blank ends.
* `lines`: the lines of a text, without their terminators.
* `eqIgnoreAsciiCase`: equality up to the case of ASCII letters.
-/

namespace FormatDaemon.Text

/-- The Unicode property White_Space. -/
def isBlank (c : Char) : Bool :=
  let n := c.toNat
  (0x9 ≤ n && n ≤ 0xD) || n = 0x20 || n = 0x85 || n = 0xA0 || n = 0x1680 ||
    (0x2000 ≤ n && n ≤ 0x200A) || n = 0x2028 || n = 0x2029 || n = 0x202F ||
    n = 0x205F || n = 0x3000

/-- Drops a blank start and a blank end. -/
def trimChars (cs : List Char) : List Char :=
  ((cs.dropWhile isBlank).reverse.dropWhile isBlank).reverse

/-- The text without blank ends. -/
def trim (text : String) : String := String.ofList (trimChars text.toList)

/-- A terminated line loses one carriage return before its newline. -/
def withoutReturn (line : List Char) : List Char :=
  if line.getLast? = some '\r' then line.dropLast else line

/-- The lines of a text: `\n` or `\r\n` ends a line, and text after the last
terminator is a line unless it is empty. -/
def lines (text : String) : List String :=
  let parts := cutChars '\n' text.toList
  let last := parts.getLast?.getD []
  let ended := parts.dropLast.map (String.ofList ∘ withoutReturn)
  if last.isEmpty then ended else ended ++ [String.ofList last]

/-- Equality up to the case of ASCII letters. -/
def eqIgnoreAsciiCase (a b : String) : Bool :=
  a.toList.map Char.toLower == b.toList.map Char.toLower

end FormatDaemon.Text
