import FormatDaemon.Json.Basic
import FormatDaemon.Number.Shortest

/-!
# Printed JSON

A document is printed without spaces, on one line. Between quotes only the
quote, the backslash and the controls are escaped.

* `escape`: how a character is printed between quotes.
* `chars`: the printed form as characters.
* `print`: the printed form.
-/

namespace FormatDaemon

/-- The text of a number: an integer has no point and no exponent. -/
def Number.text : Number → String
  | .integer value => toString value
  | .real value => value.text

namespace Json

/-- The two lower-case hexadecimal digits of a control. -/
def controlDigits (c : Char) : List Char :=
  [Nat.digitChar (c.toNat / 16), Nat.digitChar (c.toNat % 16)]

/-- How a character is printed between quotes. -/
def escape (c : Char) : List Char :=
  if c = '"' then ['\\', '"']
  else if c = '\\' then ['\\', '\\']
  else if c = '\n' then ['\\', 'n']
  else if c = '\r' then ['\\', 'r']
  else if c = '\t' then ['\\', 't']
  else if c.toNat = 0x8 then ['\\', 'b']
  else if c.toNat = 0xC then ['\\', 'f']
  else if c.toNat < 0x20 then '\\' :: 'u' :: '0' :: '0' :: controlDigits c
  else [c]

/-- A printed string. -/
def stringChars (s : String) : List Char := '"' :: s.toList.flatMap escape ++ ['"']

mutual

/-- The printed form of a document. -/
def chars : Json → List Char
  | .null => ['n', 'u', 'l', 'l']
  | .bool true => ['t', 'r', 'u', 'e']
  | .bool false => ['f', 'a', 'l', 's', 'e']
  | .number n => n.text.toList
  | .string s => stringChars s
  | .array [] => ['[', ']']
  | .array (item :: rest) => '[' :: item.chars ++ itemChars rest
  | .object [] => ['\x7b', '\x7d']
  | .object (member :: rest) =>
    '\x7b' :: stringChars member.1 ++ ':' :: member.2.chars ++ memberChars rest

/-- The items after the first, and the end of the array. -/
def itemChars : List Json → List Char
  | [] => [']']
  | item :: rest => ',' :: item.chars ++ itemChars rest

/-- The members after the first, and the end of the object. -/
def memberChars : List (String × Json) → List Char
  | [] => ['\x7d']
  | member :: rest =>
    ',' :: stringChars member.1 ++ ':' :: member.2.chars ++ memberChars rest

end

/-- The printed form of a document. -/
def print (j : Json) : String := String.ofList j.chars

end Json

end FormatDaemon
