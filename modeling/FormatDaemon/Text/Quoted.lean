import FormatDaemon.Text.Hidden
import FormatDaemon.Text.Utf8

/-!
# Quoted text

Log records and diagnostics show a text between double quotes, on one line and
without ambiguity: quotes and backslashes are escaped, the common controls have
a letter, and every other hidden character is shown as `\u` with its number in
braces.

* `quoted`: a text in quotes.
* `quotedBytes`: a byte string in quotes; bytes that encode no character are
  shown as `\x` with two digits.
-/

namespace FormatDaemon.Text

/-- A lower-case hexadecimal digit. -/
def hexDigit (n : Nat) : Char :=
  if n < 10 then Char.ofNat ('0'.toNat + n) else Char.ofNat ('a'.toNat + (n - 10))

/-- The hexadecimal digits of a number, without leading zeros. -/
def hexDigits (n : Nat) : List Char := Nat.toDigits 16 n

/-- How one character is shown between double quotes. -/
def quotedChar (c : Char) : List Char :=
  if c = '\x00' then ['\\', '0']
  else if c = '\t' then ['\\', 't']
  else if c = '\r' then ['\\', 'r']
  else if c = '\n' then ['\\', 'n']
  else if c = '"' then ['\\', '"']
  else if c = '\\' then ['\\', '\\']
  else if isHidden c then '\\' :: 'u' :: '\x7b' :: hexDigits c.toNat ++ ['\x7d']
  else [c]

/-- A text in double quotes. -/
def quoted (text : String) : String :=
  String.ofList ('"' :: text.toList.flatMap quotedChar ++ ['"'])

/-- An upper-case two-digit byte. -/
def hexByte (b : UInt8) : List Char :=
  [hexDigit (b.toNat / 16), hexDigit (b.toNat % 16)].map Char.toUpper

/-- How one piece of a byte string is shown between double quotes. -/
def quotedPiece : Utf8.Piece → List Char
  | .scalar c => quotedChar c
  | .broken run => run.flatMap fun b => '\\' :: 'x' :: hexByte b

/-- A byte string in double quotes. -/
def quotedBytes (bytes : List UInt8) : String :=
  String.ofList ('"' :: (Utf8.pieces bytes).flatMap quotedPiece ++ ['"'])

end FormatDaemon.Text
