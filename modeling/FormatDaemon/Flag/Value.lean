import FormatDaemon.Json.Printer
import FormatDaemon.Number.Limits
import FormatDaemon.Text.Quoted

/-!
# Flag values

A value on the command line is text; two words and all numerals mean more.

* `Value.ofText`: the value a text spells.
* `Value.toJson`: the value as the engine gets it.
-/

namespace FormatDaemon.Flag

/-- The value of an option. -/
inductive Value where
  | switch (on : Bool)
  | number (n : Number)
  | text (s : String)
  deriving DecidableEq, Repr

namespace Value

/-- Whether a character is a decimal digit. -/
def isDigit (c : Char) : Bool := '0' ≤ c && c ≤ '9'

/-- The natural a list of digits denotes. -/
def naturalOf (digits : List Char) : Nat :=
  digits.foldl (fun n c => n * 10 + (c.toNat - '0'.toNat)) 0

/-- The number a natural becomes: itself in 64 bits, otherwise the nearest real. -/
def numberOf? (n : Nat) : Option Number :=
  if n < Limit.nat64 then some (.integer n) else (Binary64.ofNat? n).map .real

/-- The value a text spells: a truth value, a numeral of digits only, or text. -/
def ofText (text : String) : Value :=
  if text = "true" then .switch true
  else if text = "false" then .switch false
  else if text.toList.all isDigit then
    match numberOf? (naturalOf text.toList) with
    | some n => .number n
    | none => .text text
  else .text text

/-- The value as the engine gets it. -/
def toJson : Value → Json
  | .switch on => .bool on
  | .number n => .number n
  | .text s => .string s

/-- The value with its kind, as log records show it. -/
def shown : Value → String
  | .switch on => "Bool(" ++ toString on ++ ")"
  | .number n => "Number(Number(" ++ n.text ++ "))"
  | .text s => "Text(" ++ Text.quoted s ++ ")"

end Value

end FormatDaemon.Flag
