import FormatDaemon.Flag.Key
import FormatDaemon.Flag.Value
import FormatDaemon.Table

/-!
# Flag tokens

A token is a name behind dashes, alone or with a value behind an equals sign.
Every token is an entry of the option table, and a later one takes the place of
an earlier one with its name.

* `entry`: the entry of one token.
* `tableOf`: the table of a list of tokens.
-/

namespace FormatDaemon.Flag

/-- The name and the value of a token; the value is empty without an equals sign. -/
def halves (chars : List Char) : List Char × List Char :=
  (chars.takeWhile (· != '='), (chars.dropWhile (· != '=')).drop 1)

/-- The name behind `no-`, if a name starts so. -/
def negated? : List Char → Option (List Char)
  | 'n' :: 'o' :: '-' :: rest => some rest
  | _ => none

/-- The entry of a token: with a value, that value; without one, a switch that
is off behind `no-` and on otherwise. -/
def entry (token : String) : String × Value :=
  let (name, value) := halves (token.toList.dropWhile (· = '-'))
  if value = [] then
    match negated? name with
    | some rest => (camelCase (String.ofList rest), .switch false)
    | none => (camelCase (String.ofList name), .switch true)
  else (camelCase (String.ofList name), .ofText (String.ofList value))

/-- The table of a list of tokens. -/
def tableOf (tokens : List String) : Table Value := Table.ofList (tokens.map entry)

end FormatDaemon.Flag
