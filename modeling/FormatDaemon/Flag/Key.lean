import FormatDaemon.Text.Uppercase

/-!
# Flag names

On the command line an option is spelled with dashes; everywhere else each dash
is gone and the letter after it is in upper case.

* `camelCase`: the spelling without dashes.
-/

namespace FormatDaemon.Flag

/-- The spelling without dashes of the rest of a name; `raise` after a dash. -/
def camelChars : Bool → List Char → List Char
  | _, [] => []
  | raise, c :: rest =>
    if c = '-' then camelChars true rest
    else if raise then Text.upper c ++ camelChars false rest
    else c :: camelChars false rest

/-- The spelling of an option name without dashes. -/
def camelCase (name : String) : String := String.ofList (camelChars false name.toList)

end FormatDaemon.Flag
