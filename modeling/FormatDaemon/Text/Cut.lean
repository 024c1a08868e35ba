/-!
# Cutting texts

* `cutChars`, `cut`: the parts of a text between the occurrences of a character.
-/

namespace FormatDaemon.Text

/-- The parts between the occurrences of a character; there is at least one. -/
def cutChars (separator : Char) : List Char → List (List Char)
  | [] => [[]]
  | c :: rest =>
    match cutChars separator rest with
    | [] => [[c]]
    | part :: more => if c = separator then [] :: part :: more else (c :: part) :: more

/-- The parts of a text between the occurrences of a character. -/
def cut (separator : Char) (text : String) : List String :=
  (cutChars separator text.toList).map String.ofList

end FormatDaemon.Text
