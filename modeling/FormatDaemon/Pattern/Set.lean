import FormatDaemon.Pattern.Symbol

/-!
# Sets of characters in patterns

A set stands in brackets. It holds characters, ranges, named classes and other sets, and
may be cut with, lessened by, or compared to another one. Sets are read for their faults
and for how deep they go.

* `set`: a set behind its bracket, with its depth.
-/

namespace FormatDaemon.Pattern

/-- How many parts stand in each other in a list of parts of given depths. -/
def depthOf : List Nat → Nat
  | [] => 0
  | [depth] => depth
  | depths => depths.foldl max 0 + 1

/-- Whether a mode has a meaning for a character in a set. -/
def Mode.holds (mode : Mode) (c : Char) : Bool :=
  if mode.unicode then !mode.caseless else c.toNat < 0x80

/-- The names of classes. -/
def classNames : List String :=
  ["alnum", "alpha", "ascii", "blank", "cntrl", "digit", "graph", "lower", "print", "punct",
    "space", "upper", "word", "xdigit"]

/-- A class by its name, behind a bracket: whether it is negated, and what follows. -/
def named? (cs : List Char) : Option (Bool × List Char) :=
  match cs with
  | ':' :: rest =>
    let negated := rest.head? = some '^'
    let rest := if negated then rest.tail else rest
    match rest.dropWhile (· != ':') with
    | ':' :: ']' :: behind =>
      if classNames.contains (String.ofList (rest.takeWhile (· != ':'))) then
        some (negated, behind)
      else none
    | _ => none
  | _ => none

/-- Whether a mode has a meaning for a named class. -/
def Mode.takesClass (mode : Mode) (negated : Bool) : Bool :=
  if mode.unicode then !mode.caseless else !negated

/-- A symbol in a set. -/
def symbolInSet (mode : Mode) : List Char → Option (Symbol × List Char)
  | [] => none
  | '\\' :: rest => escaped mode rest
  | c :: rest => some (.literal c false, rest)

/-- Whether a symbol may stand in a set on its own. -/
def Mode.takesInSet (mode : Mode) : Symbol → Bool
  | .literal c _ => mode.holds c
  | .kind negated => mode.takes (.kind negated)
  | .any | .anchor | .edge => false

/-- Whether two symbols make a range. -/
def Mode.takesRange (mode : Mode) : Symbol → Symbol → Bool
  | .literal a _, .literal b _ => mode.holds a && mode.holds b && a ≤ b
  | _, _ => false

/-- The first character that is no blank and does not start a comment. -/
def visible : (comment : Bool) → List Char → Option Char
  | _, [] => none
  | comment, c :: rest =>
    if Text.isBlank c then visible comment rest
    else if !comment && c = '#' then visible true rest
    else some c

/-- The character that decides what a hyphen before it means. -/
def Mode.ahead (mode : Mode) (cs : List Char) : Option Char :=
  if mode.spaced then (visible false cs).or cs.head? else cs.head?

/-- Behind a character or a range. A hyphen makes a range unless the set ends behind it
or another hyphen follows. -/
def member (mode : Mode) (cs : List Char) : Option (List Char) := do
  let (first, rest) ← symbolInSet mode cs
  match ← mode.next? rest with
  | '-' :: more =>
    if mode.ahead more = some ']' || mode.ahead more = some '-' then
      if mode.takesInSet first then return '-' :: more else none
    else
      let (last, rest) ← symbolInSet mode (← mode.next? more)
      if mode.takesRange first last then return rest else none
  | rest => if mode.takesInSet first then return rest else none

/-- Hyphens at the start of a set, and how many there are. -/
def hyphens (mode : Mode) : Nat → List Char → Option (Nat × List Char)
  | 0, _ => none
  | fuel + 1, cs =>
    match cs with
    | '-' :: rest => do
      let (count, rest) ← hyphens mode fuel (← mode.next? rest)
      return (count + 1, rest)
    | cs => some (0, cs)

/-- The start of a set behind its bracket: whether it is negated, and the number of
characters that stand for themselves because they are in front. -/
def opening (mode : Mode) (cs : List Char) : Option (Bool × Nat × List Char) := do
  let cs ← mode.next? cs
  let negated := cs.head? = some '^'
  let cs ← if negated then mode.next? cs.tail else some cs
  match ← hyphens mode (cs.length + 1) cs with
  | (0, ']' :: rest) =>
    let rest ← mode.next? rest
    if mode.holds ']' then return (negated, 1, rest) else none
  | (count, rest) => if count = 0 || mode.holds '-' then return (negated, count, rest) else none

/-- The depth of a part of a set, given the one it is joined to. -/
def joined (left? : Option Nat) (depths : List Nat) : Nat :=
  match left? with
  | none => depthOf depths
  | some left => depthOf [left, depthOf depths]

mutual

/-- A set behind its bracket, and its depth; the number bounds the reader. The negation
of a set of bytes would hold parts of encoded characters. -/
def set : Nat → Mode → List Char → Option (Nat × List Char)
  | 0, _, _ => none
  | fuel + 1, mode, cs => do
    let (negated, count, rest) ← opening mode cs
    let (depth, rest) ← members fuel mode none (List.replicate count 0) rest
    if negated && !mode.unicode then none else return (depth + 1, rest)

/-- The rest of a set, given the depths of what was read. -/
def members : Nat → Mode → Option Nat → List Nat → List Char → Option (Nat × List Char)
  | 0, _, _, _, _ => none
  | fuel + 1, mode, left?, depths, cs =>
    match mode.skip cs with
    | [] => none
    | ']' :: rest => some (joined left? depths, rest)
    | '&' :: '&' :: rest => members fuel mode (some (joined left? depths)) [] rest
    | '-' :: '-' :: rest => members fuel mode (some (joined left? depths)) [] rest
    | '~' :: '~' :: rest => members fuel mode (some (joined left? depths)) [] rest
    | '[' :: rest =>
      match named? rest with
      | some (negated, rest) =>
        if mode.takesClass negated then members fuel mode left? (0 :: depths) rest else none
      | none => do
        let (depth, rest) ← set fuel mode rest
        members fuel mode left? (depth :: depths) rest
    | cs => do members fuel mode left? (0 :: depths) (← member mode cs)

end

end FormatDaemon.Pattern
