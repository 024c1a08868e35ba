import FormatDaemon.Pattern.Set

/-!
# Reading patterns

A pattern is read once, from left to right, for whether an automaton can be built for it.

* `Part`: what matters of what was read.
* `switches`: the switches of a group; `group`: how a group starts.
* `branches`: the content of a group, or of the whole pattern.
* `check`: what is wrong with a pattern.

A pattern stands between an equals sign and the brace that closes a list of fields, so it
has no closing brace of its own, and a count in braces never ends.
-/

namespace FormatDaemon

/-- What is wrong with a pattern. -/
inductive PatternFault where
  | malformed
  /-- The edges of words of Unicode cannot be found by looking at bytes. -/
  | unicodeEdges
  deriving DecidableEq, Repr

/-- The wording of a fault. -/
def PatternFault.message : PatternFault → String
  | .malformed => "error building NFA"
  | .unicodeEdges =>
    "unsupported regex feature for DFAs: cannot build DFAs for regexes with Unicode word " ++
      "boundaries; switch to ASCII word boundaries, or heuristically enable Unicode word " ++
      "boundaries or use a different regex engine"

namespace Pattern

/-- What matters of a part of a pattern. -/
structure Part where
  /-- How many parts stand in each other. -/
  depth : Nat := 0
  /-- Whether the edges of words of Unicode count. -/
  edges : Bool := false
  /-- The names of groups. -/
  names : List (List Char) := []
  /-- Whether it may be repeated; switches may not. -/
  repeatable : Bool := true
  deriving DecidableEq, Repr

/-- Parts that make one part. -/
def Part.join (parts : List Part) : Part where
  depth := depthOf (parts.map (·.depth))
  edges := parts.any (·.edges)
  names := parts.flatMap (·.names)

/-- A part around another one. -/
def Part.around (part : Part) (names : List (List Char)) : Part :=
  { part with depth := part.depth + 1, names := names ++ part.names, repeatable := true }

/-! ### Groups -/

/-- The mode with a switch on or off, if there is such a switch. -/
def Mode.switch (mode : Mode) (on : Bool) : Char → Option Mode
  | 'i' => some { mode with caseless := on }
  | 'u' => some { mode with unicode := on }
  | 'x' => some { mode with spaced := on }
  | 'm' | 's' | 'U' | 'R' => some mode
  | _ => none

/-- Switches up to a colon or a parenthesis, given those that were read, the last one
first; no switch is there twice. Returns the mode they lead to and whether they stand
alone, without a group. -/
def switches (mode : Mode) (read : List Char) : List Char → Option (Mode × Bool × List Char)
  | [] => none
  | ':' :: rest => if read.head? = some '-' then none else some (mode, false, rest)
  | ')' :: rest => if read.isEmpty || read.head? = some '-' then none else some (mode, true, rest)
  | c :: rest =>
    if read.contains c then none
    else if c = '-' then switches mode (c :: read) rest
    else do switches (← mode.switch (!read.contains '-') c) (c :: read) rest

/-- Whether a character may start a name. -/
def startsName (c : Char) : Bool := c = '_' || Text.isLetter c

/-- Whether a character may stand in a name behind its start. -/
def continuesName (c : Char) : Bool :=
  c = '_' || c = '.' || c = '[' || c = ']' || Text.isAlphanumeric c

/-- The name of a group up to its angle. -/
def groupName (cs : List Char) : Option (List Char × List Char) :=
  match cs.takeWhile (· != '>'), cs.dropWhile (· != '>') with
  | first :: more, _ :: rest =>
    if startsName first && more.all continuesName then some (first :: more, rest) else none
  | _, _ => none

/-- How a group starts: its mode, its names, and whether it is no group but switches for
what follows. -/
structure Start where
  mode : Mode
  names : List (List Char) := []
  alone : Bool := false

/-- The start of a named group. -/
def namedStart (mode : Mode) (cs : List Char) : Option (Start × List Char) := do
  let (name, rest) ← groupName cs
  return ({ mode, names := [name] }, rest)

/-- The start of a group behind its parenthesis. There is no looking ahead or behind. -/
def group (mode : Mode) (cs : List Char) : Option (Start × List Char) :=
  match mode.skip cs with
  | '?' :: 'P' :: '<' :: rest => namedStart mode rest
  | '?' :: '<' :: rest => namedStart mode rest
  | '?' :: rest => do
    let (mode, alone, rest) ← switches mode [] rest
    return ({ mode, alone }, rest)
  | rest => some ({ mode }, rest)

/-! ### Patterns -/

/-- A symbol outside of sets. -/
def symbol (mode : Mode) : List Char → Option (Symbol × List Char)
  | [] => none
  | '\\' :: rest => escaped mode rest
  | '.' :: rest => some (.any, rest)
  | '^' :: rest => some (.anchor, rest)
  | '$' :: rest => some (.anchor, rest)
  | '\x7b' :: _ => none
  | c :: rest => some (.literal c false, rest)

/-- The part that is one symbol. -/
def Part.ofSymbol (mode : Mode) (s : Symbol) : Part := { edges := s = .edge && mode.unicode }

/-- Behind the mark of a reluctant repetition. -/
def skipMark : List Char → List Char
  | '?' :: rest => rest
  | cs => cs

/-- The content of a group, up to its parenthesis or the end. `branch` holds the parts of
the current branch, the last one first, and `done` the branches before it. Switches hold
up to the end of their group. -/
def branches : Nat → Mode → List Part → List Part → List Char → Option (Part × List Char)
  | 0, _, _, _, _ => none
  | fuel + 1, mode, branch, done, cs =>
    match mode.skip cs with
    | [] => some (.join (.join branch :: done), [])
    | ')' :: rest => some (.join (.join branch :: done), ')' :: rest)
    | '|' :: rest => branches fuel mode [] (.join branch :: done) rest
    | '(' :: rest => do
      let (start, rest) ← group mode rest
      if start.alone then
        branches fuel start.mode ({ repeatable := false } :: branch) done rest
      else
        match ← branches fuel start.mode [] [] rest with
        | (inner, ')' :: rest) =>
          branches fuel mode (inner.around start.names :: branch) done rest
        | _ => none
    | '[' :: rest => do
      let (depth, rest) ← set fuel mode rest
      branches fuel mode ({ depth } :: branch) done rest
    | c :: rest =>
      if c = '?' || c = '*' || c = '+' then
        match branch with
        | [] => none
        | last :: before =>
          if last.repeatable then
            branches fuel mode (last.around [] :: before) done (skipMark rest)
          else none
      else do
        let (s, rest) ← symbol mode (c :: rest)
        if mode.takes s then branches fuel mode (.ofSymbol mode s :: branch) done rest else none

/-- How many parts may stand in each other. -/
def depthLimit : Nat := 250

/-- What is wrong with a pattern. -/
def check (cs : List Char) : Except PatternFault Unit :=
  match branches (3 * cs.length + 3) {} [] [] cs with
  | some (part, []) =>
    if depthLimit < part.depth || !decide part.names.Nodup then .error .malformed
    else if part.edges then .error .unicodeEdges
    else .ok ()
  | _ => .error .malformed

end Pattern

end FormatDaemon
