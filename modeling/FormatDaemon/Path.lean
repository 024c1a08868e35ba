import FormatDaemon.Text.Utf8

/-!
# Paths

A path is a byte string; a slash separates names. Nothing here looks at a file
system: parts and parents are read off the bytes.

* `parts`: the names, with root, `.` and `..` as parts of their own.
* `extension?`: what stands behind the last dot.
* `join`: a path seen from a directory.
* `parent?`: the path without its last part.
* `normal`: the path with `.` and `..` folded; `resolve` joins and folds.
-/

namespace FormatDaemon

/-- A path as bytes. -/
structure Path where
  bytes : List UInt8
  deriving DecidableEq, Repr, Inhabited

namespace Path

/-- A name between slashes. -/
abbrev Name := List UInt8

/-- The byte that separates names. -/
def slash : UInt8 := 0x2F

/-- The byte of a dot. -/
def dot : UInt8 := 0x2E

/-- The path a text spells. -/
def ofText (text : String) : Path := ⟨Utf8.encode text⟩

/-- The path as text, if its bytes are text. -/
def text? (p : Path) : Option String := Utf8.decode? p.bytes

/-- The path as it is shown, with U+FFFD for bytes that are no text. -/
def shown (p : Path) : String := Utf8.decodeLossy p.bytes

/-- Whether the path starts at the root. -/
def isAbsolute (p : Path) : Bool := p.bytes.head? = some slash

/-- The path without the slash of the root. -/
def body (p : Path) : List UInt8 := if p.isAbsolute then p.bytes.tail else p.bytes

/-- The byte that separates the paths of a list. -/
def colon : UInt8 := 0x3A

/-- Cuts a byte string at every separator. -/
def cutAt (separator : UInt8) : List UInt8 → List Name
  | [] => [[]]
  | b :: rest =>
    match cutAt separator rest with
    | [] => [[b]]
    | name :: more => if b = separator then [] :: name :: more else (b :: name) :: more

/-- Puts slashes between names. -/
def glue : List Name → List UInt8
  | [] => []
  | [name] => name
  | name :: rest => name ++ slash :: glue rest

/-- The names of a path, empty ones and dots included. -/
def names (p : Path) : List Name := cutAt slash p.body

/-- A part of a path. -/
inductive Part where
  | root
  | here
  | up
  | name (n : Name)
  deriving DecidableEq, Repr

/-- The part a name stands for; empty names and dots stand for none. -/
def part? (n : Name) : Option Part :=
  if n = [] || n = [dot] then none
  else if n = [dot, dot] then some .up
  else some (.name n)

/-- The parts of a path. A dot counts only at the start of a relative path. -/
def parts (p : Path) : List Part :=
  let rest := p.names.filterMap part?
  if p.isAbsolute then .root :: rest
  else if p.names.head? = some [dot] then .here :: rest
  else rest

/-- The last name of a path, if that is where it ends. -/
def fileName? (p : Path) : Option Name :=
  match p.parts.getLast? with
  | some (.name n) => some n
  | _ => none

/-- What stands behind the last dot of the last name; a dot in front does not count. -/
def extension? (p : Path) : Option Name := do
  let name ← p.fileName?
  let tail := name.reverse.takeWhile (· != dot)
  if tail.length + 1 < name.length then return tail.reverse else none

/-- The path seen from a directory; an absolute path does not depend on it. -/
def join (base p : Path) : Path :=
  if p.isAbsolute then p
  else if base.bytes = [] || base.bytes.getLast? = some slash then ⟨base.bytes ++ p.bytes⟩
  else ⟨base.bytes ++ slash :: p.bytes⟩

/-- Whether a name adds nothing to a path, given whether it is its first name. -/
def isIdle (absolute first : Bool) (n : Name) : Bool :=
  n = [] || (n = [dot] && (absolute || !first))

/-- Drops the idle names at the end of a path. -/
def dropIdle (absolute : Bool) (names : List Name) : List Name :=
  match names with
  | [] => []
  | first :: rest =>
    match (rest.reverse.dropWhile (isIdle absolute false)).reverse with
    | [] => if isIdle absolute true first then [] else [first]
    | kept => first :: kept

/-- The path without its last part; the root and the empty path have none. -/
def parent? (p : Path) : Option Path :=
  match dropIdle p.isAbsolute p.names with
  | [] => none
  | kept =>
    let above := glue (dropIdle p.isAbsolute kept.dropLast)
    some ⟨if p.isAbsolute then slash :: above else above⟩

/-- The names on the way to a part: `..` leaves the last name, if there is one. -/
def walk (stack : List Name) : Part → List Name
  | .root | .here => stack
  | .up => stack.dropLast
  | .name n => stack ++ [n]

/-- The path of a list of names. -/
def ofNames (absolute : Bool) (names : List Name) : Path :=
  ⟨if absolute then slash :: glue names else glue names⟩

/-- The path with `.` and `..` folded, from its first part to its last. -/
def normal (p : Path) : Path := ofNames p.isAbsolute (p.parts.foldl walk [])

/-- A target seen from a directory, in normal form. -/
def resolve (base : Path) (target : String) : Path := (base.join (ofText target)).normal

end Path

end FormatDaemon
