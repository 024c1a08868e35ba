import FormatDaemon.Path

/-!
# File trees

What can be learned about files without reading the disk: a finite tree of
directories, files and symbolic links, and a working directory in it.

* `find`: the entry a path leads to, following links, or why there is none.
* `findWithin`: the same for a name in a directory that links may not leave.
* `isFile`: whether a path leads to a file.
* `withDirectory`, `withFile`, `withLink`: building a tree.
-/

namespace FormatDaemon

/-- What stands at a place of a tree. -/
inductive Entry where
  | directory
  | file (content : List UInt8) (executable : Bool)
  | link (target : Path)
  deriving Repr

/-- Why a path leads nowhere. -/
inductive Astray where
  | missing
  | notDirectory
  | nameTooLong
  | tooManyLinks
  /-- Out of a directory that may not be left. -/
  | outside
  deriving DecidableEq, Repr

/-- A tree and the working directory that relative paths start from. -/
structure FileTree where
  base : List Path.Name
  entries : List (List Path.Name × Entry)

namespace FileTree

/-- What stands at a place; the root and what is above an entry are directories. -/
def entryAt (t : FileTree) (place : List Path.Name) : Option Entry :=
  match t.entries.lookup place with
  | some entry => some entry
  | none =>
    if place.isPrefixOf t.base || t.entries.any (fun e => place.isPrefixOf e.1) then
      some .directory
    else none

/-- The bytes a name may have. -/
def longestName : Nat := 255

/-- The bytes a path may have. -/
def longestPath : Nat := 4095

/-- The links that may be followed on one way. -/
def linkLimit : Nat := 40

/-- The names that may be walked on one way. -/
def stepLimit : Nat := 10000

/-- Walks names from a directory. The numbers bound the names walked and the links
followed. With a floor the walk may not leave that directory. -/
def follow (t : FileTree) (floor? : Option (List Path.Name)) :
    Nat → Nat → List Path.Name → List Path.Name → Except Astray (List Path.Name × Entry)
  | 0, _, _, _ => .error .tooManyLinks
  | _, _, place, [] => .ok (place, .directory)
  | fuel + 1, links, place, n :: rest =>
    if n = [] || n = [Path.dot] then t.follow floor? fuel links place rest
    else if n = [Path.dot, Path.dot] then
      if floor? = some place then .error .outside
      else t.follow floor? fuel links place.dropLast rest
    else if longestName < n.length then .error .nameTooLong
    else
      match t.entryAt (place ++ [n]) with
      | none => .error .missing
      | some .directory => t.follow floor? fuel links (place ++ [n]) rest
      | some (.file content executable) =>
        if rest.isEmpty then .ok (place ++ [n], .file content executable)
        else .error .notDirectory
      | some (.link target) =>
        match links with
        | 0 => .error .tooManyLinks
        | links + 1 =>
          if !target.isAbsolute then t.follow floor? fuel links place (target.names ++ rest)
          else if floor?.isSome then .error .outside
          else t.follow floor? fuel links [] (target.names ++ rest)

/-- The entry a path leads to, or why there is none. -/
def find (t : FileTree) (p : Path) : Except Astray (List Path.Name × Entry) :=
  if p.bytes = [] || p.bytes.contains 0 then .error .missing
  else if longestPath < p.bytes.length then .error .nameTooLong
  else t.follow none stepLimit linkLimit (if p.isAbsolute then [] else t.base) p.names

/-- The entry that a name in a directory leads to. A link on the way may not lead out
of the directory, not even to come back. -/
def findWithin (t : FileTree) (place : List Path.Name) (name : Path.Name) :
    Except Astray (List Path.Name × Entry) :=
  t.follow (some place) stepLimit linkLimit place [name]

/-- Whether a path leads to a file. -/
def isFile (t : FileTree) (p : Path) : Bool :=
  match t.find p with
  | .ok (_, .file _ _) => true
  | _ => false

/-- The path of a place. -/
def pathOf (place : List Path.Name) : Path := .ofNames true place

/-- The place of a path that need not lead anywhere. -/
def placeOf (t : FileTree) (p : Path) : List Path.Name :=
  let start := if p.isAbsolute then [] else t.base
  p.parts.foldl Path.walk start

/-- The tree with an entry at a place, in place of an earlier one. -/
def put (t : FileTree) (p : Path) (entry : Entry) : FileTree :=
  let place := t.placeOf p
  { t with entries := (place, entry) :: t.entries.filter (·.1 != place) }

/-- The tree with a directory. -/
def withDirectory (t : FileTree) (p : Path) : FileTree := t.put p .directory

/-- The tree with a file that is not a program. -/
def withFile (t : FileTree) (p : Path) (content : List UInt8) : FileTree :=
  t.put p (.file content false)

/-- The tree with a program, whose content is no text. -/
def withProgram (t : FileTree) (p : Path) : FileTree := t.put p (.file [0xFF] true)

/-- The tree with a symbolic link. -/
def withLink (t : FileTree) (p target : Path) : FileTree := t.put p (.link target)

end FileTree

end FormatDaemon
