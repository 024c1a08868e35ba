import FormatDaemon.FileTree
import FormatDaemon.Settings.Layer
import FormatDaemon.Text.Blank
import FormatDaemon.Toml.Reader

/-!
# Settings files

A settings file is a TOML document. It may build on another file, over whose settings
its own are laid.

* `candidates`: where settings files are looked for, in order.
* `content?`: what is in a file; a link to it may not lead out of its directory.
* `layer`: the settings of a file, or what is wrong with it.
* `firstLayer`: the settings of the first file that can be read.
-/

namespace FormatDaemon.Settings.File

/-- What can be wrong with a settings file. -/
inductive Fault where
  | noName
  | notFile
  | unreachable (why : Astray)
  | notText
  | malformed
  | unknownFormat
  /-- The name of the file it builds on is no text or empty. -/
  | badBase
  | circular
  deriving DecidableEq, Repr

/-- The wording of a fault. -/
def Fault.message : Fault → String
  | .noName => "the path ends in no name"
  | .notFile => "not a regular file"
  | .unreachable .missing => "no such file"
  | .unreachable .notDirectory => "not a directory"
  | .unreachable .nameTooLong => "a name is too long"
  | .unreachable .tooManyLinks => "too many links"
  | .unreachable .outside => "a link leads out of its directory"
  | .notText => "the file is not valid UTF-8"
  | .malformed => "the file is not valid TOML"
  | .unknownFormat => "the format of the file is not supported"
  | .badBase => "the extended file has no name"
  | .circular => "the file extends itself"

/-! ### Where files are looked for -/

/-- The name of the directory of settings. -/
def directoryName : String := "prettierd"

/-- The name of the file in that directory. -/
def fileName : String := "config.toml"

/-- The name of the file elsewhere. -/
def hiddenName : String := ".prettierd.toml"

/-- The files in a directory for settings. -/
def inDirectory (directory : Path) : List Path :=
  [(directory.join (.ofText directoryName)).join (.ofText fileName),
    directory.join (.ofText hiddenName)]

/-- The path a variable holds, if it is set. -/
def pathOf? (vars : List (List UInt8 × List UInt8)) (name : String) : Option Path :=
  (vars.lookup (Utf8.encode name)).map Path.mk

/-- The directories for settings of all users. -/
def sharedDirectories (vars : List (List UInt8 × List UInt8)) : List Path :=
  match vars.lookup (Utf8.encode "XDG_CONFIG_DIRS") with
  | some value => ((Path.cutAt Path.colon value).filter (!·.isEmpty)).map Path.mk
  | none => [.ofText "/etc/xdg"]

/-- Where settings files are looked for, in order: the file that is named, the
directories for settings, the home directory, and the working directory. A directory
with an empty name is the working directory, but a file needs a name. -/
def candidates (vars : List (List UInt8 × List UInt8)) : List Path :=
  let named := (pathOf? vars "PRETTIERD_CONFIG_PATH").toList.filter (!·.bytes.isEmpty)
  let own := (pathOf? vars "XDG_CONFIG_HOME").toList
  let roaming := ["APPDATA", "LOCALAPPDATA"].filterMap (pathOf? vars)
  let homes := (pathOf? vars "HOME").toList
  named ++ (own ++ sharedDirectories vars ++ roaming).flatMap inDirectory ++
    homes.flatMap (fun home =>
      inDirectory (home.join (.ofText ".config")) ++ [home.join (.ofText hiddenName)]) ++
    [.ofText hiddenName]

/-! ### What is in a file -/

/-- The content of a file that need not exist. A link in its place may not lead out of
the directory it stands in. -/
def content? (tree : FileTree) (p : Path) : Except Fault (Option (List UInt8)) :=
  match p.fileName?, p.parent? with
  | some name, some above =>
    match tree.find (if above.bytes.isEmpty then .ofText "." else above) with
    | .error .missing => .ok none
    | .error why => .error (.unreachable why)
    | .ok (_, .file _ _) => .error (.unreachable .notDirectory)
    | .ok (place, _) =>
      match tree.findWithin place name with
      | .error .missing => .ok none
      | .error why => .error (.unreachable why)
      | .ok (_, .file content _) => .ok (some content)
      | .ok _ => .error .notFile
  | _, _ => .error .noName

/-- The place of a file, all links followed. -/
def placeOf (tree : FileTree) (p : Path) : Except Fault (List Path.Name) :=
  match tree.find p with
  | .ok (place, .file _ _) => .ok place
  | .ok _ => .error .notFile
  | .error why => .error (.unreachable why)

/-- The endings of files in other formats. -/
def otherEndings : List String := ["json", "json5", "yaml", "yml"]

/-- Whether a path names a file in another format. -/
def isOther (p : Path) : Bool :=
  p.extension?.any fun ending =>
    otherEndings.any fun other => Text.eqIgnoreAsciiCase other (Utf8.decodeLossy ending)

/-- The settings in the content of a file, whose format its name tells. -/
def parse (p : Path) (content : List UInt8) : Except Fault Layer := do
  if isOther p then throw .unknownFormat
  match Utf8.decode? content with
  | none => throw .notText
  | some text =>
    match Toml.ofText? text with
    | none => throw .malformed
    | some members => return .ofList (Toml.membersToJson members)

/-- The file that settings build on, seen from the place of their own file. -/
def base? (place : List Path.Name) (settings : Layer) : Except Fault (Option Path) :=
  match settings.get? "extends" with
  | none => .ok none
  | some (.string "") => .error .badBase
  | some (.string name) =>
    .ok (some ((FileTree.pathOf place.dropLast).join (.ofText name)))
  | some _ => .error .badBase

/-- The settings of a file, over those it builds on; none if there is no such file.
Once it is read, links no longer count: its format and what it builds on are seen from
the place they lead to. The number bounds how many files may build on each other. -/
def layerWithin (tree : FileTree) : Nat → Path → Except Fault (Option Layer)
  | 0, _ => .error .circular
  | fuel + 1, p => do
    match ← content? tree p with
    | none => return none
    | some content =>
      let place ← placeOf tree p
      let own ← parse (FileTree.pathOf place) content
      match ← base? place own with
      | none => return some own
      | some base =>
        let below? ← layerWithin tree fuel (FileTree.pathOf (← placeOf tree base))
        return some (own.over (below?.getD .empty))

/-- The settings of a file. A chain longer than the number of files is circular. -/
def layer (tree : FileTree) (p : Path) : Except Fault (Option Layer) :=
  layerWithin tree (tree.entries.length + 1) p

/-- The settings of the first file that can be read, none if there is no file, or
what is wrong with the first file if none can be read. -/
def firstLayer (tree : FileTree) : List Path → Except (Path × Fault) (Option Layer)
  | [] => .ok none
  | p :: rest =>
    match layer tree p with
    | .ok (some settings) => .ok (some settings)
    | .ok none => firstLayer tree rest
    | .error fault =>
      match firstLayer tree rest with
      | .ok (some settings) => .ok (some settings)
      | _ => .error (p, fault)

end FormatDaemon.Settings.File
