import FormatDaemon.Log
import FormatDaemon.Pattern.Reader

/-!
# Log filters

A filter is a list of directives, separated by commas. A directive names a level,
or a target and its level, and may ask for fields of an event in brackets, each with a
number or a pattern for its value. Of the directives that fit an event, the most
specific one decides.

* `Directive.parse`: one directive.
* `Filter.parse`: a filter; `Filter.enables`: what it lets through.
-/

namespace FormatDaemon

/-- The least important level that is let through; none lets nothing through. -/
abbrev Verbosity := Option Level

namespace Verbosity

/-- Whether a level is let through. -/
def allows (v : Verbosity) (level : Level) : Bool := v.any fun least => level.rank ≤ least.rank

/-- The verbosities, by number. -/
def all : List Verbosity :=
  [none, some .error, some .warn, some .info, some .debug, some .trace]

/-- The name of a verbosity. -/
def name : Verbosity → String
  | none => "off"
  | some level => level.name

/-- The number a text spells in digits, with or without a plus sign. -/
def number? (text : List Char) : Option Nat :=
  let digits := if text.head? = some '+' then text.tail else text
  if digits.isEmpty || !digits.all Char.isDigit then none
  else some (digits.foldl (fun n c => 10 * n + (c.toNat - '0'.toNat)) 0)

/-- The verbosity a text names or numbers; the empty text lets errors through. -/
def parse? (text : List Char) : Option Verbosity :=
  match (number? text).bind (all[·]?) with
  | some v => some v
  | none =>
    if text.isEmpty then some (some .error)
    else all.find? fun v => Text.eqIgnoreAsciiCase v.name (String.ofList text)

end Verbosity

namespace Log

/-- What is wrong with a filter. -/
inductive FilterFault where
  | directive
  | level
  | field (fault : PatternFault)
  deriving DecidableEq, Repr

/-- The wording of a fault. -/
def FilterFault.message : FilterFault → String
  | .directive => "invalid filter directive"
  | .level =>
    "error parsing level filter: expected one of \"off\", \"error\", \"warn\", \"info\", " ++
      "\"debug\", \"trace\", or a number 0-5"
  | .field fault => "invalid field filter: " ++ fault.message

/-! ### Directives -/

/-- A field that is asked for, and the value it should have if that matters. -/
structure FieldQuery where
  name : List Char
  value? : Option (List Char)
  deriving DecidableEq, Repr

/-- A directive. -/
structure Directive where
  target? : Option (List Char) := none
  /-- The span that an event must lie in. -/
  span? : Option (List Char) := none
  fields : List FieldQuery := []
  verbosity : Verbosity := some .trace
  deriving DecidableEq, Repr

/-- How far a directive has been read, and where the part that is being read starts. -/
inductive Stage where
  | start
  | levelOrTarget (start : Nat)
  | span (start : Nat)
  | field (start : Nat)
  | fields
  | target
  | level (start : Nat)

/-- Behind a sign, if there is one. -/
def behindSign : List Char → List Char
  | '+' :: rest => rest
  | '-' :: rest => rest
  | cs => cs

/-- Whether some characters are the power of ten at the end of a numeral, or nothing. -/
def isScale : List Char → Bool
  | [] => true
  | e :: rest =>
    let digits := behindSign rest
    (e = 'e' || e = 'E') && !digits.isEmpty && digits.all Char.isDigit

/-- Whether some characters are a decimal numeral without a sign. -/
def isDecimal (cs : List Char) : Bool :=
  let whole := cs.takeWhile Char.isDigit
  match cs.dropWhile Char.isDigit with
  | '.' :: rest =>
    !(whole.isEmpty && (rest.takeWhile Char.isDigit).isEmpty) &&
      isScale (rest.dropWhile Char.isDigit)
  | rest => !whole.isEmpty && isScale rest

/-- Whether a text is a number. -/
def isNumber (text : List Char) : Bool :=
  let magnitude := behindSign text
  ["inf", "infinity", "nan"].contains (String.ofList (magnitude.map Char.toLower)) ||
    isDecimal magnitude

/-- A field query from its text. A value that is no number has to be a pattern. -/
def FieldQuery.ofText (text : List Char) : Except FilterFault FieldQuery :=
  match Text.cutChars '=' text with
  | name :: value :: _ =>
    if isNumber value then .ok ⟨name, some value⟩
    else
      match Pattern.check value with
      | .ok () => .ok ⟨name, some value⟩
      | .error fault => .error (.field fault)
  | parts => .ok ⟨parts.flatten, none⟩

/-- The directive with one more field query, unless its text is empty. -/
def Directive.withField (d : Directive) (text : List Char) : Except FilterFault Directive :=
  if text.isEmpty then .error .directive
  else (FieldQuery.ofText text).map fun query => { d with fields := d.fields ++ [query] }

/-- The directive with the verbosity a text names; without a text it is the highest. -/
def Directive.withLevel (d : Directive) (text : List Char) : Except FilterFault Directive :=
  if text.isEmpty then .ok { d with verbosity := some .trace }
  else
    match Verbosity.parse? text with
    | some v => .ok { d with verbosity := v }
    | none => .error .level

/-- Whether a directive may start with a character other than a bracket. -/
def startsDirective (c : Char) : Bool :=
  c = '-' || c = ':' || c = '_' || Text.isAlphanumeric c

/-- The part of a text from a byte on. -/
def behind : List Char → Nat → List Char
  | c :: rest, start => if start = 0 then c :: rest else behind rest (start - c.utf8Size)
  | [], _ => []

/-- The part of a text before a byte. -/
def before : List Char → Nat → List Char
  | c :: rest, stop => if stop = 0 then [] else c :: before rest (stop - c.utf8Size)
  | [], _ => []

/-- The part of a text between two bytes. -/
def slice (text : List Char) (start stop : Nat) : List Char := behind (before text stop) start

/-- Reads the character at a byte. -/
def Directive.step (text : List Char) (d : Directive) (i : Nat) (c : Char) :
    Stage → Except FilterFault (Directive × Stage)
  | .start =>
    if c = '[' then .ok (d, .span (i + 1))
    else if startsDirective c then .ok (d, .levelOrTarget i)
    else .error .directive
  | .levelOrTarget start =>
    if c = '=' then .ok ({ d with target? := some (slice text start i) }, .level (i + 1))
    else if c = '[' then .ok ({ d with target? := some (slice text start i) }, .span (i + 1))
    else .ok (d, .levelOrTarget start)
  | .target => if c = '=' then .ok (d, .level (i + 1)) else .error .directive
  | .span start =>
    let name := slice text start i
    if c = ']' then .ok ({ d with span? := some name }, .target)
    else if c = '\x7b' then
      .ok ({ d with span? := if name.isEmpty then none else some name }, .field (i + 1))
    else .ok (d, .span start)
  | .field start =>
    if c = '\x7d' then (d.withField (slice text start i)).map (·, .fields)
    else .ok (d, .field start)
  | .fields => if c = ']' then .ok (d, .target) else .error .directive
  | .level start => .ok (d, .level start)

/-- The directive once all is read. A text that is no level is a target. -/
def Directive.finish (text : List Char) (d : Directive) : Stage → Except FilterFault Directive
  | .levelOrTarget start =>
    match Verbosity.parse? (behind text start) with
    | some v => .ok { d with verbosity := v, target? := none }
    | none => .ok { d with target? := some (behind text start) }
  | .level start => d.withLevel (behind text start)
  | .target => .ok d
  | .start | .span _ | .field _ | .fields => .error .directive

/-- Reads characters from a byte on. -/
def Directive.read (text : List Char) (d : Directive) (i : Nat) (stage : Stage) :
    List Char → Except FilterFault Directive
  | [] => d.finish text stage
  | c :: rest => do
    let (d, stage) ← d.step text i c stage
    d.read text (i + c.utf8Size) stage rest

/-- A directive from its text. Bytes are counted without the blanks around the text, but
its parts are cut with them, so blanks never make a level. -/
def Directive.parse (text : List Char) : Except FilterFault Directive :=
  Directive.read text {} 0 .start (Text.trimChars text)

/-- Whether a directive depends on spans alone or on values. -/
def Directive.isStatic (d : Directive) : Bool :=
  d.span?.isNone && d.fields.all (·.value?.isNone)

/-- Whether a directive asks for a span or for fields. -/
def Directive.isScoped (d : Directive) : Bool := d.span?.isSome || !d.fields.isEmpty

/-- The names of the fields that a directive asks for. -/
def Directive.fieldNames (d : Directive) : List String :=
  d.fields.map fun f => String.ofList f.name

/-- Whether a directive speaks about an event. -/
def Directive.fits (d : Directive) (e : Event) : Bool :=
  (d.target?.all fun target => target.isPrefixOf e.target.toList) &&
    d.fieldNames.all fun name => name = "message" || e.details.any (·.1 = name)

/-! ### Filters -/

/-- The number of bytes of a text. -/
def byteLength (text : List Char) : Nat := text.foldl (fun n c => n + c.utf8Size) 0

/-- Orders optional numbers: none comes first. -/
def compareOptional : Option Nat → Option Nat → Ordering
  | none, none => .eq
  | none, some _ => .lt
  | some _, none => .gt
  | some a, some b => compare a b

/-- Orders lists of names. -/
def compareNames : List String → List String → Ordering
  | [], [] => .eq
  | [], _ :: _ => .lt
  | _ :: _, [] => .gt
  | a :: as, b :: bs => (compare a b).then (compareNames as bs)

/-- Orders directives by how specific they are: by the length of the target, then
by the number of fields, then by the names. -/
def Directive.compare (a b : Directive) : Ordering :=
  (compareOptional (a.target?.map byteLength) (b.target?.map byteLength)).then
    ((Ord.compare a.fields.length b.fields.length).then
      ((Ord.compare (String.ofList (a.target?.getD [])) (String.ofList (b.target?.getD []))).then
        (compareNames a.fieldNames b.fieldNames)))

/-- A list of directives with one more, the most specific ones first; it takes the
place of an equally specific one with the same names. -/
def insertDirective (d : Directive) : List Directive → List Directive
  | [] => [d]
  | e :: rest =>
    match d.compare e with
    | .gt => d :: e :: rest
    | .eq => d :: rest
    | .lt => e :: insertDirective d rest

/-- A filter: the directives that decide, the most specific ones first. -/
structure Filter where
  directives : List Directive
  deriving Repr

/-- The filter of a list of directives. Without any, errors are let through. -/
def Filter.ofDirectives (ds : List Directive) : Filter :=
  if ds.isEmpty then ⟨[{ verbosity := some .error }]⟩
  else
    let ordered := ds.filter (!·.isScoped) ++ ds.filter (·.isScoped)
    ⟨(ordered.filter (·.isStatic)).foldl (fun fs d => insertDirective d fs) []⟩

/-- A filter from its text. -/
def Filter.parse (text : String) : Except FilterFault Filter :=
  (((Text.cutChars ',' text.toList).filter (!·.isEmpty)).mapM Directive.parse).map
    Filter.ofDirectives

/-- Whether a filter lets an event through. -/
def Filter.enables (f : Filter) (e : Event) : Bool :=
  match f.directives.find? (·.fits e) with
  | some d => d.verbosity.allows e.level
  | none => false

end Log

end FormatDaemon
