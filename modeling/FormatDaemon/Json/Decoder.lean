import FormatDaemon.Json.Reader

/-!
# Decoders

A decoder walks a located document and returns what it asked for or the first
fault it meets. Faults of the shape stand behind a scalar and before an array or
object; faults of a record as a whole stand behind it.

* `string`, `boolean`, `option`, `list`, `table`, `freeform`: the basic decoders.
* `Record`: records, from an object by name or from an array by position.
* `Tagged`: choices marked by one member of an object.
* `ofText`, `ofValue`, `ofPart`: running a decoder.
-/

namespace FormatDaemon.Json

/-- Reads a part of a document. -/
abbrev Decoder (α : Type) := Node → Except Fault α

namespace Decoder

variable {α β : Type}

/-- What a scalar number was found to be. -/
def foundNumber : Number → Found
  | .integer i => .integer i
  | .real x => .real x

/-- The fault of a part that is not what was asked for. -/
def mismatch (expected : String) : Node → Fault
  | .null span => ⟨.wrongType .null expected, span.stop⟩
  | .bool span b => ⟨.wrongType (.boolean b) expected, span.stop⟩
  | .number span (.ok n) => ⟨.wrongType (foundNumber n) expected, span.stop⟩
  | .number _ (.error fault) => fault
  | .string span (.ok s) => ⟨.wrongType (.text s) expected, span.stop⟩
  | .string _ (.error fault) => fault
  | .array span _ _ => ⟨.wrongType .sequence expected, span.start⟩
  | .object span _ _ => ⟨.wrongType .map expected, span.start⟩
  | .broken read _ _ => read

/-- A text, described as `expected` to whoever wrote something else. -/
def textual (expected : String) : Decoder String
  | .string _ reading => reading
  | node => .error (mismatch expected node)

/-- A text. -/
def string : Decoder String := textual "a string"

/-- A truth value. -/
def boolean : Decoder Bool
  | .bool _ b => .ok b
  | node => .error (mismatch "a boolean" node)

/-- Nothing, written as `null`. -/
def unit : Decoder Unit
  | .null _ => .ok ()
  | node => .error (mismatch "unit" node)

/-- `null`, or what another decoder reads. -/
def option (d : Decoder α) : Decoder (Option α)
  | .null _ => .ok none
  | node => (d node).map some

/-- The items of an array. -/
def itemsOf (d : Decoder α) : Items → Except Fault (List α)
  | .close _ => .ok []
  | .stuck read _ _ => .error read
  | .item _ node rest => do
    let head ← d node
    let tail ← itemsOf d rest
    return head :: tail

/-- A list. -/
def list (d : Decoder α) : Decoder (List α)
  | .array _ (some fault) _ => .error fault
  | .array _ none items => itemsOf d items
  | node => .error (mismatch "a sequence" node)

/-- The members of an object. -/
def membersOf (d : Decoder α) : Members → Except Fault (List (String × α))
  | .close _ _ => .ok []
  | .stuck _ read _ => .error read
  | .misnamed _ fault => .error fault
  | .member _ _ name _ node rest => do
    let name ← name
    let head ← d node
    let tail ← membersOf d rest
    return (name, head) :: tail

/-- A table; of members with one name the last stays. -/
def table (d : Decoder α) : Decoder (Table α)
  | .object _ (some fault) _ => .error fault
  | .object _ none members => (membersOf d members).map Table.ofList
  | node => .error (mismatch "a map" node)

/-- Any value. -/
def value : Decoder Json := fun node => node.document.map Json.normal

/-- A free-form object. -/
def freeform : Decoder Options := table value

/-! ### Records -/

/-- A field of a record under construction. -/
structure Slot (σ : Type) where
  name : String
  filled : σ → Bool
  read : Node → σ → Except Fault σ
  /-- What the end of an array before this field does, if that is allowed. -/
  absent? : Option (σ → σ)

/-- How a record is read: its fields fill `blank` one by one. -/
structure Record (σ α : Type) where
  title : String
  slots : List (Slot σ)
  blank : σ
  finish : σ → Except Cause α

namespace Record

variable {σ : Type}

/-- The description of a record with the number of its fields. -/
def sized (r : Record σ α) : String :=
  r.title ++ " with " ++
    (if r.slots.length = 1 then "1 element" else toString r.slots.length ++ " elements")

/-- The outcome of a record, a fault of the whole standing at a mark. -/
def close (r : Record σ α) (s : σ) (mark : Mark) : Except Fault α :=
  match r.finish s with
  | .ok a => .ok a
  | .error cause => .error ⟨cause, mark⟩

/-- Fills a record from the members of an object; unknown ones are passed over. -/
def ofMembers (r : Record σ α) (s : σ) : Members → Except Fault α
  | .close _ stop => r.close s stop
  | .stuck _ read _ => .error read
  | .misnamed _ fault => .error fault
  | .member _ _ name behind node rest => do
    let name ← name
    match r.slots.find? (·.name == name) with
    | some slot =>
      if slot.filled s then .error ⟨.repeatedField name, behind⟩
      else
        let s ← slot.read node s
        ofMembers r s rest
    | none =>
      match node.skip with
      | some fault => .error fault
      | none => ofMembers r s rest

/-- Fills the remaining fields of a record from the items of an array. -/
def ofItems (r : Record σ α) : List (Slot σ) → Nat → σ → Items → Except Fault α
  | [], _, s, .close stop => r.close s stop
  | [], _, _, .item surplus _ _ => .error surplus
  | [], _, _, .stuck _ _ surplus => .error surplus
  | slot :: slots, taken, s, .close stop =>
    match slot.absent? with
    | some fill => ofItems r slots (taken + 1) (fill s) (.close stop)
    | none => .error ⟨.wrongLength taken r.sized, stop⟩
  | slot :: slots, taken, s, .item _ node rest => do
    let s ← slot.read node s
    ofItems r slots (taken + 1) s rest
  | _ :: _, _, _, .stuck read _ _ => .error read

/-- A record, from an object or from an array. -/
def decode (r : Record σ α) : Decoder α
  | .object _ (some fault) _ => .error fault
  | .object _ none members => r.ofMembers r.blank members
  | .array _ (some fault) _ => .error fault
  | .array _ none items => r.ofItems r.slots 0 r.blank items
  | node => .error (mismatch r.title node)

end Record

/-- A field that must be there, kept as an optional value. -/
def field {σ : Type} (name : String) (get : σ → Option α) (set : α → σ → σ)
    (d : Decoder α) : Slot σ :=
  ⟨name, fun s => (get s).isSome, fun node s => (d node).map (set · s), none⟩

/-- A field that an array may leave out at its end. -/
def trailing {σ : Type} (name : String) (get : σ → Option α) (set : α → σ → σ)
    (d : Decoder α) : Slot σ :=
  { field name get set d with absent? := some id }

/-- The value of a field that must be there. -/
def required (name : String) : Option α → Except Cause α
  | some a => .ok a
  | none => .error (.missingField name)

/-! ### Choices -/

/-- The place of a name among the known ones. -/
def variantIndex (known : List String) (name : String) (mark : Mark) : Except Fault Nat :=
  match known.idxOf? name with
  | some i => .ok i
  | none => .error ⟨.unknownVariant name known, mark⟩

/-- The name of a choice. Outside a text it may also be given by its number. -/
def variant (known : List String) (numbered : Bool) : Decoder Nat
  | .string span reading => do variantIndex known (← reading) span.stop
  | .number span (.ok (.integer (.ofNat n))) =>
    if numbered then
      if n < known.length then .ok n else .error ⟨.wrongIndex n known.length, span.stop⟩
    else .error (mismatch "variant identifier" (.number span (.ok (.integer n))))
  | node => .error (mismatch "variant identifier" node)

/-- A choice without content: a name, or an object with a name and `null`. -/
def bare (known : List String) : Decoder Nat
  | .string span reading => do variantIndex known (← reading) span.stop
  | .object _ (some fault) _ => .error fault
  | .object _ none members =>
    match members with
    | .close _ stop => .error ⟨.valueExpected, stop⟩
    | .stuck _ read _ => .error read
    | .misnamed _ fault => .error fault
    | .member _ span name _ node rest => do
      let index ← variantIndex known (← name) span.stop
      unit node
      match rest with
      | .close _ _ => .ok index
      | .stuck here read _ =>
        .error (if read.cause = .endOfObject then read else ⟨.valueExpected, here⟩)
      | .member here _ _ _ _ _ | .misnamed here _ => .error ⟨.valueExpected, here⟩
  | .broken _ _ glance => .error glance
  | .null span => .error ⟨.valueExpected, span.peek⟩
  | .bool span _ => .error ⟨.valueExpected, span.peek⟩
  | .number span _ => .error ⟨.valueExpected, span.peek⟩
  | .array span _ _ => .error ⟨.valueExpected, span.peek⟩

/-- A choice whose name is one member of an object, or the first item of an
array; what else is there is set aside. -/
structure Tagged where
  tag : String
  title : String
  known : List String
  numbered : Bool

namespace Tagged

/-- Collects the members of a marked object. -/
def ofMembers (t : Tagged) (found? : Option Nat) :
    Members → Except Fault (Nat × List (String × Json))
  | .close _ stop =>
    match found? with
    | some index => .ok (index, [])
    | none => .error ⟨.missingField t.tag, stop⟩
  | .stuck _ read _ => .error read
  | .misnamed _ fault => .error fault
  | .member _ _ name behind node rest => do
    let name ← name
    if name = t.tag then
      match found? with
      | some _ => .error ⟨.repeatedField t.tag, behind⟩
      | none =>
        let index ← variant t.known t.numbered node
        ofMembers t (some index) rest
    else
      let part ← node.document
      let (index, others) ← ofMembers t found? rest
      return (index, (name, part) :: others)

/-- The index of the choice, and its content. -/
def split (t : Tagged) : Node → Except Fault (Nat × Json)
  | .object _ (some fault) _ => .error fault
  | .object _ none members => (t.ofMembers none members).map fun (i, ms) => (i, .object ms)
  | .array _ (some fault) _ => .error fault
  | .array _ none items =>
    match items with
    | .close stop => .error ⟨.missingField t.tag, stop⟩
    | .stuck read _ _ => .error read
    | .item _ node rest => do
      let index ← variant t.known t.numbered node
      let parts ← rest.documents
      return (index, .array parts)
  | node => .error (mismatch t.title node)

end Tagged

/-! ### Running a decoder -/

/-- Decodes a text. -/
def ofText (d : Decoder α) (text : String) : Except Fault α := do
  let document := Document.ofText (some Reader.depthLimit) text
  let a ← d document.root
  match document.surplus? with
  | some fault => .error fault
  | none => .ok a

/-- Decodes a value. -/
def ofValue (d : Decoder α) (j : Json) : Except Fault α := d (Node.ofValue j)

/-- Decodes a part that was set aside. -/
def ofPart (d : Decoder α) (j : Json) : Except Fault α := d (Node.ofPart j)

end Decoder

/-- The value a text denotes. -/
def ofText (text : String) : Except Fault Json := Decoder.ofText Decoder.value text

end FormatDaemon.Json
