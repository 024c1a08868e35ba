import FormatDaemon.Json.Fault

/-!
# Located documents

A reader may refuse a document before it ends, and what is wrong with the rest
of the text is then of no interest. So a text is first read as a located
document: every part knows its places, and the first fault of the text stands
where a reader would meet it. Readers walk that tree in the order of the text.

* `Node`: a located document. A part that is asked for and a part that is
  passed over can fail differently: only the content of the former matters.
* `Node.skip`: the fault met by a reader that passes over a part.
* `Node.document`: the plain document of a part, or the first fault in it.
* `Node.ofJson`: a plain document as one without places.
-/

namespace FormatDaemon.Json

/-- A place, if there is a text. -/
abbrev Mark := Option Place

/-- The places of a part: before it, one byte into it, and behind it. -/
structure Span where
  start : Mark
  peek : Mark
  stop : Mark
  deriving DecidableEq, Repr

/-- The span of a part that comes from no text. -/
def Span.none : Span := ⟨.none, .none, .none⟩

mutual

/-- A located document. -/
inductive Node where
  | null (span : Span)
  | bool (span : Span) (b : Bool)
  | number (span : Span) (reading : Except Fault Number)
  | string (span : Span) (reading : Except Fault String)
  | array (span : Span) (barrier? : Option Fault) (items : Items)
  | object (span : Span) (barrier? : Option Fault) (members : Members)
  /-- No document stands here. A reader of it, a reader that passes over it, and a reader
  that only looks at its first byte may meet different faults. -/
  | broken (read skip glance : Fault)

/-- What follows in an array. -/
inductive Items where
  | close (stop : Mark)
  /-- Another item; `surplus` is met by a reader that wanted no more. -/
  | item (surplus : Fault) (value : Node) (rest : Items)
  | stuck (read skip surplus : Fault)

/-- What follows in an object, from the place `here` on. -/
inductive Members where
  | close (here stop : Mark)
  /-- A member, whose name ends, with the blanks after it, at `behind`. -/
  | member (here : Mark) (nameSpan : Span) (name : Except Fault String) (behind : Mark)
      (value : Node) (rest : Members)
  /-- The first name is not a text. -/
  | misnamed (here : Mark) (fault : Fault)
  | stuck (here : Mark) (read skip : Fault)

end

instance : Inhabited Node := ⟨.null .none⟩

mutual

/-- The fault met by a reader that passes over a part. -/
def Node.skip : Node → Option Fault
  | .array _ _ items => items.skip
  | .object _ _ members => members.skip
  | .broken _ skip _ => some skip
  | .null _ | .bool _ _ | .number _ _ | .string _ _ => none

/-- The fault met by a reader that passes over the items. -/
def Items.skip : Items → Option Fault
  | .close _ => none
  | .item _ value rest => value.skip.or rest.skip
  | .stuck _ skip _ => some skip

/-- The fault met by a reader that passes over the members. -/
def Members.skip : Members → Option Fault
  | .close _ _ => none
  | .member _ _ _ _ value rest => value.skip.or rest.skip
  | .misnamed _ fault => some fault
  | .stuck _ _ skip => some skip

end

mutual

/-- The plain document of a part, or the first fault in it. -/
def Node.document : Node → Except Fault Json
  | .null _ => .ok .null
  | .bool _ b => .ok (.bool b)
  | .number _ reading => reading.map .number
  | .string _ reading => reading.map .string
  | .array _ (some fault) _ => .error fault
  | .array _ none items => items.documents.map .array
  | .object _ (some fault) _ => .error fault
  | .object _ none members => members.documents.map .object
  | .broken read _ _ => .error read

/-- The plain documents of the items. -/
def Items.documents : Items → Except Fault (List Json)
  | .close _ => .ok []
  | .item _ value rest => do
    let head ← value.document
    let tail ← rest.documents
    return head :: tail
  | .stuck read _ _ => .error read

/-- The plain documents of the members, under their names. -/
def Members.documents : Members → Except Fault (List (String × Json))
  | .close _ _ => .ok []
  | .member _ _ name _ value rest => do
    let name ← name
    let head ← value.document
    let tail ← rest.documents
    return (name, head) :: tail
  | .misnamed _ fault => .error fault
  | .stuck _ read _ => .error read

end

mutual

/-- A plain document as a located one without places. A reader that leaves
items of an array over meets `surplus total taken`. -/
def Node.ofJson (surplus : Nat → Nat → Fault) : Json → Node
  | .null => .null .none
  | .bool b => .bool .none b
  | .number n => .number .none (.ok n)
  | .string s => .string .none (.ok s)
  | .array items => .array .none none (Items.ofJson surplus items.length 0 items)
  | .object members => .object .none none (Members.ofJson surplus members)

/-- The items of a plain array of a given length. -/
def Items.ofJson (surplus : Nat → Nat → Fault) (total : Nat) : Nat → List Json → Items
  | _, [] => .close none
  | taken, item :: rest =>
    .item (surplus total taken) (Node.ofJson surplus item)
      (Items.ofJson surplus total (taken + 1) rest)

/-- The members of a plain object. -/
def Members.ofJson (surplus : Nat → Nat → Fault) : List (String × Json) → Members
  | [] => .close none none
  | (name, value) :: rest =>
    .member none .none (.ok name) none (Node.ofJson surplus value) (Members.ofJson surplus rest)

end

/-- A value: a reader that leaves items over wanted fewer of them. -/
def Node.ofValue (j : Json) : Node :=
  Node.ofJson (fun total _ => ⟨.wrongLength total "fewer elements in array", none⟩) j

/-- The number of items a reader took. -/
def takenText (taken : Nat) : String :=
  if taken = 1 then "1 element in sequence" else toString taken ++ " elements in sequence"

/-- Part of a document that was set aside: a reader that leaves items over
names the number of those it took. -/
def Node.ofPart (j : Json) : Node :=
  Node.ofJson (fun total taken => ⟨.wrongLength total (takenText taken), none⟩) j

end FormatDaemon.Json
