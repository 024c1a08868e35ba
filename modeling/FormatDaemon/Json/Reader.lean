import FormatDaemon.Json.Node
import FormatDaemon.Json.Numeral

/-!
# Reading a text as a located document

The reader follows the grammar of JSON and never fails: what is wrong with a
text becomes part of the tree.

* `Place.next`: where a character leads.
* `word`, `text`, `numeral`: the scalars.
* `value`, `items`, `members`: the recursive parts; an array or object inside
  127 others is marked as too deep.
* `Document.ofText`: a whole text, and what is wrong with what follows the document.
-/

namespace FormatDaemon.Json

/-- The place behind a character. -/
def Place.next (p : Place) (c : Char) : Place :=
  if c = '\n' then ⟨p.line + 1, 0⟩ else ⟨p.line, p.column + c.utf8Size⟩

/-- Rest of a text, and its place. -/
structure Cursor where
  rest : List Char
  place : Place
  deriving Repr

namespace Cursor

/-- One byte further on, or the same place at the end of the text. -/
def peek (c : Cursor) : Place :=
  match c.rest with
  | [] => c.place
  | '\n' :: _ => ⟨c.place.line + 1, 0⟩
  | _ :: _ => ⟨c.place.line, c.place.column + 1⟩

/-- A number of bytes further on. -/
def skipBytes : Nat → List Char → Place → Place
  | 0, _, p => p
  | _, [], p => p
  | n + 1, c :: rest, p =>
    if c.utf8Size ≤ n + 1 then skipBytes (n + 1 - c.utf8Size) rest (p.next c)
    else ⟨p.line, p.column + n + 1⟩

/-- The place of the end of the text. -/
def finish (c : Cursor) : Place := c.rest.foldl Place.next c.place

/-- The place behind the blanks. -/
def skipBlanks : List Char → Place → Cursor
  | c :: rest, p =>
    if c = ' ' || c = '\n' || c = '\t' || c = '\r' then skipBlanks rest (p.next c)
    else ⟨c :: rest, p⟩
  | [], p => ⟨[], p⟩

/-- Behind the blanks. -/
def blanks (c : Cursor) : Cursor := skipBlanks c.rest c.place

/-- A fault here. -/
def fault (c : Cursor) (cause : Cause) : Fault := ⟨cause, some c.place⟩

/-- Behind one ASCII character. -/
def drop (c : Cursor) : Cursor := ⟨c.rest.tail, ⟨c.place.line, c.place.column + 1⟩⟩

/-- A fault at the next byte. -/
def peekFault (c : Cursor) (cause : Cause) : Fault := ⟨cause, some c.peek⟩

end Cursor

namespace Reader

/-- A part of the tree, and where reading goes on unless it is broken. -/
abbrev Reading (α : Type) := α × Option Cursor

/-- The rest of a word after its first character. -/
def word : List Char → Cursor → Except Fault Cursor
  | [], c => .ok c
  | expected :: more, c =>
    match c.rest with
    | [] => .error (c.fault .endOfValue)
    | found :: rest =>
      if found = expected then word more ⟨rest, c.place.next found⟩
      else .error (c.peekFault .wordExpected)

/-- The value of a hexadecimal digit. -/
def hexValue? (c : Char) : Option Nat :=
  if '0' ≤ c && c ≤ '9' then some (c.toNat - '0'.toNat)
  else if 'a' ≤ c && c ≤ 'f' then some (c.toNat - 'a'.toNat + 10)
  else if 'A' ≤ c && c ≤ 'F' then some (c.toNat - 'A'.toNat + 10)
  else none

/-- The number of four hexadecimal digits. -/
def hexQuad? (a b c d : Char) : Option Nat := do
  return ((← hexValue? a) * 16 + (← hexValue? b)) * 256 +
    ((← hexValue? c) * 16 + (← hexValue? d))

/-- The fault of an escape that is not followed by four hexadecimal digits. -/
def quadFault (rest : List Char) (p : Place) : Fault :=
  if rest.foldl (fun n c => n + c.utf8Size) 0 < 4 then
    ⟨.endOfText, some (Cursor.mk rest p).finish⟩
  else ⟨.badEscape, some (Cursor.skipBytes 4 rest p)⟩

/-- The character of a one-letter escape. -/
def letterEscape? (c : Char) : Option Char :=
  match c with
  | '"' => some '"'
  | '\\' => some '\\'
  | '/' => some '/'
  | 'b' => some (Char.ofNat 0x8)
  | 'f' => some (Char.ofNat 0xC)
  | 'n' => some '\n'
  | 'r' => some '\r'
  | 't' => some '\t'
  | _ => none

/-- The outcome of scanning a string: what it says and where it ends, or the
faults met by reading it and by passing over it. -/
inductive Scan where
  | done (reading : Except Fault (List Char)) (cursor : Cursor)
  | broken (read skip : Fault)

/-- The fault of a reading, or else another one. -/
def faultOr (reading : Except Fault (List Char)) (fault : Fault) : Fault :=
  match reading with
  | .error f => f
  | .ok _ => fault

/-- The reading after a number from an escape: `high?` is a first surrogate that
waits for its second. -/
def readUnit (reading : Except Fault (List Char)) (high? : Option Nat) (unit : Nat)
    (behind : Place) : Except Fault (List Char) × Option Nat :=
  match reading, high? with
  | .error f, _ => (.error f, none)
  | .ok cs, none =>
    if 0xDC00 ≤ unit && unit ≤ 0xDFFF then (.error ⟨.loneSurrogate, some behind⟩, none)
    else if 0xD800 ≤ unit && unit ≤ 0xDBFF then (.ok cs, some unit)
    else (.ok (Char.ofNat unit :: cs), none)
  | .ok cs, some high =>
    if 0xDC00 ≤ unit && unit ≤ 0xDFFF then
      (.ok (Char.ofNat ((high - 0xD800) * 0x400 + (unit - 0xDC00) + 0x10000) :: cs), none)
    else (.error ⟨.loneSurrogate, some behind⟩, none)

/-- The reading when something else than a second surrogate follows. -/
def dropHigh (reading : Except Fault (List Char)) (high? : Option Nat) (peek : Place) :
    Except Fault (List Char) :=
  match reading, high? with
  | .ok _, some _ => .error ⟨.cutSurrogate, some peek⟩
  | reading, _ => reading

/-- Scans a string behind its opening quote; the characters read so far are in
reverse. -/
def scanText (reading : Except Fault (List Char)) (high? : Option Nat) :
    List Char → Place → Scan
  | [], p => .broken (faultOr reading ⟨.endOfText, some p⟩) ⟨.endOfText, some p⟩
  | '"' :: rest, p =>
    .done ((dropHigh reading high? ((Cursor.mk ('"' :: rest) p).peek)).map List.reverse)
      ⟨rest, p.next '"'⟩
  | '\\' :: [], p =>
    let fault : Fault := ⟨.endOfText, some (p.next '\\')⟩
    .broken (faultOr reading fault) fault
  | '\\' :: 'u' :: a :: b :: c :: d :: rest, p =>
    let q := (p.next '\\').next 'u'
    match hexQuad? a b c d with
    | some unit =>
      let behind := (((q.next a).next b).next c).next d
      let (reading, high?) := readUnit reading high? unit behind
      scanText reading high? rest behind
    | none =>
      let fault := quadFault (a :: b :: c :: d :: rest) q
      .broken (faultOr reading fault) fault
  | '\\' :: 'u' :: rest, p =>
    let fault := quadFault rest ((p.next '\\').next 'u')
    .broken (faultOr reading fault) fault
  | '\\' :: e :: rest, p =>
    let q := p.next '\\'
    let reading := dropHigh reading high? (Cursor.mk (e :: rest) q).peek
    match letterEscape? e with
    | some c => scanText (reading.map (c :: ·)) none rest (q.next e)
    | none =>
      let fault : Fault := ⟨.badEscape, some (Cursor.mk (e :: rest) q).peek⟩
      .broken (faultOr reading fault) fault
  | c :: rest, p =>
    let peek := (Cursor.mk (c :: rest) p).peek
    let reading := dropHigh reading high? peek
    if c.toNat < 0x20 then
      .broken (faultOr reading ⟨.rawControl, some peek⟩) ⟨.rawControl, some p⟩
    else scanText (reading.map (c :: ·)) none rest (p.next c)

/-- Scans a string behind its opening quote. -/
def text (c : Cursor) : Scan := scanText (.ok []) none c.rest c.place

/-- Whether a character is a decimal digit. -/
def isDigit (c : Char) : Bool := '0' ≤ c && c ≤ '9'

/-- The digits at a cursor, and the cursor behind them. -/
def digits (c : Cursor) : List Char × Cursor :=
  let ds := c.rest.takeWhile isDigit
  (ds, ⟨c.rest.dropWhile isDigit, ⟨c.place.line, c.place.column + ds.length⟩⟩)

/-- The outcome of scanning a numeral: it ends somewhere, or reading it and
passing over it meet faults. -/
inductive NumeralScan where
  | done (numeral : Numeral) (cursor : Cursor)
  | broken (read skip : Fault)

/-- A missing digit: the end of the text is a fault of its own for a reader. -/
def missingDigit (c : Cursor) : NumeralScan :=
  match c.rest with
  | [] => .broken (c.fault .endOfValue) (c.fault .badNumber)
  | _ :: _ => .broken (c.peekFault .badNumber) (c.peekFault .badNumber)

/-- The exponent of a numeral, if there is one. -/
def scale (negative : Bool) (whole fraction : List Char) (c : Cursor) : NumeralScan :=
  match c.rest with
  | e :: _ =>
    if e = 'e' || e = 'E' then
      let c := c.drop
      let (positive, c) :=
        match c.rest with
        | '+' :: _ => (true, c.drop)
        | '-' :: _ => (false, c.drop)
        | _ => (true, c)
      match digits c with
      | ([], c) => missingDigit c
      | (ds, c) => .done ⟨negative, whole, fraction, some (positive, ds)⟩ c
    else .done ⟨negative, whole, fraction, none⟩ c
  | [] => .done ⟨negative, whole, fraction, none⟩ c

/-- The numeral behind its sign. -/
def unsigned (negative : Bool) (c : Cursor) : NumeralScan :=
  match digits c with
  | ([], c) => missingDigit c
  | ('0' :: _ :: _, _) => .broken (c.drop.peekFault .badNumber) (c.drop.peekFault .badNumber)
  | (whole, c) =>
    match c.rest with
    | '.' :: _ =>
      match digits c.drop with
      | ([], c) => missingDigit c
      | (fraction, c) => scale negative whole fraction c
    | _ => scale negative whole [] c

/-- Scans a numeral. -/
def numeral (c : Cursor) : NumeralScan :=
  match c.rest with
  | '-' :: _ => unsigned true c.drop
  | _ => unsigned false c

/-- A part of the tree that is no document. -/
def brokenBy (fault : Fault) : Reading Node := (.broken fault fault fault, none)

/-- A scalar that is a word. -/
def wordNode (make : Span → Node) (more : List Char) (c : Cursor) : Reading Node :=
  match word more c.drop with
  | .ok e => (make ⟨some c.place, some c.peek, some e.place⟩, some e)
  | .error fault => (.broken fault fault (c.peekFault .valueExpected), none)

/-- A scalar that is a string. -/
def textNode (c : Cursor) : Reading Node :=
  match text c.drop with
  | .done reading e =>
    (.string ⟨some c.place, some c.peek, some e.place⟩ (reading.map String.ofList), some e)
  | .broken read skip => (.broken read skip read, none)

/-- A scalar that is a numeral. -/
def numeralNode (c : Cursor) : Reading Node :=
  match numeral c with
  | .done n e =>
    let reading : Except Fault Number :=
      match n.value with
      | .ok known => .ok known
      | .error left => .error ⟨.numberTooLarge, some ⟨e.place.line, e.place.column - left⟩⟩
    (.number ⟨some c.place, some c.peek, some e.place⟩ reading, some e)
  | .broken read skip => (.broken read skip (c.peekFault .valueExpected), none)

/-- The deepest level at which an array or object may stand. -/
def depthLimit : Nat := 127

/-- What stops a reader before the content of an array or object. -/
def barrier (limit? : Option Nat) (depth : Nat) (c : Cursor) : Option Fault :=
  match limit? with
  | some limit => if limit ≤ depth then some (c.peekFault .tooDeep) else none
  | none => none

mutual

/-- Reads a document behind blanks, inside `depth` arrays and objects. -/
def value (limit? : Option Nat) : Nat → Nat → Cursor → Reading Node
  | 0, _, c => brokenBy (c.fault .valueExpected)
  | fuel + 1, depth, c =>
    let c := c.blanks
    match c.rest with
    | [] => brokenBy (c.fault .endOfValue)
    | 'n' :: _ => wordNode .null ['u', 'l', 'l'] c
    | 't' :: _ => wordNode (.bool · true) ['r', 'u', 'e'] c
    | 'f' :: _ => wordNode (.bool · false) ['a', 'l', 's', 'e'] c
    | '"' :: _ => textNode c
    | '[' :: _ =>
      let (tail, e) := items limit? fuel (depth + 1) true c.drop
      (.array ⟨some c.place, some c.peek, some c.place⟩ (barrier limit? depth c) tail, e)
    | '\x7b' :: _ =>
      let (tail, e) := members limit? fuel (depth + 1) true c.drop
      (.object ⟨some c.place, some c.peek, some c.place⟩ (barrier limit? depth c) tail, e)
    | first :: _ =>
      if first = '-' || isDigit first then numeralNode c
      else brokenBy (c.peekFault .valueExpected)

/-- Reads what follows in an array; `first` before its first item. -/
def items (limit? : Option Nat) : Nat → Nat → Bool → Cursor → Reading Items
  | 0, _, _, c =>
    let fault := c.fault .valueExpected
    (.stuck fault fault fault, none)
  | fuel + 1, depth, first, c =>
    let c := c.blanks
    match c.rest, first with
    | [], _ =>
      let fault := c.fault .endOfList
      (.stuck fault fault fault, none)
    | ']' :: _, _ => (.close (some c.drop.place), some c.drop)
    | ',' :: _, false =>
      let d := c.drop.blanks
      match d.rest with
      | [] =>
        (.stuck (d.fault .endOfValue) (d.fault .endOfValue) (d.fault .trailingText), none)
      | ']' :: _ =>
        (.stuck (d.peekFault .trailingComma) (d.peekFault .valueExpected)
          (d.peekFault .trailingComma), none)
      | _ => item limit? fuel depth d
    | _, true => item limit? fuel depth c
    | _, false =>
      (.stuck (c.peekFault .listEndExpected) (c.peekFault .listEndExpected)
        (c.peekFault .trailingText), none)

/-- Reads an item and what follows it. -/
def item (limit? : Option Nat) : Nat → Nat → Cursor → Reading Items
  | 0, _, c =>
    let fault := c.fault .valueExpected
    (.stuck fault fault fault, none)
  | fuel + 1, depth, c =>
    let surplus := c.peekFault .trailingText
    match value limit? fuel depth c with
    | (node, none) => (.item surplus node (.stuck surplus surplus surplus), none)
    | (node, some d) =>
      let (tail, e) := items limit? fuel depth false d
      (.item surplus node tail, e)

/-- Reads what follows in an object; `first` before its first member. -/
def members (limit? : Option Nat) : Nat → Nat → Bool → Cursor → Reading Members
  | 0, _, _, c =>
    let fault := c.fault .valueExpected
    (.stuck (some c.place) fault fault, none)
  | fuel + 1, depth, first, c =>
    let c := c.blanks
    let here : Mark := some c.place
    match c.rest, first with
    | [], _ =>
      let fault := c.fault .endOfObject
      (.stuck here fault fault, none)
    | '\x7d' :: _, _ => (.close here (some c.drop.place), some c.drop)
    | ',' :: _, false =>
      let d := c.drop.blanks
      match d.rest with
      | [] => (.stuck here (d.fault .endOfValue) (d.fault .endOfObject), none)
      | '"' :: _ => member limit? fuel depth here d
      | '\x7d' :: _ =>
        (.stuck here (d.peekFault .trailingComma) (d.peekFault .nameNotText), none)
      | _ => (.stuck here (d.peekFault .nameNotText) (d.peekFault .nameNotText), none)
    | '"' :: _, true => member limit? fuel depth here c
    | _, true => (.misnamed here (c.peekFault .nameNotText), none)
    | _, false =>
      let fault := c.peekFault .objectEndExpected
      (.stuck here fault fault, none)

/-- Reads a member, from its quote on, and what follows it. -/
def member (limit? : Option Nat) : Nat → Nat → Mark → Cursor → Reading Members
  | 0, _, here, c =>
    let fault := c.fault .valueExpected
    (.stuck here fault fault, none)
  | fuel + 1, depth, here, c =>
    match text c.drop with
    | .broken read skip => (.stuck here read skip, none)
    | .done reading e =>
      let span : Span := ⟨some c.place, some c.peek, some e.place⟩
      let name := reading.map String.ofList
      let d := e.blanks
      let rest : Members := .stuck none (d.fault .endOfObject) (d.fault .endOfObject)
      match d.rest with
      | ':' :: _ =>
        match value limit? fuel depth d.drop with
        | (node, none) => (.member here span name (some d.place) node rest, none)
        | (node, some f) =>
          let (tail, g) := members limit? fuel depth false f
          (.member here span name (some d.place) node tail, g)
      | [] =>
        let fault := d.fault .endOfObject
        (.member here span name (some d.place) (.broken fault fault fault) rest, none)
      | _ =>
        let fault := d.peekFault .colonExpected
        (.member here span name (some d.place) (.broken fault fault fault) rest, none)

end

end Reader

/-- A text as a located document, and the fault of what follows it. -/
structure Document where
  root : Node
  surplus? : Option Fault

/-- Reads a text; `limit?` bounds how deep arrays and objects may stand. -/
def Document.ofText (limit? : Option Nat) (text : String) : Document :=
  let cs := text.toList
  match Reader.value limit? (3 * cs.length + 3) 0 ⟨cs, ⟨1, 0⟩⟩ with
  | (root, none) => ⟨root, none⟩
  | (root, some c) =>
    let c := c.blanks
    ⟨root, if c.rest.isEmpty then none else some (c.peekFault .trailingText)⟩

end FormatDaemon.Json
