/-!
# Text as bytes

The daemon reads bytes (arguments, standard input, helper output, paths) and
means text. A byte string is cut into pieces, each either one well-formed
scalar or one maximal ill-formed run.

* `encode`: the bytes of a text.
* `pieces`: the cut; `Piece.bytes` of the pieces gives the input back.
* `decode?`: the text, if every piece is a scalar.
* `decodeLossy`: the text with U+FFFD for each ill-formed run.
-/

namespace FormatDaemon.Utf8

/-- The UTF-8 bytes of a text. -/
def encode (text : String) : List UInt8 := text.toList.flatMap String.utf8EncodeChar

/-- One step of a cut: a scalar, or a run of bytes that starts none. -/
inductive Piece where
  | scalar (c : Char)
  | broken (run : List UInt8)
  deriving DecidableEq, Repr

/-- The bytes a piece was cut from. -/
def Piece.bytes : Piece → List UInt8
  | .scalar c => String.utf8EncodeChar c
  | .broken run => run

/-- The scalar whose encoding starts the byte string, if one does. -/
def scalar? (bytes : List UInt8) : Option Char :=
  (bytes.take 4).toByteArray.utf8DecodeChar? 0

/-- Bytes that may follow a lead byte: the second byte of a sequence is
narrower than `80..BF` after four of the leads. -/
def follows (lead second : UInt8) : Bool :=
  if lead = 0xE0 then 0xA0 ≤ second && second ≤ 0xBF
  else if lead = 0xED then 0x80 ≤ second && second ≤ 0x9F
  else if lead = 0xF0 then 0x90 ≤ second && second ≤ 0xBF
  else if lead = 0xF4 then 0x80 ≤ second && second ≤ 0x8F
  else if 0xC2 ≤ lead && lead ≤ 0xF4 then 0x80 ≤ second && second ≤ 0xBF
  else false

/-- Length of the ill-formed run at the front: the longest start of a
well-formed sequence, and at least one byte. -/
def brokenLength : List UInt8 → Nat
  | lead :: second :: rest =>
    if follows lead second then
      match rest with
      | third :: _ =>
        if 0xF0 ≤ lead && 0x80 ≤ third && third ≤ 0xBF then 3 else 2
      | [] => 2
    else 1
  | _ => 1

theorem brokenLength_pos (bytes : List UInt8) : 0 < brokenLength bytes := by
  unfold brokenLength
  repeat' split
  all_goals decide

/-- The cut of a byte string into scalars and maximal ill-formed runs. -/
def pieces (bytes : List UInt8) : List Piece :=
  match bytes with
  | [] => []
  | b :: rest =>
    match scalar? (b :: rest) with
    | some c => .scalar c :: pieces ((b :: rest).drop c.utf8Size)
    | none =>
      .broken ((b :: rest).take (brokenLength (b :: rest))) ::
        pieces ((b :: rest).drop (brokenLength (b :: rest)))
termination_by bytes.length
decreasing_by
  · have := c.utf8Size_pos
    simp only [List.length_drop, List.length_cons]
    omega
  · have := brokenLength_pos (b :: rest)
    simp only [List.length_drop, List.length_cons]
    omega

/-- The character a piece shows as: U+FFFD for an ill-formed run. -/
def Piece.shown : Piece → Char
  | .scalar c => c
  | .broken _ => '\uFFFD'

/-- The character a piece stands for, if it is a scalar. -/
def Piece.scalar? : Piece → Option Char
  | .scalar c => some c
  | .broken _ => none

/-- The text a byte string encodes, if it is well-formed. -/
def decode? (bytes : List UInt8) : Option String :=
  ((pieces bytes).mapM Piece.scalar?).map String.ofList

/-- The text of a byte string, with U+FFFD for every ill-formed run. -/
def decodeLossy (bytes : List UInt8) : String :=
  String.ofList ((pieces bytes).map Piece.shown)

end FormatDaemon.Utf8
