import FormatDaemon.Json.Fault
import FormatDaemon.Number.Limits

/-!
# Numerals

A numeral is read in two roundings: the digits that fit a 64-bit natural are
rounded to a real, and the result is scaled by a power of ten and rounded
again. A whole numeral that fits a 64-bit natural, or a negative one that fits
a 64-bit integer, is kept exactly.

* `Numeral`: the digits of a numeral, as they are written.
* `Numeral.value`: the number, or how many characters were left unread when its
  size was found to be too large.
-/

namespace FormatDaemon.Json

/-- A numeral as it is written. -/
structure Numeral where
  negative : Bool
  whole : List Char
  fraction : List Char
  /-- Whether the exponent is positive, and its digits. -/
  scale? : Option (Bool × List Char)
  deriving DecidableEq, Repr

/-- The value of a decimal digit. -/
def digitValue (c : Char) : Nat := c.toNat - '0'.toNat

/-- The leading digits that fit a 64-bit natural, after `n`, and the others. -/
def fitDigits : Nat → List Char → Nat × List Char
  | n, [] => (n, [])
  | n, c :: rest =>
    if n * 10 + digitValue c < Limit.nat64 then fitDigits (n * 10 + digitValue c) rest
    else (n, c :: rest)

/-- Reads exponent digits up to the 32-bit limit: the exponent, or the digits
left after the one that crosses the limit. -/
def scaleDigits : Nat → List Char → Except (List Char) Nat
  | n, [] => .ok n
  | n, c :: rest =>
    if n * 10 + digitValue c < Limit.int32 then scaleDigits (n * 10 + digitValue c) rest
    else .error rest

/-- The power of ten, as a real. -/
def tenTo (n : Nat) : Binary64 := (Binary64.ofNat? (Nat.pow 10 n)).getD (.zero false)

/-- A real scaled down until the power of ten fits the format. -/
def scaleDown : Nat → Binary64 → Int → Binary64
  | 0, _, _ => .zero false
  | n + 1, x, power =>
    if -308 ≤ power then (x.div? (tenTo (-power).toNat)).getD (.zero false)
    else if x.rank = 0 then x
    else scaleDown n ((x.div? (tenTo 308)).getD (.zero false)) (power + 308)

/-- `significand * 10 ^ power` in two roundings, if it is finite. -/
def scaled? (significand : Nat) (power : Int) : Option Binary64 := do
  let x ← Binary64.ofNat? significand
  if power < 0 then return scaleDown 4 x power
  if power ≤ 308 then x.mul? (tenTo power.toNat)
  else if x.rank = 0 then return x
  else none

/-- The real with a sign. -/
def signed (negative : Bool) (x : Binary64) : Binary64 := if negative then x.neg else x

/-- Bounds of a 32-bit exponent. -/
def clampPower (power : Int) : Int := max (-Limit.int32) (min (Limit.int32 - 1) power)

/-- The number a numeral denotes; otherwise it is too large, which shows with so
many characters of it unread. -/
def Numeral.value (n : Numeral) : Except Nat Number :=
  let (significand, dropped) := fitDigits 0 n.whole
  let (significand, ignored) :=
    match n.fraction with
    | [] => (significand, [])
    | digits => fitDigits significand digits
  let power : Int := (dropped.length : Int) - (n.fraction.length - ignored.length : Nat)
  let real (power : Int) : Except Nat Number :=
    match scaled? significand power with
    | some x => .ok (.real (signed n.negative x))
    | none => .error 0
  match n.scale? with
  | some (positive, digits) =>
    match scaleDigits 0 digits with
    | .ok scale => real (clampPower (if positive then power + scale else power - scale))
    | .error left =>
      if significand ≠ 0 && positive then .error left.length
      else .ok (.real (signed n.negative (.zero false)))
  | none =>
    if !dropped.isEmpty || !n.fraction.isEmpty then real power
    else if !n.negative then .ok (.integer significand)
    else if 0 < significand && significand ≤ Limit.int64 then .ok (.integer (-significand))
    else real 0

end FormatDaemon.Json
