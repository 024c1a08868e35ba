import FormatDaemon.Number.Binary64

/-!
# Shortest decimal text

A real is written with the fewest decimal digits that round back to it; of the
decimals with that many digits the nearest one is taken.

* `rounds`: whether a decimal rounds to the real.
* `shortest`: those digits, with a power of ten.
* `text`: positional between `1e-5` and `1e16`, and with an exponent outside.
-/

namespace FormatDaemon

/-- The decimal `digits * 10 ^ power`. -/
structure Decimal where
  digits : Nat
  power : Int
  deriving DecidableEq, Repr

namespace Decimal

/-- The decimal as a ratio of naturals. -/
def ratio (d : Decimal) : Nat × Nat :=
  if 0 ≤ d.power then (d.digits * Nat.pow 10 d.power.toNat, 1)
  else (d.digits, Nat.pow 10 (-d.power).toNat)

end Decimal

namespace Binary64

/-- The magnitudes that round to a real, four times over and in units of its
scale: both ends belong when the significand is even. -/
def bounds (x : Binary64) : Nat × Nat :=
  let m := x.significand
  (if m = Nat.pow 2 52 && Nat.pow 2 53 ≤ x.rank then 4 * m - 1 else 4 * m - 2, 4 * m + 2)

/-- Whether a decimal rounds to the magnitude of a real. -/
def rounds (x : Binary64) (d : Decimal) : Bool :=
  let (num, den) := d.ratio
  let (a, b) := unscale (4 * num) den x.exponent
  let (low, high) := x.bounds
  if x.significand % 2 = 0 then low * b ≤ a && a ≤ high * b
  else low * b < a && a < high * b

/-- Twice the distance of a decimal from the middle of two neighbours decides
which of them is nearer; a tie goes to the even one. -/
def nearer (x : Binary64) (below : Nat) (power : Int) : Nat :=
  let (num, den) := x.ratio
  let (s, t) := Decimal.ratio ⟨2 * below + 1, power⟩
  let mid := s * den
  let twice := 2 * num * t
  if twice < mid then below
  else if mid < twice then below + 1
  else if below % 2 = 0 then below else below + 1

/-- The decimals of one grid that round to a real, the nearer one if two do. -/
def onGrid (x : Binary64) (power : Int) : Option Decimal :=
  let (num, den) := x.ratio
  let below :=
    if 0 ≤ power then num / (den * Nat.pow 10 power.toNat)
    else num * Nat.pow 10 (-power).toNat / den
  match rounds x ⟨below, power⟩ && 0 < below, rounds x ⟨below + 1, power⟩ with
  | true, true => some ⟨nearer x below power, power⟩
  | true, false => some ⟨below, power⟩
  | false, true => some ⟨below + 1, power⟩
  | false, false => none

/-- Tries ever finer grids. -/
def search (x : Binary64) : Nat → Int → Decimal
  | 0, _ => ⟨0, 0⟩
  | n + 1, power =>
    match onGrid x power with
    | some d => d
    | none => search x n (power - 1)

/-- A power of ten above the magnitude, and at most a thousandfold above. -/
def topPower (x : Binary64) : Int :=
  ((x.significand.log2 : Int) + x.exponent) * 30103 / 100000 + 2

/-- The shortest decimal that rounds to the magnitude. -/
def shortest (x : Binary64) : Decimal :=
  if x.rank = 0 then ⟨0, 0⟩ else search x 24 x.topPower

/-- The text of a non-zero decimal: a point or an exponent always shows. -/
def decimalText (d : Decimal) : String :=
  let ds := Nat.toDigits 10 d.digits
  let n : Int := ds.length
  let e := d.power + n - 1
  if -5 ≤ e && e < 16 then
    if 0 ≤ d.power then
      String.ofList (ds ++ List.replicate d.power.toNat '0' ++ ['.', '0'])
    else if 0 ≤ e then
      String.ofList (ds.take (e + 1).toNat ++ '.' :: ds.drop (e + 1).toNat)
    else
      String.ofList ('0' :: '.' :: List.replicate (-e - 1).toNat '0' ++ ds)
  else
    let tail := ds.drop 1
    let point := if tail.isEmpty then [] else '.' :: tail
    let sign := if e < 0 then '-' else '+'
    String.ofList (ds.take 1 ++ point ++ 'e' :: sign :: Nat.toDigits 10 e.natAbs)

/-- The text of a real. -/
def text (x : Binary64) : String :=
  let body := if x.rank = 0 then "0.0" else decimalText x.shortest
  if x.negative then "-" ++ body else body

end Binary64

end FormatDaemon
