/-!
# Binary64 reals

A finite real of the format is a sign and the rank of its magnitude among the
magnitudes of the format, which grow with the rank. Everything below is exact
arithmetic on naturals.

* `significand`, `exponent`: a magnitude is `significand * 2 ^ exponent`.
* `nearestRank`: the magnitude nearest to a ratio, a tie going to the even one.
* `ofRatio?`, `ofNat?`: the nearest real, if it is finite.
* `mul?`, `div?`: the nearest real to a product and to a quotient.
-/

namespace FormatDaemon

/-- A finite real: a sign and the place of the magnitude in increasing order. -/
structure Binary64 where
  negative : Bool
  rank : Nat
  rank_lt : rank < 2047 * Nat.pow 2 52
  deriving DecidableEq, Repr

namespace Binary64

/-- Zero with a sign. -/
def zero (negative : Bool) : Binary64 := ⟨negative, 0, by decide⟩

instance : Inhabited Binary64 := ⟨zero false⟩

/-- The integer part of the scaled magnitude; below `2 ^ 53`. -/
def significand (x : Binary64) : Nat :=
  if x.rank < Nat.pow 2 52 then x.rank else Nat.pow 2 52 + x.rank % Nat.pow 2 52

/-- The scale of the magnitude, as a power of two. -/
def exponent (x : Binary64) : Int :=
  if x.rank < Nat.pow 2 52 then -1074 else (x.rank / Nat.pow 2 52 : Nat) - 1075

/-- The magnitude as a ratio of naturals. -/
def ratio (x : Binary64) : Nat × Nat :=
  if 0 ≤ x.exponent then (x.significand * Nat.pow 2 x.exponent.toNat, 1)
  else (x.significand, Nat.pow 2 (-x.exponent).toNat)

/-- Division rounded to nearest, a tie going to the even quotient. -/
def roundHalfEven (a b : Nat) : Nat :=
  let q := a / b
  let r := a % b
  if 2 * r < b then q
  else if b < 2 * r then q + 1
  else if q % 2 = 0 then q else q + 1

/-- The ratio `num / (den * 2 ^ q)`. -/
def unscale (num den : Nat) (q : Int) : Nat × Nat :=
  if 0 ≤ q then (num, den * Nat.pow 2 q.toNat) else (num * Nat.pow 2 (-q).toNat, den)

/-- The scale at which the ratio has a 53-bit integer part, or the least scale. -/
def scaleOf (num den : Nat) : Int :=
  let low : Int := (num.log2 : Int) - den.log2 - 53
  let (a, b) := unscale num den low
  max (if a / b < Nat.pow 2 53 then low else low + 1) (-1074)

/-- The rank nearest to a ratio, past the finite ones if the ratio is too large. -/
def nearestRank (num den : Nat) : Nat :=
  if num = 0 then 0
  else
    let q := scaleOf num den
    let (a, b) := unscale num den q
    (q + 1074).toNat * Nat.pow 2 52 + roundHalfEven a b

/-- The nearest real to a signed ratio, if it is finite. -/
def ofRatio? (negative : Bool) (num den : Nat) : Option Binary64 :=
  if h : nearestRank num den < 2047 * Nat.pow 2 52 then some ⟨negative, nearestRank num den, h⟩
  else none

/-- The nearest real to a natural, if it is finite. -/
def ofNat? (n : Nat) : Option Binary64 := ofRatio? false n 1

/-- The real with the other sign. -/
def neg (x : Binary64) : Binary64 := ⟨!x.negative, x.rank, x.rank_lt⟩

/-- The nearest real to a product, if it is finite. -/
def mul? (x y : Binary64) : Option Binary64 :=
  ofRatio? (x.negative != y.negative) (x.ratio.1 * y.ratio.1) (x.ratio.2 * y.ratio.2)

/-- The nearest real to a quotient, if it is finite. -/
def div? (x y : Binary64) : Option Binary64 :=
  if y.rank = 0 then none
  else ofRatio? (x.negative != y.negative) (x.ratio.1 * y.ratio.2) (x.ratio.2 * y.ratio.1)

end Binary64

end FormatDaemon
