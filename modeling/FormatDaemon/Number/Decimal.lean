import FormatDaemon.Number.Binary64

/-!
# Decimal numerals as reals

* `Binary64.ofDecimal?`: the real nearest to `digits * 10 ^ power`.
-/

namespace FormatDaemon.Binary64

/-- The number of decimal digits of a natural, or a few more. -/
def digitBound (n : Nat) : Nat := n.log2 * 3 / 10 + 2

/-- The real nearest to `digits * 10 ^ power`, if it is finite. What is far past
the ends of the format is not computed. -/
def ofDecimal? (negative : Bool) (digits : Nat) (power : Int) : Option Binary64 :=
  if digits = 0 then some (zero negative)
  else if 0 ≤ power then
    if 310 < power then none else ofRatio? negative (digits * Nat.pow 10 power.toNat) 1
  else if power < -400 - digitBound digits then some (zero negative)
  else ofRatio? negative digits (Nat.pow 10 (-power).toNat)

end FormatDaemon.Binary64
