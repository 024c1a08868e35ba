import FormatDaemon.Number.Binary64
import Mathlib.Tactic.Linarith
import Mathlib.Tactic.Ring
import Mathlib.Tactic.SplitIfs

/-!
# The range of the reals

The largest real has 53 bits and the scale `2 ^ 971`. A natural that is nearer to the next
multiple of that scale, or half way to it, has no nearest real.

* `roundHalfEven_bounds`, `lt_roundHalfEven_iff`: a rounded quotient against whole numbers.
* `nearestRank_of_le`: the rank of a natural with at least 53 bits.
* `ofNat?_eq_none_iff`: **a natural has no nearest real from `limit` on**.
-/

namespace FormatDaemon.Binary64

/-- The least natural without a nearest real. -/
def limit : Nat := 2 ^ 1024 - 2 ^ 970

theorem limit_eq : limit = (2 ^ 54 - 1) * 2 ^ 970 := by decide +kernel

theorem le_limit : 2 ^ 53 * 2 ^ 970 ≤ limit := by decide +kernel

theorem limit_le : limit ≤ 2 ^ 1024 := by decide +kernel

/-! ### Rounded quotients -/

/-- A rounded quotient lies between whole bounds of the exact one. -/
theorem roundHalfEven_bounds {a b low high : Nat} (hb : 0 < b) (hl : low * b ≤ a)
    (hh : a ≤ high * b) : low ≤ roundHalfEven a b ∧ roundHalfEven a b ≤ high := by
  have division := Nat.div_add_mod a b
  have small := Nat.mod_lt a hb
  have lower : low ≤ a / b := (Nat.le_div_iff_mul_le hb).2 hl
  have upper : a / b ≤ high := Nat.div_le_of_le_mul (by rwa [Nat.mul_comm])
  -- at the upper bound nothing is left to round up
  have even : a / b = high → a % b = 0 := by
    intro he
    rw [he, Nat.mul_comm b high] at division
    omega
  unfold roundHalfEven
  dsimp only
  split_ifs <;> omega

/-- From an odd number a quotient is rounded up as soon as it is half way. -/
theorem lt_roundHalfEven_iff {a b q : Nat} (hb : 0 < b) (hq : q % 2 = 1) :
    q < roundHalfEven a b ↔ (2 * q + 1) * b ≤ 2 * a := by
  have division := Nat.div_add_mod a b
  have small := Nat.mod_lt a hb
  have half : (2 * q + 1) * b = 2 * (b * q) + b := by ring
  have near : a / b ≤ roundHalfEven a b ∧ roundHalfEven a b ≤ a / b + 1 := by
    unfold roundHalfEven
    dsimp only
    split_ifs <;> omega
  rw [half]
  rcases Nat.lt_trichotomy (a / b) q with below | here | above
  · have far : b * (a / b + 1) ≤ b * q := Nat.mul_le_mul_left b below
    rw [Nat.mul_add_one] at far
    exact iff_of_false (by omega) (by omega)
  · rw [here] at division
    unfold roundHalfEven
    dsimp only
    rw [here]
    split_ifs <;> omega
  · have far : b * (q + 1) ≤ b * (a / b) := Nat.mul_le_mul_left b above
    rw [Nat.mul_add_one] at far
    exact iff_of_true (by omega) (by omega)

/-! ### Naturals -/

theorem unscale_natural (n k : Nat) : unscale n 1 k = (n, 2 ^ k) := by
  rw [unscale, if_pos (Int.natCast_nonneg k), Int.toNat_natCast, Nat.one_mul]
  rfl

/-- The scale at which a natural with more than 53 bits has 53. -/
theorem scaleOf_of_le {n : Nat} (h : 2 ^ 53 ≤ n) : scaleOf n 1 = (n.log2 - 52 : Nat) := by
  have ne_zero : n ≠ 0 := by omega
  have bits : 53 ≤ n.log2 := (Nat.le_log2 ne_zero).2 h
  have low : (n.log2 : Int) - Nat.log2 1 - 53 = (n.log2 - 53 : Nat) := by
    have one : Nat.log2 1 = 0 := by decide
    omega
  -- one bit less leaves 54 bits
  have long : 2 ^ 53 ≤ n / 2 ^ (n.log2 - 53) := by
    rw [Nat.le_div_iff_mul_le (Nat.two_pow_pos _), ← Nat.pow_add, Nat.add_sub_cancel' bits]
    exact Nat.log2_self_le ne_zero
  have kept : ¬ n / 2 ^ (n.log2 - 53) < Nat.pow 2 53 := Nat.not_lt.2 long
  unfold scaleOf
  simp only [low, unscale_natural, if_neg kept]
  omega

/-- A natural with more than 53 bits is rounded to 53 of them. -/
theorem nearestRank_of_le {n : Nat} (h : 2 ^ 53 ≤ n) :
    nearestRank n 1 =
      (n.log2 - 52 + 1074) * 2 ^ 52 + roundHalfEven n (2 ^ (n.log2 - 52)) := by
  have ne_zero : n ≠ 0 := by omega
  unfold nearestRank
  rw [if_neg ne_zero, scaleOf_of_le h]
  simp only [unscale_natural]
  congr 1

/-- **A natural has no nearest real from `limit` on.** -/
theorem ofNat?_eq_none_iff {n : Nat} (h : 2 ^ 53 ≤ n) : ofNat? n = none ↔ limit ≤ n := by
  have ne_zero : n ≠ 0 := by omega
  have bits : 53 ≤ n.log2 := (Nat.le_log2 ne_zero).2 h
  have pos : 0 < 2 ^ (n.log2 - 52) := Nat.two_pow_pos _
  have lower : 2 ^ 52 * 2 ^ (n.log2 - 52) ≤ n := by
    rw [← Nat.pow_add, Nat.add_sub_cancel' (by omega)]
    exact Nat.log2_self_le ne_zero
  have upper : n < 2 ^ 53 * 2 ^ (n.log2 - 52) := by
    have total : 53 + (n.log2 - 52) = n.log2 + 1 := by omega
    rw [← Nat.pow_add, total]
    exact Nat.lt_log2_self
  obtain ⟨least, most⟩ := roundHalfEven_bounds pos lower (Nat.le_of_lt upper)
  have finite : ofNat? n = none ↔ 2047 * 2 ^ 52 ≤ nearestRank n 1 := by
    unfold ofNat? ofRatio?
    split
    next small => exact iff_of_false (by simp) (Nat.not_le.2 small)
    next large => exact iff_of_true rfl (Nat.not_lt.1 large)
  rw [finite, nearestRank_of_le h]
  rcases Nat.lt_trichotomy n.log2 1023 with below | here | above
  · have small : n.log2 - 52 ≤ 970 := by omega
    refine iff_of_false (by omega) (Nat.not_le.2 ?_)
    have scale : 2 ^ (n.log2 - 52) ≤ 2 ^ 970 := pow_le_pow_right₀ (by decide) small
    exact upper.trans_le ((Nat.mul_le_mul_left _ scale).trans le_limit)
  · -- in the last binade the scale is `2 ^ 971`, and half of it decides
    have half : (2 * (2 ^ 53 - 1) + 1) * 2 ^ (n.log2 - 52) = 2 * limit := by
      have scale : n.log2 - 52 = 970 + 1 := by omega
      have odd : 2 * (2 ^ 53 - 1) + 1 = 2 ^ 54 - 1 := rfl
      rw [scale, odd, pow_add 2 970 1, pow_one, limit_eq, ← Nat.mul_assoc, Nat.mul_comm]
    have up := lt_roundHalfEven_iff (a := n) pos (show (2 ^ 53 - 1) % 2 = 1 by decide)
    rw [half] at up
    clear half
    omega
  · refine iff_of_true (by omega) ?_
    have long : 2 ^ 1024 ≤ 2 ^ n.log2 := pow_le_pow_right₀ (by decide) above
    exact limit_le.trans (long.trans (Nat.log2_self_le ne_zero))

end FormatDaemon.Binary64
