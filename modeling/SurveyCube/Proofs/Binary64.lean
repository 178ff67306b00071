import Mathlib.Algebra.Order.Field.Power
import Mathlib.Data.Rat.Cast.Order
import Mathlib.Tactic.Positivity
import Mathlib.Tactic.Linarith
import Mathlib.Tactic.Ring
import SurveyCube.Binary64.Basic

/-!
# Bounds of rounding

A quotient below a power of two is rounded to a magnitude in or below the
binade of that power, and a quotient of at least one to a magnitude that is not
below that of one.  Numbers and quotients that stay far from the greatest double
are therefore rounded to doubles that denote numbers.
-/

namespace SurveyCube.Binary64

/-! ## The parts of the rounding -/

theorem ratio_pos (m : Nat) (q : Int) : 0 < (ratio m q).2 := by
  rw [ratio]
  split
  · exact Nat.one_pos
  · exact Nat.two_pow_pos _

/-- A ratio denotes the number that it is made for. -/
theorem ratio_eq (m : Nat) (q : Int) : ((ratio m q).1 : ℚ) = m * 2 ^ q * (ratio m q).2 := by
  rw [ratio]
  split
  · next up =>
    obtain ⟨n, rfl⟩ := Int.eq_ofNat_of_zero_le up
    simp
  · next down =>
    obtain ⟨n, rfl⟩ := Int.exists_eq_neg_ofNat (Int.le_of_not_le down)
    simp

theorem roundDiv_le {num den bound : Nat} (positive : 0 < den) (small : num ≤ bound * den) :
    roundDiv num den ≤ bound := by
  have split := Nat.div_add_mod num den
  have quotient : num / den ≤ bound := Nat.div_le_of_le_mul (by rwa [Nat.mul_comm])
  rw [roundDiv]
  split
  · next up =>
    rcases Nat.lt_or_eq_of_le quotient with below | exact
    · exact below
    · -- Then nothing remains, and nothing is rounded up.
      rw [exact, Nat.mul_comm] at split
      omega
  · exact quotient

/-- Rounding takes as many bits as a significand has, from below the leading bit
of the quotient, or those that the least doubles have. -/
theorem exists_nearest_eq {num den : Nat} (nonzero : num ≠ 0) (positive : 0 < den) :
    ∃ floorLog scale : Int, floorLog ≤ (num.log2 : Int) - den.log2 ∧
      (num : ℚ) < 2 ^ (floorLog + 1) * den ∧ scale = max (floorLog - 52) (-1074) ∧
        nearest num den = (scale + 1074).toNat * 2 ^ 52 +
          roundDiv (num * (ratio 1 scale).2) (den * (ratio 1 scale).1) := by
  have top : (num : ℚ) < 2 ^ (num.log2 + 1) := by exact_mod_cast Nat.lt_log2_self
  have bottom : (2 : ℚ) ^ den.log2 ≤ den := by exact_mod_cast Nat.log2_self_le positive.ne'
  rw [nearest, if_neg nonzero]
  -- The difference of the leading bits is the logarithm of the quotient, or one more.
  by_cases fits : (ratio den ((num.log2 : Int) - den.log2)).1 ≤
      num * (ratio den ((num.log2 : Int) - den.log2)).2
  · refine ⟨(num.log2 : Int) - den.log2, _, le_rfl, ?_, rfl, by simp only [if_pos fits]⟩
    calc (num : ℚ) < 2 ^ (num.log2 + 1) := top
      _ = 2 ^ ((num.log2 : Int) - den.log2 + 1) * 2 ^ den.log2 := by
        rw [← zpow_natCast, ← zpow_natCast, ← zpow_add₀ two_ne_zero]
        congr 1
        push_cast
        omega
      _ ≤ 2 ^ ((num.log2 : Int) - den.log2 + 1) * den := by gcongr
  · refine ⟨(num.log2 : Int) - den.log2 - 1, _, by omega, ?_, rfl, by simp only [if_neg fits]⟩
    have above : (num * (ratio den ((num.log2 : Int) - den.log2)).2 : ℚ) <
        (ratio den ((num.log2 : Int) - den.log2)).1 := by exact_mod_cast Nat.lt_of_not_le fits
    have scaled : (0 : ℚ) < (ratio den ((num.log2 : Int) - den.log2)).2 := by
      exact_mod_cast ratio_pos _ _
    rw [ratio_eq] at above
    have smaller := lt_of_mul_lt_mul_right above scaled.le
    rwa [Int.sub_add_cancel, mul_comm]

/-! ## Rounded quotients -/

theorem nearest_le {num den k : Nat} (positive : 0 < den) (small : num < 2 ^ k * den) :
    nearest num den ≤ (k + 1024) * 2 ^ 52 := by
  by_cases nonzero : num = 0
  · rw [nearest, if_pos nonzero]
    exact Nat.zero_le _
  obtain ⟨floorLog, scale, low, top, chosen, rounded⟩ := exists_nearest_eq nonzero positive
  have lead : num.log2 < k + (den.log2 + 1) := by
    rw [Nat.log2_lt nonzero, Nat.pow_add]
    exact small.trans ((Nat.mul_lt_mul_left (Nat.two_pow_pos k)).mpr Nat.lt_log2_self)
  have places : (scale + 1074).toNat ≤ k + 1022 := by omega
  -- Rounding up may give one bit more, and then the magnitude moves up a binade.
  have bits : roundDiv (num * (ratio 1 scale).2) (den * (ratio 1 scale).1) ≤ 2 ^ 53 := by
    have scaled : (0 : ℚ) < (ratio 1 scale).2 := by exact_mod_cast ratio_pos _ _
    have denotes : ((ratio 1 scale).1 : ℚ) = 2 ^ scale * (ratio 1 scale).2 := by
      rw [ratio_eq, Nat.cast_one, one_mul]
    apply roundDiv_le
    · have below : (0 : ℚ) < (ratio 1 scale).1 := by
        rw [denotes]
        positivity
      exact Nat.mul_pos positive (by exact_mod_cast below)
    · have wide : (2 : ℚ) ^ (floorLog + 1) ≤ 2 ^ 53 * 2 ^ scale := by
        rw [← zpow_natCast, ← zpow_add₀ two_ne_zero]
        exact zpow_le_zpow_right₀ one_le_two (by push_cast; omega)
      have fits : (num * (ratio 1 scale).2 : ℚ) ≤ 2 ^ 53 * (den * (ratio 1 scale).1) := by
        calc (num * (ratio 1 scale).2 : ℚ)
            ≤ 2 ^ (floorLog + 1) * den * (ratio 1 scale).2 := by gcongr
          _ ≤ 2 ^ 53 * 2 ^ scale * den * (ratio 1 scale).2 := by gcongr
          _ = 2 ^ 53 * (den * (ratio 1 scale).1) := by rw [denotes]; ring
      exact_mod_cast fits
  rw [rounded]
  omega

theorem le_nearest {num den : Nat} (positive : 0 < den) (large : den ≤ num) :
    1022 * 2 ^ 52 ≤ nearest num den := by
  obtain ⟨floorLog, scale, _, top, chosen, rounded⟩ :=
    exists_nearest_eq (Nat.ne_zero_of_lt (positive.trans_le large)) positive
  have lead : 0 < floorLog + 1 := by
    have quotient : (den : ℚ) ≤ num := by exact_mod_cast large
    have divisor : (0 : ℚ) < den := by exact_mod_cast positive
    have one : (1 : ℚ) < 2 ^ (floorLog + 1) := by nlinarith
    exact (one_lt_zpow_iff_right₀ one_lt_two).mp one
  rw [rounded]
  omega

theorem nearest_ratio_le {m d k : Nat} {q : Int} (positive : 0 < d)
    (small : (m : ℚ) * 2 ^ q < 2 ^ k * d) :
    nearest (ratio m q).1 ((ratio m q).2 * d) ≤ (k + 1024) * 2 ^ 52 := by
  have scaled : (0 : ℚ) < (ratio m q).2 := by exact_mod_cast ratio_pos m q
  have fits : ((ratio m q).1 : ℚ) < 2 ^ k * ((ratio m q).2 * d) := by
    calc ((ratio m q).1 : ℚ) = m * 2 ^ q * (ratio m q).2 := ratio_eq m q
      _ < 2 ^ k * d * (ratio m q).2 := by gcongr
      _ = 2 ^ k * ((ratio m q).2 * d) := by ring
  exact nearest_le (Nat.mul_pos (ratio_pos m q) positive) (by exact_mod_cast fits)

/-! ## Numbers and quotients of magnitudes -/

theorem ofNat_le {n k : Nat} (small : n < 2 ^ k) : ofNat n ≤ (k + 1024) * 2 ^ 52 :=
  nearest_le Nat.one_pos (by rwa [Nat.mul_one])

theorem le_ofNat {n : Nat} (positive : 0 < n) : 1022 * 2 ^ 52 ≤ ofNat n :=
  le_nearest Nat.one_pos positive

theorem significand_lt (magnitude : Nat) : significand magnitude < 2 ^ 53 := by
  rw [significand]
  split <;> omega

theorem le_significand {magnitude : Nat} (large : 2 ^ 52 ≤ magnitude) :
    2 ^ 52 ≤ significand magnitude := by
  rw [significand]
  split <;> omega

/-- A magnitude that is not below that of one divides another without making it
much greater. -/
theorem div_le {a b k : Nat} (dividend : a ≤ (k + 1024) * 2 ^ 52) (divisor : 1022 * 2 ^ 52 ≤ b) :
    div a b ≤ (k + 3 + 1024) * 2 ^ 52 := by
  -- The divisor has a leading bit, so the quotient of the significands is below two.
  have factor : (significand a : ℚ) < 2 ^ 53 := by exact_mod_cast significand_lt a
  have large : 2 ^ 52 ≤ significand b := le_significand (by omega)
  have lower : (2 : ℚ) ^ 52 ≤ significand b := by exact_mod_cast large
  have places : exponent a - exponent b ≤ (k + 2 : Nat) := by
    rw [exponent, exponent, if_neg (by omega : ¬ b < 2 ^ 52)]
    split <;> omega
  have power : (2 : ℚ) ^ (exponent a - exponent b) ≤ 2 ^ (k + 2) := by
    rw [← zpow_natCast]
    exact zpow_le_zpow_right₀ one_le_two places
  refine nearest_ratio_le (by omega) ?_
  calc (significand a : ℚ) * 2 ^ (exponent a - exponent b)
      < 2 ^ 53 * 2 ^ (k + 2) := mul_lt_mul factor power (by positivity) (by positivity)
    _ = 2 ^ (k + 3) * 2 ^ 52 := by ring
    _ ≤ 2 ^ (k + 3) * significand b := by gcongr

/-- Magnitudes below that of the infinities belong to doubles that denote
numbers. -/
theorem isFinite_ofMagnitude {magnitude : Nat} (small : magnitude < infinite) (negative : Bool) :
    (ofMagnitude negative magnitude).isFinite = true := by
  have below : magnitude < 2047 * 2 ^ 52 := small
  have same : (ofMagnitude negative magnitude).magnitude = magnitude := by
    cases negative
    · change (UInt64.ofNat magnitude).toNat % 2 ^ 63 = magnitude
      rw [UInt64.toNat_ofNat']
      omega
    · change (UInt64.ofNat (2 ^ 63 + magnitude)).toNat % 2 ^ 63 = magnitude
      rw [UInt64.toNat_ofNat']
      omega
  rw [isFinite, same]
  exact decide_eq_true small

end SurveyCube.Binary64
