import Mathlib.Algebra.Order.Archimedean.Basic
import Mathlib.Algebra.Order.Floor.Ring
import Mathlib.Data.Rat.Floor
import Mathlib.Tactic.FieldSimp
import Mathlib.Tactic.Linarith
import Mathlib.Tactic.Positivity

/-!
# Shares of whole amounts

A share `r` is taken of the whole part of an amount, and rounded down.  Which shares `a` of the amount itself, rounded
down, does it reach for every amount, and which does it never exceed?
-/

namespace Arith

/-- The shares that `r` reaches for every amount: one in so many whole units as it takes `r` to give one. -/
theorem floor_le_floor_share {a r x : ℚ} (hr : 0 < r) (ha : a ≤ 1 / ⌈1 / r⌉) (hx : 0 ≤ x) :
    ⌊a * x⌋ ≤ ⌊(⌊x⌋ : ℚ) * r⌋ := by
  have hceil : (0 : ℚ) < ⌈1 / r⌉ := by exact_mod_cast Int.ceil_pos.2 (one_div_pos.2 hr)
  have hunit : 1 ≤ (⌈1 / r⌉ : ℚ) * r := by
    have hle := mul_le_mul_of_nonneg_right (Int.le_ceil (1 / r)) (le_of_lt hr)
    rwa [one_div_mul_cancel (ne_of_gt hr)] at hle
  have hwhole : (0 : ℚ) ≤ ⌊x⌋ := by exact_mod_cast Int.floor_nonneg.2 hx
  rw [Int.le_floor]
  by_cases hneg : ⌊a * x⌋ ≤ 0
  · have hle : ((⌊a * x⌋ : ℤ) : ℚ) ≤ 0 := by exact_mod_cast hneg
    have hshare : 0 ≤ (⌊x⌋ : ℚ) * r := by positivity
    linarith
  · have hpos : (0 : ℚ) ≤ ⌊a * x⌋ := by exact_mod_cast le_of_lt (not_le.1 hneg)
    -- the amount holds as many times the units as the share has come to
    have hunits : (⌊a * x⌋ : ℚ) * ⌈1 / r⌉ ≤ x := by
      have hshare : (⌊a * x⌋ : ℚ) ≤ x / ⌈1 / r⌉ :=
        calc (⌊a * x⌋ : ℚ) ≤ a * x := Int.floor_le _
          _ ≤ 1 / ⌈1 / r⌉ * x := mul_le_mul_of_nonneg_right ha hx
          _ = x / ⌈1 / r⌉ := by ring
      exact (le_div_iff₀ hceil).1 hshare
    have hwholeUnits : (⌊a * x⌋ : ℚ) * ⌈1 / r⌉ ≤ ⌊x⌋ := by
      have hint : ⌊a * x⌋ * ⌈1 / r⌉ ≤ ⌊x⌋ := Int.le_floor.2 (by push_cast; exact hunits)
      exact_mod_cast hint
    calc ((⌊a * x⌋ : ℤ) : ℚ) = ⌊a * x⌋ * 1 := (mul_one _).symm
      _ ≤ ⌊a * x⌋ * (⌈1 / r⌉ * r) := mul_le_mul_of_nonneg_left hunit hpos
      _ = ⌊a * x⌋ * ⌈1 / r⌉ * r := (mul_assoc ..).symm
      _ ≤ ⌊x⌋ * r := mul_le_mul_of_nonneg_right hwholeUnits (le_of_lt hr)

/-- A larger share is missed by an amount that is less than those units. -/
theorem exists_floor_share_lt {a r : ℚ} (hr : 0 < r) (ha : 1 / ⌈1 / r⌉ < a) :
    ∃ x : ℚ, 0 < x ∧ x < ⌈1 / r⌉ ∧ ⌊(⌊x⌋ : ℚ) * r⌋ < ⌊a * x⌋ := by
  have hceil : (0 : ℚ) < ⌈1 / r⌉ := by exact_mod_cast Int.ceil_pos.2 (one_div_pos.2 hr)
  have hpos : 0 < a := lt_trans (one_div_pos.2 hceil) ha
  have hinv : 1 / a < ⌈1 / r⌉ := by
    rw [div_lt_iff₀ hpos]
    rwa [div_lt_iff₀ hceil, mul_comm] at ha
  have hlast : ((⌈1 / r⌉ - 1 : ℤ) : ℚ) < ⌈1 / r⌉ := by
    push_cast
    linarith
  let x := max (1 / a) ((⌈1 / r⌉ - 1 : ℤ) : ℚ)
  have hx : x < ⌈1 / r⌉ := max_lt hinv hlast
  have hfloor : ⌊x⌋ = ⌈1 / r⌉ - 1 := by
    rw [Int.floor_eq_iff]
    refine ⟨le_max_right _ _, ?_⟩
    push_cast
    linarith
  refine ⟨x, lt_of_lt_of_le (one_div_pos.2 hpos) (le_max_left _ _), hx, ?_⟩
  have hbelow : (⌊x⌋ : ℚ) * r < 1 := by
    have hlt : ((⌈1 / r⌉ - 1 : ℤ) : ℚ) < 1 / r := Int.lt_ceil.1 (by omega)
    rw [hfloor]
    exact (lt_div_iff₀ hr).1 hlt
  have hreaches : (1 : ℚ) ≤ a * x :=
    calc (1 : ℚ) = a * (1 / a) := (mul_one_div_cancel (ne_of_gt hpos)).symm
      _ ≤ a * x := mul_le_mul_of_nonneg_left (le_max_left _ _) (le_of_lt hpos)
  have hlow : ⌊(⌊x⌋ : ℚ) * r⌋ < 1 := Int.floor_lt.2 (by exact_mod_cast hbelow)
  have hhigh : 1 ≤ ⌊a * x⌋ := Int.le_floor.2 (by exact_mod_cast hreaches)
  omega

/-- The rounded share of a whole part is no larger than a larger share of the amount. -/
theorem floor_share_le {b r x : ℚ} (hr : 0 ≤ r) (hb : r ≤ b) (hx : 0 ≤ x) : (⌊(⌊x⌋ : ℚ) * r⌋ : ℚ) ≤ b * x :=
  calc (⌊(⌊x⌋ : ℚ) * r⌋ : ℚ) ≤ ⌊x⌋ * r := Int.floor_le _
    _ ≤ x * r := mul_le_mul_of_nonneg_right (Int.floor_le x) hr
    _ ≤ x * b := mul_le_mul_of_nonneg_left hb hx
    _ = b * x := mul_comm ..

/-- A share is reached exactly by any multiple of its denominator. -/
theorem floor_share_den (m : ℕ) (r : ℚ) : ⌊((⌊(m * r.den : ℚ)⌋ : ℤ) : ℚ) * r⌋ = m * r.num := by
  have hwhole : (m * r.den : ℚ) * r = (m * r.num : ℤ) := by
    rw [mul_assoc, mul_comm (r.den : ℚ), Rat.mul_den_eq_num]
    push_cast
    rfl
  have hfloor : ⌊(m * r.den : ℚ)⌋ = m * r.den := by exact_mod_cast Int.floor_natCast (R := ℚ) (m * r.den)
  rw [hfloor]
  push_cast
  rw [hwhole, Int.floor_intCast]

end Arith
