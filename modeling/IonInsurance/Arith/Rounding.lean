import Mathlib.Algebra.BigOperators.Group.List.Basic
import Mathlib.Algebra.Order.Floor.Ring
import Mathlib.Data.Rat.Floor
import Mathlib.Tactic.FieldSimp
import Mathlib.Tactic.Linarith
import Mathlib.Tactic.Ring

/-!
# Rounded shares of a whole number

A whole number is divided in shares of `p` parts in `d`, each rounded to the nearest whole number, a tie up.  A whole
multiple of `d` is divided exactly, so that what the rounding makes of the sum is decided by the remainder.
-/

namespace Arith

/-- The nearest whole number, the larger one at a tie. -/
def roundHalfUp (q : ℚ) : ℤ := ⌊q + 1 / 2⌋

/-- `p` parts in `d` of `n`, rounded. -/
def roundShare (d n p : ℕ) : ℕ := (2 * n * p + d) / (2 * d)

theorem roundHalfUp_div {d : ℕ} (hd : 0 < d) (n p : ℕ) : roundHalfUp ((n : ℚ) * p / d) = roundShare d n p := by
  have hd' : (d : ℚ) ≠ 0 := by exact_mod_cast Nat.pos_iff_ne_zero.1 hd
  have hquot : (n : ℚ) * p / d + 1 / 2 = ((2 * n * p + d : ℕ) : ℚ) / ((2 * d : ℕ) : ℚ) := by
    push_cast
    field_simp
  unfold roundHalfUp roundShare
  rw [hquot, Rat.floor_natCast_div_natCast]
  rfl

/-- A multiple of `d` is shared out exactly. -/
theorem roundShare_add_mul {d : ℕ} (hd : 0 < d) (k r p : ℕ) :
    roundShare d (d * k + r) p = k * p + roundShare d r p := by
  unfold roundShare
  have hparts : 2 * (d * k + r) * p + d = 2 * r * p + d + 2 * d * (k * p) := by ring
  rw [hparts, Nat.add_mul_div_left _ _ (by omega)]
  omega

/-- The rounded shares of `n`, added up. -/
def sumShares (d n : ℕ) (ps : List ℕ) : ℕ := (ps.map (roundShare d n)).sum

theorem sumShares_add_mul {d : ℕ} (hd : 0 < d) (k r : ℕ) (ps : List ℕ) :
    sumShares d (d * k + r) ps = k * ps.sum + sumShares d r ps := by
  unfold sumShares
  induction ps with
  | nil => simp
  | cons p ps ih =>
    simp only [List.map_cons, List.sum_cons]
    rw [ih, roundShare_add_mul hd]
    ring

/-- Shares that make a whole give back the number as they give back its remainder. -/
theorem sumShares_eq_iff_mod {d : ℕ} (hd : 0 < d) {ps : List ℕ} (hps : ps.sum = d) (n : ℕ) :
    sumShares d n ps = n ↔ sumShares d (n % d) ps = n % d := by
  have hdiv := Nat.div_add_mod n d
  have hsum := sumShares_add_mul hd (n / d) (n % d) ps
  rw [hdiv, hps, Nat.mul_comm] at hsum
  omega

end Arith
