import IonInsurance.Arith.Binary64
import IonInsurance.Arith.Trunc

/-!
# Relative errors

A value that is computed in binary64 differs from the exact one by a small share of it.  Such an error does not take a
fraction across a whole number, as long as it is smaller than one over its denominator.
-/

namespace Arith

/-- `a` differs from `b` by at most the share `ε` of it. -/
def Within (ε a b : ℚ) : Prop := |a - b| ≤ ε * |b|

variable {ε δ a b c : ℚ}

theorem Within.refl (hε : 0 ≤ ε) (a : ℚ) : Within ε a a := by
  unfold Within
  rw [sub_self, abs_zero]
  positivity

theorem Within.mono (h : Within ε a b) (hle : ε ≤ δ) : Within δ a b :=
  le_trans h (mul_le_mul_of_nonneg_right hle (abs_nonneg b))

theorem Within.mul_right (h : Within ε a b) (k : ℚ) : Within ε (a * k) (b * k) := by
  unfold Within at h ⊢
  rw [← sub_mul, abs_mul, abs_mul, ← mul_assoc]
  exact mul_le_mul_of_nonneg_right h (abs_nonneg k)

theorem Within.div_right (h : Within ε a b) (k : ℚ) : Within ε (a / k) (b / k) := by
  rw [div_eq_mul_inv, div_eq_mul_inv]
  exact h.mul_right k⁻¹

theorem Within.upper (h : Within ε a b) : |a| ≤ (1 + ε) * |b| :=
  calc |a| = |a - b + b| := by rw [sub_add_cancel]
    _ ≤ |a - b| + |b| := abs_add_le _ _
    _ ≤ ε * |b| + |b| := add_le_add_left h _
    _ = (1 + ε) * |b| := by ring

theorem Within.lower (h : Within ε a b) : (1 - ε) * |b| ≤ |a| := by
  have htriangle : |b| ≤ |a - b| + |a| :=
    calc |b| = |a - (a - b)| := by rw [sub_sub_cancel]
      _ ≤ |a| + |a - b| := abs_sub _ _
      _ = |a - b| + |a| := add_comm _ _
  have hle : |a - b| ≤ ε * |b| := h
  linarith

/-- A value within less than the whole of another one has its sign. -/
theorem Within.nonneg (h : Within ε a b) (hε : ε ≤ 1) (hb : 0 ≤ b) : 0 ≤ a := by
  have hle : |a - b| ≤ ε * |b| := h
  have hbounds := abs_le.1 hle
  rw [abs_of_nonneg hb] at hbounds
  nlinarith

theorem Within.nonpos (h : Within ε a b) (hε : ε ≤ 1) (hb : b ≤ 0) : a ≤ 0 := by
  have hle : |a - b| ≤ ε * |b| := h
  have hbounds := abs_le.1 hle
  rw [abs_of_nonpos hb] at hbounds
  nlinarith

/-- The errors of two steps add up, and so does the error of the second on the first. -/
theorem Within.trans (hab : Within ε a b) (hbc : Within δ b c) (hε : 0 ≤ ε) : Within (ε + δ + ε * δ) a c := by
  have hb := mul_le_mul_of_nonneg_left hbc.upper hε
  have hle : |a - b| ≤ ε * |b| := hab
  have hle' : |b - c| ≤ δ * |c| := hbc
  show |a - c| ≤ _
  calc |a - c| = |(a - b) + (b - c)| := by rw [sub_add_sub_cancel]
    _ ≤ |a - b| + |b - c| := abs_add_le _ _
    _ ≤ ε * ((1 + δ) * |c|) + δ * |c| := by linarith
    _ = (ε + δ + ε * δ) * |c| := by ring

theorem within_binary64 {q : ℚ} (h : (2 : ℚ) ^ (-1022 : ℤ) ≤ |q|) : Within (1 / 2 ^ 53) (binary64 q) q := by
  have hle := abs_binary64_sub_le h
  unfold Within
  linarith

/-- A share of a whole number, computed in binary64: the number, its product with a percentage and the hundredth of it
are rounded. -/
theorem within_percentage (n : ℤ) {m : ℚ} (hm : 1 / 2 ≤ m) :
    Within (1 / 2 ^ 51) (binary64 (binary64 (binary64 n * m) / 100)) (n * m / 100) := by
  by_cases hzero : n = 0
  · subst hzero
    have hfl : binary64 0 = 0 := binary64_intCast (n := 0) (by norm_num)
    simp only [Int.cast_zero, hfl, zero_mul, zero_div]
    exact Within.refl (by norm_num) 0
  · have hone : (1 : ℚ) ≤ |(n : ℚ)| := by exact_mod_cast Int.one_le_abs hzero
    have hsmall : (2 : ℚ) ^ (-1022 : ℤ) ≤ 1 / 1000 :=
      calc (2 : ℚ) ^ (-1022 : ℤ) ≤ 2 ^ (-10 : ℤ) := zpow_le_zpow_right₀ (by norm_num) (by norm_num)
        _ ≤ 1 / 1000 := by norm_num
    have hpos : 0 ≤ m := by linarith
    -- each of the three numbers is normal
    have h₁ : Within (1 / 2 ^ 53) (binary64 n) n := within_binary64 (by linarith)
    have hlow₁ := h₁.lower
    have hprod : 1 / 4 ≤ |binary64 n * m| := by
      rw [abs_mul, abs_of_nonneg hpos]
      nlinarith
    have h₂ : Within (1 / 2 ^ 53) (binary64 (binary64 n * m)) (binary64 n * m) := within_binary64 (by linarith)
    have hlow₂ := h₂.lower
    have hquot : 1 / 1000 ≤ |binary64 (binary64 n * m) / 100| := by
      rw [abs_div, abs_of_pos (by norm_num : (0 : ℚ) < 100)]
      linarith
    have h₃ : Within (1 / 2 ^ 53) (binary64 (binary64 (binary64 n * m) / 100)) (binary64 (binary64 n * m) / 100) :=
      within_binary64 (by linarith)
    have hproduct := h₂.trans (h₁.mul_right m) (by norm_num)
    have hshare := h₃.trans (hproduct.div_right 100) (by norm_num)
    exact hshare.mono (by norm_num)

/-! ### Whole numbers -/

/-- A fraction that is above a whole number is above it by one over its denominator. -/
theorem add_inv_den_le {e : ℚ} {k : ℤ} (h : (k : ℚ) < e) : k + 1 / e.den ≤ e := by
  have hden : (0 : ℚ) < e.den := by exact_mod_cast e.den_pos
  have hnum : (e.num : ℚ) = e * e.den := (Rat.mul_den_eq_num e).symm
  have hlt : k * (e.den : ℤ) < e.num := by
    have hscaled := mul_lt_mul_of_pos_right h hden
    rw [← hnum] at hscaled
    exact_mod_cast hscaled
  have hle : (k : ℚ) * e.den + 1 ≤ e * e.den := by
    rw [← hnum]
    exact_mod_cast hlt
  rw [← sub_nonneg] at hle ⊢
  have hfactor : e - (k + 1 / e.den) = (e * e.den - (k * e.den + 1)) / e.den := by
    field_simp
  rw [hfactor]
  positivity

/-- A fraction that is below a whole number is below it by one over its denominator. -/
theorem le_sub_inv_den {e : ℚ} {k : ℤ} (h : e < k) : e ≤ k - 1 / e.den := by
  have hneg : ((-k : ℤ) : ℚ) < -e := by
    push_cast
    linarith
  have hle := add_inv_den_le hneg
  rw [Rat.den_neg_eq_den] at hle
  push_cast at hle
  linarith

private theorem trunc_of_near_of_nonneg {e : ℚ} (he : 0 ≤ e) (hden : e.den ≠ 1) (h : |a - e| < 1 / e.den) :
    trunc a = trunc e := by
  have hbounds := abs_lt.1 h
  have hfloor : ((⌊e⌋ : ℤ) : ℚ) < e := by
    refine lt_of_le_of_ne (Int.floor_le e) fun heq => hden ?_
    rw [← heq, Rat.den_intCast]
  have hceil : e < ((⌊e⌋ + 1 : ℤ) : ℚ) := by
    push_cast
    exact Int.lt_floor_add_one e
  have hlow := add_inv_den_le hfloor
  have hhigh := le_sub_inv_den hceil
  push_cast at hhigh
  have hwhole : (0 : ℚ) ≤ ⌊e⌋ := by exact_mod_cast Int.floor_nonneg.2 he
  have hsame : ⌊a⌋ = ⌊e⌋ := Int.floor_eq_iff.2 ⟨by linarith, by linarith⟩
  have ha : 0 ≤ a := by linarith
  rw [trunc_of_nonneg ha, trunc_of_nonneg he, Int.natCast_floor_eq_floor ha, Int.natCast_floor_eq_floor he, hsame]

/-- Next to a fraction that is not whole, the whole part is the same. -/
theorem trunc_of_near {e : ℚ} (hden : e.den ≠ 1) (h : |a - e| < 1 / e.den) : trunc a = trunc e := by
  rcases le_total 0 e with he | he
  · exact trunc_of_near_of_nonneg he hden h
  · have hneg : trunc (-a) = trunc (-e) := by
      refine trunc_of_near_of_nonneg (neg_nonneg.2 he) (by rwa [Rat.den_neg_eq_den]) ?_
      rwa [Rat.den_neg_eq_den, neg_sub_neg, abs_sub_comm]
    rwa [trunc_neg, trunc_neg, neg_inj] at hneg

/-- A small error does not take a fraction across minus one. -/
theorem Within.neg_one_lt_iff {e : ℚ} (h : Within ε a e) (hε₀ : 0 ≤ ε) (hε : ε * (e.den + 1) ≤ 1) (hne : e ≠ -1) :
    -1 < a ↔ -1 < e := by
  have hpos : (0 : ℚ) < e.den := by exact_mod_cast e.den_pos
  have hinv : (0 : ℚ) < 1 / e.den := one_div_pos.2 hpos
  have hscaled := mul_le_mul_of_nonneg_right hε (le_of_lt hinv)
  have hsplit : ε * (e.den + 1) * (1 / e.den) = ε + ε * (1 / e.den) := by
    field_simp
  rw [hsplit, one_mul] at hscaled
  have hle : |a - e| ≤ ε * |e| := h
  have hbounds := abs_le.1 hle
  rcases lt_or_ge (-1) e with habove | hbelow
  · refine iff_of_true ?_ habove
    rcases le_total 0 e with hnonneg | hneg
    · have hfactor : 0 ≤ (1 - ε) * e := mul_nonneg (by nlinarith) hnonneg
      rw [abs_of_nonneg hnonneg] at hbounds
      linarith
    · have hlow := add_inv_den_le (e := e) (k := -1) (by exact_mod_cast habove)
      have hfactor := mul_le_mul_of_nonneg_right hlow (by linarith : 0 ≤ 1 + ε)
      rw [abs_of_nonpos hneg] at hbounds
      push_cast at hfactor
      nlinarith
  · refine iff_of_false ?_ (not_lt.2 hbelow)
    have hlow := le_sub_inv_den (e := e) (k := -1) (by exact_mod_cast lt_of_le_of_ne hbelow hne)
    have hfactor := mul_le_mul_of_nonneg_right hlow (by nlinarith : 0 ≤ 1 - ε)
    rw [abs_of_nonpos (by linarith)] at hbounds
    push_cast at hfactor
    linarith

end Arith
