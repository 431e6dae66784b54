import Mathlib.Algebra.Order.Archimedean.Basic
import Mathlib.Algebra.Order.Floor.Semifield
import Mathlib.Data.Rat.Floor
import Mathlib.Tactic.Linarith
import Mathlib.Tactic.Positivity

/-!
# Truncation toward zero

`trunc q` is the whole part of a rational, with its sign.  Two shares of one amount have the same whole part exactly if
they lie between the same whole numbers.
-/

namespace Arith

/-- The whole part of `q`, rounded toward zero. -/
def trunc (q : ℚ) : ℤ := q.num.tdiv q.den

theorem trunc_neg (q : ℚ) : trunc (-q) = -trunc q := by
  unfold trunc
  rw [Rat.num_neg_eq_neg_num, Rat.den_neg_eq_den, Int.neg_tdiv]

theorem trunc_of_nonneg {q : ℚ} (h : 0 ≤ q) : trunc q = ⌊q⌋₊ := by
  unfold trunc
  rw [Int.tdiv_eq_ediv_of_nonneg (Rat.num_nonneg.2 h), ← Rat.floor_def', Int.natCast_floor_eq_floor h]

@[simp] theorem trunc_zero : trunc 0 = 0 := rfl

@[simp] theorem trunc_intCast (n : ℤ) : trunc n = n := by
  unfold trunc
  rw [Rat.num_intCast, Rat.den_intCast, Nat.cast_one, Int.tdiv_one]

/-- The whole part of a fraction is the quotient of its terms. -/
theorem trunc_intCast_div (n : ℤ) (d : ℕ) : trunc (n / d) = n.tdiv d := by
  have hnat : ∀ m : ℕ, trunc ((m : ℤ) / d) = (m : ℤ).tdiv d := by
    intro m
    rw [Int.cast_natCast, trunc_of_nonneg (by positivity), Nat.floor_div_eq_div, Int.ofNat_tdiv]
  cases Int.eq_nat_or_neg n with
  | intro m h =>
    rcases h with rfl | rfl
    · exact hnat m
    · rw [Int.cast_neg, neg_div, trunc_neg, hnat, Int.neg_tdiv]

/-- Truncation does not make a value larger. -/
theorem abs_trunc_le (q : ℚ) : |(trunc q : ℚ)| ≤ |q| := by
  have hnonneg : ∀ r : ℚ, 0 ≤ r → |(trunc r : ℚ)| ≤ |r| := by
    intro r hr
    rw [trunc_of_nonneg hr, Int.cast_natCast, Nat.abs_cast, abs_of_nonneg hr]
    exact Nat.floor_le hr
  rcases le_total 0 q with h | h
  · exact hnonneg q h
  · have hneg := hnonneg (-q) (neg_nonneg.2 h)
    rwa [trunc_neg, Int.cast_neg, abs_neg, abs_neg] at hneg

/-- Two values have the same whole part exactly if both lie between one whole number and the next. -/
private theorem floor_eq_floor_iff_exists {a b : ℚ} (ha : 0 ≤ a) (hb : 0 ≤ b) :
    ⌊a⌋₊ = ⌊b⌋₊ ↔ ∃ m : ℕ, (m : ℚ) ≤ min a b ∧ max a b < m + 1 := by
  simp only [le_min_iff, max_lt_iff]
  constructor
  · intro h
    have hlow := Nat.floor_le hb
    have hhigh := Nat.lt_floor_add_one b
    rw [← h] at hlow hhigh
    exact ⟨⌊a⌋₊, ⟨Nat.floor_le ha, hlow⟩, Nat.lt_floor_add_one a, hhigh⟩
  · rintro ⟨m, ⟨hma, hmb⟩, ham, hbm⟩
    rw [(Nat.floor_eq_iff ha).2 ⟨hma, ham⟩, (Nat.floor_eq_iff hb).2 ⟨hmb, hbm⟩]

/-- Two shares of one amount have the same whole part exactly if in magnitude both lie between one whole number and the
next. -/
theorem trunc_mul_eq_iff (x : ℤ) {a b : ℚ} (ha : 0 ≤ a) (hb : 0 ≤ b) :
    trunc (x * a) = trunc (x * b) ↔ ∃ m : ℕ, (m : ℚ) ≤ |(x : ℚ)| * min a b ∧ |(x : ℚ)| * max a b < m + 1 := by
  have habs : trunc (x * a) = trunc (x * b) ↔ trunc (|(x : ℚ)| * a) = trunc (|(x : ℚ)| * b) := by
    rcases le_total 0 (x : ℚ) with h | h
    · rw [abs_of_nonneg h]
    · rw [abs_of_nonpos h, neg_mul, neg_mul, trunc_neg, trunc_neg, neg_inj]
  have hx : 0 ≤ |(x : ℚ)| := abs_nonneg _
  rw [habs, trunc_of_nonneg (by positivity), trunc_of_nonneg (by positivity), Nat.cast_inj,
    floor_eq_floor_iff_exists (by positivity) (by positivity), mul_min_of_nonneg _ _ hx, mul_max_of_nonneg _ _ hx]

/-- Values of one sign with the same whole part are less than one apart. -/
theorem abs_sub_lt_one_of_trunc_eq {a b : ℚ} (hsign : 0 ≤ a ∧ 0 ≤ b ∨ a ≤ 0 ∧ b ≤ 0) (h : trunc a = trunc b) :
    |a - b| < 1 := by
  have hnonneg : ∀ {x y : ℚ}, 0 ≤ x → 0 ≤ y → trunc x = trunc y → |x - y| < 1 := by
    intro x y hx hy hxy
    rw [trunc_of_nonneg hx, trunc_of_nonneg hy, Int.natCast_floor_eq_floor hx, Int.natCast_floor_eq_floor hy] at hxy
    exact Int.abs_sub_lt_one_of_floor_eq_floor hxy
  rcases hsign with ⟨ha, hb⟩ | ⟨ha, hb⟩
  · exact hnonneg ha hb h
  · have hneg := hnonneg (neg_nonneg.2 ha) (neg_nonneg.2 hb) (by rw [trunc_neg, trunc_neg, h])
    rwa [neg_sub_neg, abs_sub_comm] at hneg

/-- The smaller of two values has the same floor exactly if it reaches the floor of the larger. -/
theorem floor_eq_floor_iff {a b : ℚ} (h : b ≤ a) : ⌊b⌋ = ⌊a⌋ ↔ (⌊a⌋ : ℚ) ≤ b := by
  have hle : ⌊b⌋ ≤ ⌊a⌋ := Int.floor_le_floor h
  rw [← Int.le_floor]
  constructor
  · intro heq
    omega
  · intro hge
    omega

/-- A value is truncated to a negative number exactly if it is at most minus one. -/
theorem trunc_nonneg_iff (q : ℚ) : 0 ≤ trunc q ↔ -1 < q := by
  by_cases hq : 0 ≤ q
  · have hnonneg : 0 ≤ trunc q := by
      rw [trunc_of_nonneg hq]
      omega
    constructor
    · intro _
      linarith
    · intro _
      exact hnonneg
  · have hneg : 0 ≤ -q := by linarith
    have htrunc : trunc q = -(⌊-q⌋₊ : ℤ) := by
      rw [← trunc_of_nonneg hneg, trunc_neg, neg_neg]
    have hfloor : ⌊-q⌋₊ = 0 ↔ -q < 1 := Nat.floor_eq_zero
    rw [htrunc]
    constructor
    · intro h
      have hzero : ⌊-q⌋₊ = 0 := by omega
      linarith [hfloor.1 hzero]
    · intro h
      have hzero : ⌊-q⌋₊ = 0 := hfloor.2 (by linarith)
      omega

end Arith
