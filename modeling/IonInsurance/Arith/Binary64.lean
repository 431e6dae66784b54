import Mathlib.Data.Int.Log
import Mathlib.Data.Rat.Floor
import Mathlib.Tactic.FieldSimp
import Mathlib.Tactic.Linarith
import IonInsurance.Arith.Trunc

/-!
# Rounding to binary64

A number is rounded to a multiple of its unit in the last place, the even one of two that are equally near.  What has 53
bits stays as it is, so that rounding twice is rounding once.  A sum is rounded where it needs one bit more than its
terms.  Rounding moves a number by at most half a unit in its last place.
-/

namespace Arith

/-- The integer nearest to `q`; of two, the even one. -/
def roundEven (q : ℚ) : ℤ :=
  if Int.fract q < 1 / 2 then ⌊q⌋
  else if 1 / 2 < Int.fract q then ⌊q⌋ + 1
  else if ⌊q⌋ % 2 = 0 then ⌊q⌋ else ⌊q⌋ + 1

@[simp] theorem roundEven_intCast (n : ℤ) : roundEven n = n := by
  unfold roundEven
  rw [Int.fract_intCast, if_pos (by norm_num), Int.floor_intCast]

/-- The fraction decides between the two integers next to `q`. -/
theorem abs_roundEven_sub_le (q : ℚ) : |(roundEven q : ℚ) - q| ≤ 1 / 2 := by
  have hq : (⌊q⌋ : ℚ) + Int.fract q = q := Int.floor_add_fract q
  have hnonneg : 0 ≤ Int.fract q := Int.fract_nonneg q
  have hlt : Int.fract q < 1 := Int.fract_lt_one q
  have hdown : Int.fract q ≤ 1 / 2 → |((⌊q⌋ : ℤ) : ℚ) - q| ≤ 1 / 2 := by
    intro h
    rw [abs_le]
    constructor <;> linarith
  have hup : 1 / 2 ≤ Int.fract q → |((⌊q⌋ + 1 : ℤ) : ℚ) - q| ≤ 1 / 2 := by
    intro h
    push_cast
    rw [abs_le]
    constructor <;> linarith
  unfold roundEven
  split
  · rename_i h
    exact hdown (le_of_lt h)
  · rename_i h
    split
    · rename_i h'
      exact hup (le_of_lt h')
    · rename_i h'
      split
      · exact hdown (not_lt.1 h')
      · exact hup (not_lt.1 h)

/-- The distance between two neighbours of binary64 at `q`. -/
def ulp (q : ℚ) : ℚ := 2 ^ max (Int.log 2 |q| - 52) (-1074)

private theorem two_zpow_pos (k : ℤ) : (0 : ℚ) < 2 ^ k := zpow_pos (by norm_num) k

theorem ulp_pos (q : ℚ) : 0 < ulp q := two_zpow_pos _

/-- The number of binary64 nearest to `q`, as if the exponent had no upper bound. -/
def binary64 (q : ℚ) : ℚ := roundEven (q / ulp q) * ulp q

/-! ### What is not rounded -/

/-- A multiple of its unit in the last place is not rounded. -/
theorem binary64_of_multiple {q : ℚ} {m : ℤ} (h : q = m * ulp q) : binary64 q = q := by
  have hne : ulp q ≠ 0 := ne_of_gt (ulp_pos q)
  have hquot : q / ulp q = m := by
    rw [div_eq_iff hne]
    exact h
  unfold binary64
  rw [hquot, roundEven_intCast, ← h]

/-- A power of two is a multiple of each smaller one. -/
private theorem multiple_zpow {m i k : ℤ} (h : i ≤ k) : (m : ℚ) * 2 ^ k = (m * 2 ^ (k - i).toNat : ℤ) * 2 ^ i := by
  have hk : k = (k - i).toNat + i := by omega
  have hpow : (2 : ℚ) ^ k = 2 ^ (k - i).toNat * 2 ^ i := by
    conv_lhs => rw [hk]
    rw [zpow_add₀ (by norm_num), zpow_natCast]
  rw [hpow]
  push_cast
  ring

private theorem binary64_of_lt {m k : ℤ} (hm : |m| < 2 ^ 53) (hk : -1074 ≤ k) : binary64 (m * 2 ^ k) = m * 2 ^ k := by
  by_cases hzero : m = 0
  · subst hzero
    exact binary64_of_multiple (m := 0) (by simp)
  · have hpos : (0 : ℚ) < |(m : ℚ) * 2 ^ k| := abs_pos.2 (mul_ne_zero (by exact_mod_cast hzero) (two_zpow_pos k).ne')
    have hlt : |(m : ℚ) * 2 ^ k| < (2 : ℕ) ^ (53 + k) := by
      have hm' : |(m : ℚ)| < 2 ^ 53 := by exact_mod_cast hm
      rw [abs_mul, abs_of_pos (two_zpow_pos k), Nat.cast_ofNat, zpow_add₀ (by norm_num)]
      exact mul_lt_mul_of_pos_right hm' (two_zpow_pos k)
    have hlog : Int.log 2 |(m : ℚ) * 2 ^ k| < 53 + k := (Int.lt_zpow_iff_log_lt (by norm_num) hpos).1 hlt
    exact binary64_of_multiple (multiple_zpow (max_le (by omega) hk))

/-- A number of up to 53 bits is one of binary64. -/
theorem binary64_of_bits {m k : ℤ} (hm : |m| ≤ 2 ^ 53) (hk : -1074 ≤ k) : binary64 (m * 2 ^ k) = m * 2 ^ k := by
  rcases lt_or_eq_of_le hm with hlt | heq
  · exact binary64_of_lt hlt hk
  · -- two to the 53 is even
    have heven : ∃ n : ℤ, |n| < 2 ^ 53 ∧ m = n * 2 := by
      rcases abs_choice m with hm' | hm'
      · exact ⟨2 ^ 52, by norm_num, by omega⟩
      · exact ⟨-2 ^ 52, by norm_num, by omega⟩
    obtain ⟨n, hn, rfl⟩ := heven
    have hscale : ((n * 2 : ℤ) : ℚ) * 2 ^ k = n * 2 ^ (k + 1) := by
      rw [zpow_add_one₀ (by norm_num)]
      push_cast
      ring
    rw [hscale]
    exact binary64_of_lt hn (by omega)

/-- Every integer of up to 53 bits is a number of binary64. -/
theorem binary64_intCast {n : ℤ} (h : |n| ≤ 2 ^ 53) : binary64 n = n := by
  have hbits := binary64_of_bits (k := 0) h (by norm_num)
  rwa [zpow_zero, mul_one] at hbits

/-- An integer is rounded to an integer. -/
theorem exists_binary64_intCast (n : ℤ) : ∃ m : ℤ, binary64 n = m := by
  by_cases h : 0 ≤ max (Int.log 2 |(n : ℚ)| - 52) (-1074)
  · obtain ⟨e, he⟩ := Int.eq_ofNat_of_zero_le h
    have hulp : ulp n = 2 ^ e := by
      unfold ulp
      rw [he, zpow_natCast]
    refine ⟨roundEven (n / ulp n) * 2 ^ e, ?_⟩
    unfold binary64
    rw [hulp]
    push_cast
    rfl
  · refine ⟨n, ?_⟩
    have hmultiple := multiple_zpow (m := n) (k := 0) (le_of_lt (not_le.1 h))
    rw [zpow_zero, mul_one] at hmultiple
    exact binary64_of_multiple hmultiple

/-- A number has 53 bits before its last place. -/
private theorem abs_lt_ulp (q : ℚ) : |q| < 2 ^ 53 * ulp q :=
  calc |q| < (2 : ℕ) ^ (Int.log 2 |q| + 1) := Int.lt_zpow_succ_log_self (by norm_num) _
    _ ≤ 2 ^ (53 + max (Int.log 2 |q| - 52) (-1074)) := by
      rw [Nat.cast_ofNat]
      exact zpow_le_zpow_right₀ (by norm_num) (by omega)
    _ = 2 ^ 53 * ulp q := by
      rw [zpow_add₀ (by norm_num)]
      rfl

/-- A number of binary64 has 53 bits. -/
theorem exists_bits_binary64 (q : ℚ) : ∃ m k : ℤ, |m| ≤ 2 ^ 53 ∧ -1074 ≤ k ∧ binary64 q = m * 2 ^ k := by
  have hquot : |q / ulp q| < 2 ^ 53 := by
    rw [abs_div, abs_of_pos (ulp_pos q), div_lt_iff₀ (ulp_pos q)]
    exact abs_lt_ulp q
  have hround := abs_le.1 (abs_roundEven_sub_le (q / ulp q))
  have hbounds := abs_lt.1 hquot
  have hm : |(roundEven (q / ulp q) : ℚ)| < 2 ^ 53 + 1 := abs_lt.2 ⟨by linarith, by linarith⟩
  have hbits : |roundEven (q / ulp q)| ≤ 2 ^ 53 := by
    have hlt : |roundEven (q / ulp q)| < 2 ^ 53 + 1 := by exact_mod_cast hm
    omega
  exact ⟨_, _, hbits, le_max_right _ _, rfl⟩

/-- Rounding twice is rounding once. -/
@[simp] theorem binary64_binary64 (q : ℚ) : binary64 (binary64 q) = binary64 q := by
  obtain ⟨m, k, hm, hk, hq⟩ := exists_bits_binary64 q
  rw [hq, binary64_of_bits hm hk]

/-- A number of binary64 with a fraction is small. -/
theorem trunc_binary64 (q : ℚ) : (trunc (binary64 q) : ℚ) = binary64 q ∨ |binary64 q| ≤ 2 ^ 52 := by
  obtain ⟨m, k, hm, -, hq⟩ := exists_bits_binary64 q
  rcases le_or_gt 0 k with hnonneg | hneg
  · left
    have hint : binary64 q = (m * 2 ^ k.toNat : ℤ) := by
      have hmultiple := multiple_zpow (m := m) hnonneg
      rwa [sub_zero, zpow_zero, mul_one, ← hq] at hmultiple
    rw [hint, trunc_intCast]
  · right
    have hm' : |(m : ℚ)| ≤ 2 ^ 53 := by exact_mod_cast hm
    have hhalf : (2 : ℚ) ^ k ≤ 2 ^ (-1 : ℤ) := zpow_le_zpow_right₀ (by norm_num) (by omega)
    calc |binary64 q| = |(m : ℚ)| * 2 ^ k := by rw [hq, abs_mul, abs_of_pos (two_zpow_pos k)]
      _ ≤ 2 ^ 53 * 2 ^ (-1 : ℤ) := mul_le_mul hm' hhalf (two_zpow_pos k).le (by norm_num)
      _ = 2 ^ 52 := by norm_num

/-! ### What is rounded -/

/-- An odd number of more than 53 bits is rounded, whichever power of two it is multiplied by. -/
theorem binary64_ne_of_odd {m : ℤ} (hodd : Odd m) (h : 2 ^ 53 < |m|) (k : ℤ) : binary64 (m * 2 ^ k) ≠ m * 2 ^ k := by
  intro heq
  have hm : (2 : ℚ) ^ 53 ≤ |(m : ℚ)| := by exact_mod_cast h.le
  have hle : ((2 : ℕ) : ℚ) ^ (53 + k) ≤ |(m : ℚ) * 2 ^ k| := by
    rw [abs_mul, abs_of_pos (two_zpow_pos k), Nat.cast_ofNat, zpow_add₀ (by norm_num)]
    exact mul_le_mul_of_nonneg_right hm (two_zpow_pos k).le
  have hpos : 0 < |(m : ℚ) * 2 ^ k| := lt_of_lt_of_le (zpow_pos (by norm_num) _) hle
  have hlog : 53 + k ≤ Int.log 2 |(m : ℚ) * 2 ^ k| := (Int.zpow_le_iff_le_log (by norm_num) hpos).1 hle
  -- its last place is a multiple of the factor of two that it lacks
  obtain ⟨r, hr⟩ : ∃ r : ℤ, (m : ℚ) * 2 ^ k = r * ulp (m * 2 ^ k) := ⟨_, heq.symm⟩
  have hplace : k + 1 ≤ max (Int.log 2 |(m : ℚ) * 2 ^ k| - 52) (-1074) := le_max_of_le_left (by omega)
  obtain ⟨t, ht⟩ : ∃ t : ℤ, (r : ℚ) * ulp (m * 2 ^ k) = t * 2 ^ (k + 1) := ⟨_, multiple_zpow hplace⟩
  rw [ht, zpow_add_one₀ (by norm_num), ← mul_assoc, mul_right_comm] at hr
  have hcancel := mul_right_cancel₀ (two_zpow_pos k).ne' hr
  have htwice : m = t * 2 := by exact_mod_cast hcancel
  rw [htwice] at hodd
  exact (Int.not_even_iff_odd.2 hodd) (even_two.mul_left t)

/-- The 53 bits of a whole number of binary64. -/
private theorem exists_bits {s : ℤ} (hs : binary64 s = s) :
    ∃ (r : ℤ) (k : ℕ), s = r * 2 ^ k ∧ |r| < 2 ^ 53 ∧ (k = 0 ∨ 2 ^ (52 + k) ≤ |s|) := by
  by_cases hlog : Int.log 2 |(s : ℚ)| ≤ 52
  · have hlt : |(s : ℚ)| < (2 : ℕ) ^ (53 : ℤ) :=
      lt_of_lt_of_le (Int.lt_zpow_succ_log_self (by norm_num) _) (zpow_le_zpow_right₀ (by norm_num) (by omega))
    exact ⟨s, 0, by simp, by exact_mod_cast hlt, .inl rfl⟩
  · obtain ⟨k, hk⟩ : ∃ k : ℕ, Int.log 2 |(s : ℚ)| - 52 = k := Int.eq_ofNat_of_zero_le (by omega)
    have hulp : ulp s = 2 ^ k := by
      unfold ulp
      rw [max_eq_left (by omega), hk, zpow_natCast]
    obtain ⟨r, hr⟩ : ∃ r : ℤ, (s : ℚ) = r * ulp s := ⟨_, hs.symm⟩
    have hbits := abs_lt_ulp s
    have hne : (s : ℚ) ≠ 0 := by
      intro hzero
      rw [hzero, abs_zero, Int.log_zero_right] at hlog
      omega
    have hle : ((2 : ℕ) : ℚ) ^ Int.log 2 |(s : ℚ)| ≤ |(s : ℚ)| := Int.zpow_log_le_self (by norm_num) (abs_pos.2 hne)
    have hlog' : Int.log 2 |(s : ℚ)| = ((52 + k : ℕ) : ℤ) := by
      push_cast
      omega
    rw [hlog', zpow_natCast] at hle
    rw [hulp] at hr hbits
    have hpos : (0 : ℚ) < 2 ^ k := by positivity
    rw [hr, abs_mul, abs_of_pos hpos] at hbits
    have hlt := lt_of_mul_lt_mul_right hbits hpos.le
    exact ⟨r, k, by exact_mod_cast hr, by exact_mod_cast hlt, .inr (by exact_mod_cast hle)⟩

/-- Adding `c` takes `s` past a power of two from which on it has one place too many. -/
def Crosses (c s : ℚ) : Prop := ∃ (m : ℤ) (k : ℕ), Odd m ∧ s = m * 2 ^ k ∧ s < 2 ^ (53 + k) ∧ 2 ^ (53 + k) < s + c

/-- A smaller power of two divides a multiple of `2 ^ (d + 1)` with an even quotient. -/
private theorem exists_even_quotient {c : ℤ} {d k : ℕ} (hd : 2 ^ (d + 1) ∣ c) (hk : k ≤ d) :
    ∃ t : ℤ, c = 2 * t * 2 ^ k := by
  obtain ⟨t, rfl⟩ := hd
  refine ⟨2 ^ (d - k) * t, ?_⟩
  have hpow : (2 : ℤ) ^ (d + 1) = 2 * 2 ^ (d - k) * 2 ^ k := by
    rw [mul_assoc, ← pow_add, Nat.sub_add_cancel hk, pow_succ, mul_comm]
  rw [hpow]
  ring

section

variable {s c : ℤ} {d : ℕ}

/-- The sum is an odd number of more than 53 bits, times a power of two. -/
private theorem Crosses.binary64_ne (h : Crosses c s) (hc : c ≤ 2 ^ 53) (hd : 2 ^ (d + 1) ∣ c)
    (hs : |s| < 2 ^ (53 + d)) : binary64 ((s + c : ℤ) : ℚ) ≠ ((s + c : ℤ) : ℚ) := by
  obtain ⟨m, k, hodd, hm, -, hcross⟩ := h
  have hm' : s = m * 2 ^ k := by exact_mod_cast hm
  have hcross' : 2 ^ (53 + k) < s + c := by exact_mod_cast hcross
  have hk : k ≤ d := by
    by_contra hlt
    have hpow : (2 : ℤ) ^ (53 + (d + 1)) ≤ 2 ^ (53 + k) := pow_le_pow_right₀ (by norm_num) (by omega)
    have hone : (2 : ℤ) ^ 53 ≤ 2 ^ (53 + d) := pow_le_pow_right₀ (by norm_num) (by omega)
    rw [← add_assoc, pow_succ] at hpow
    have hbounds := (abs_lt.1 hs).2
    omega
  obtain ⟨t, rfl⟩ := exists_even_quotient hd hk
  have hsum : s + 2 * t * 2 ^ k = (m + 2 * t) * 2 ^ k := by rw [hm', add_mul]
  have hbits : 2 ^ 53 < |m + 2 * t| := by
    rw [hsum, pow_add] at hcross'
    exact lt_of_lt_of_le (lt_of_mul_lt_mul_right hcross' (by positivity)) (le_abs_self _)
  have hne := binary64_ne_of_odd (hodd.add_even (even_two_mul t)) hbits k
  rw [zpow_natCast] at hne
  rw [hsum]
  exact_mod_cast hne

/-- The sum has no more than 53 bits before the last place of `s`, or an even number of them. -/
private theorem binary64_add_of_not_crosses (h : ¬Crosses c s) (hs : binary64 s = s) (hc : 0 ≤ c) (hc' : c ≤ 2 ^ 53)
    (hd : 2 ^ (d + 1) ∣ c) (hsd : |s| < 2 ^ (53 + d)) :
    binary64 ((s + c : ℤ) : ℚ) = ((s + c : ℤ) : ℚ) := by
  obtain ⟨r, k, rfl, hr, hk⟩ := exists_bits hs
  have hkd : k ≤ d := by
    rcases hk with rfl | hle
    · exact Nat.zero_le d
    · have hpow := (pow_lt_pow_iff_right₀ (by norm_num)).1 (lt_of_le_of_lt hle hsd)
      omega
  obtain ⟨t, rfl⟩ := exists_even_quotient hd hkd
  have hpos : (0 : ℤ) < 2 ^ k := by positivity
  have ht : 0 ≤ t := by
    have hnonneg := nonneg_of_mul_nonneg_left hc hpos
    omega
  have htop : 2 * t ≤ 2 ^ 53 := le_trans (le_mul_of_one_le_right (by omega) (by omega)) hc'
  have hbounds := abs_lt.1 hr
  rw [← add_mul]
  by_cases hsmall : r + 2 * t ≤ 2 ^ 53
  · have hbits := binary64_of_bits (m := r + 2 * t) (k := k) (abs_le.2 ⟨by omega, hsmall⟩) (by omega)
    rw [zpow_natCast] at hbits
    exact_mod_cast hbits
  · have heven : Even r := by
      by_contra hodd
      refine h ⟨r, k, Int.not_even_iff_odd.1 hodd, by push_cast; rfl, ?_, ?_⟩
      · have hlt : r * 2 ^ k < 2 ^ 53 * 2 ^ k := mul_lt_mul_of_pos_right hbounds.2 hpos
        rw [pow_add]
        exact_mod_cast hlt
      · have hlt : 2 ^ 53 * 2 ^ k < (r + 2 * t) * 2 ^ k := mul_lt_mul_of_pos_right (by omega) hpos
        rw [add_mul] at hlt
        rw [pow_add]
        exact_mod_cast hlt
    obtain ⟨n, rfl⟩ := heven
    have hbits := binary64_of_bits (m := n + t) (k := k + 1) (abs_le.2 ⟨by omega, by omega⟩) (by omega)
    have hscale : ((n + t : ℤ) : ℚ) * 2 ^ ((k : ℤ) + 1) = (((n + n + 2 * t) * 2 ^ k : ℤ) : ℚ) := by
      rw [zpow_add_one₀ (by norm_num), zpow_natCast]
      push_cast
      ring
    rwa [hscale] at hbits

/-- A multiple of a power of two, added to a whole number of binary64 that is not too large, is rounded exactly if the sum
crosses a power of two. -/
theorem binary64_add_eq_iff (hs : binary64 s = s) (hc : 0 ≤ c) (hc' : c ≤ 2 ^ 53) (hd : 2 ^ (d + 1) ∣ c)
    (hsd : |s| < 2 ^ (53 + d)) : binary64 ((s + c : ℤ) : ℚ) = ((s + c : ℤ) : ℚ) ↔ ¬Crosses c s := by
  constructor
  · intro heq hcross
    exact hcross.binary64_ne hc' hd hsd heq
  · intro hnot
    exact binary64_add_of_not_crosses hnot hs hc hc' hd hsd

end

/-- So is what a number of binary64 is cut off to. -/
theorem binary64_trunc_add_eq_iff (q : ℚ) {c : ℤ} {d : ℕ} (hc : 0 ≤ c) (hc' : c ≤ 2 ^ 52) (hd : 2 ^ (d + 1) ∣ c)
    (hq : |trunc (binary64 q)| < 2 ^ (53 + d)) :
    binary64 ((trunc (binary64 q) + c : ℤ) : ℚ) = ((trunc (binary64 q) + c : ℤ) : ℚ) ↔ ¬Crosses c (binary64 q) := by
  rcases trunc_binary64 q with hwhole | hsmall
  · have hsame : binary64 (trunc (binary64 q) : ℚ) = trunc (binary64 q) := by rw [hwhole, binary64_binary64]
    have hsum := binary64_add_eq_iff hsame hc (by omega) hd hq
    rwa [hwhole] at hsum
  · have htrunc : |trunc (binary64 q)| ≤ 2 ^ 52 := by
      have hle := (abs_trunc_le (binary64 q)).trans hsmall
      exact_mod_cast hle
    have hbounds := abs_le.1 htrunc
    have hsum : binary64 ((trunc (binary64 q) + c : ℤ) : ℚ) = ((trunc (binary64 q) + c : ℤ) : ℚ) :=
      binary64_intCast (abs_le.2 ⟨by omega, by omega⟩)
    refine iff_of_true hsum ?_
    rintro ⟨m, k, -, -, -, hcross⟩
    have hc'' : (c : ℚ) ≤ 2 ^ 52 := by exact_mod_cast hc'
    have hle := (abs_le.1 hsmall).2
    have hpow : (2 : ℚ) ^ 53 ≤ 2 ^ (53 + k) := pow_le_pow_right₀ (by norm_num) (by omega)
    linarith

/-! ### How far a number is rounded -/

theorem abs_binary64_sub_le_ulp (q : ℚ) : |binary64 q - q| ≤ ulp q / 2 := by
  have hne : ulp q ≠ 0 := ne_of_gt (ulp_pos q)
  have hscaled : binary64 q - q = (roundEven (q / ulp q) - q / ulp q) * ulp q := by
    unfold binary64
    field_simp
  rw [hscaled, abs_mul, abs_of_pos (ulp_pos q)]
  have hhalf := mul_le_mul_of_nonneg_right (abs_roundEven_sub_le (q / ulp q)) (le_of_lt (ulp_pos q))
  linarith

/-- A normal number is rounded by at most one part in two to the 53. -/
theorem abs_binary64_sub_le {q : ℚ} (h : (2 : ℚ) ^ (-1022 : ℤ) ≤ |q|) : |binary64 q - q| ≤ |q| / 2 ^ 53 := by
  have hpos : 0 < |q| := lt_of_lt_of_le (two_zpow_pos _) h
  have hlog : -1022 ≤ Int.log 2 |q| := (Int.zpow_le_iff_le_log (by norm_num) hpos).1 (by exact_mod_cast h)
  have hulp : ulp q * 2 ^ 52 ≤ |q| :=
    calc ulp q * 2 ^ 52 = 2 ^ (Int.log 2 |q| - 52) * 2 ^ (52 : ℤ) := by
          unfold ulp
          rw [max_eq_left (by omega)]
          norm_cast
      _ = (2 : ℕ) ^ Int.log 2 |q| := by
          rw [← zpow_add₀ (by norm_num), sub_add_cancel, Nat.cast_ofNat]
      _ ≤ |q| := Int.zpow_log_le_self (by norm_num) hpos
  have herror := abs_binary64_sub_le_ulp q
  linarith

end Arith
