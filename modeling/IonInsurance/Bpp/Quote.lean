import Mathlib.Tactic.Linarith
import Mathlib.Tactic.NormNum
import IonInsurance.Arith.Relative
import IonInsurance.Bpp.Handlers

/-!
# What a policy costs

`HandleSelect` quotes the tariff of the product and the zone that the customer has selected, and a thirtieth of the
insured value where it knows no tariff.  `HandleInit` asks for the tariff of the comprehensive product in zone 3,
whatever was selected.  Computed on `float64`, a premium is within one part in two to the 50 of the exact share.
-/

namespace IonInsurance

open Arith

/-! ### Whole rupiah in 64 bits -/

def InInt64 (n : Int) : Prop := -2 ^ 63 ≤ n ∧ n < 2 ^ 63

theorem int64_of_inInt64 {q : ℚ} (h : InInt64 (trunc q)) : int64 q = trunc q := if_pos h

theorem inInt64_int64 (q : ℚ) : InInt64 (int64 q) := by
  by_cases h : InInt64 (trunc q)
  · rw [int64_of_inInt64 h]
    exact h
  · have hmin : int64 q = -2 ^ 63 := if_neg h
    rw [hmin]
    exact ⟨Int.le_refl _, by decide⟩

/-- A share of an amount is no larger than the amount. -/
theorem inInt64_share {n : Int} (h : InInt64 n) {r : ℚ} (h₀ : 0 ≤ r) (h₁ : r < 1) : InInt64 (trunc (n * r)) := by
  have hn : |(n : ℚ)| ≤ 2 ^ 63 := by
    have hle : |n| ≤ 2 ^ 63 := abs_le.2 ⟨h.1, le_of_lt h.2⟩
    exact_mod_cast hle
  have hlt : |(trunc (n * r) : ℚ)| < 2 ^ 63 :=
    calc |(trunc (n * r) : ℚ)| ≤ |(n : ℚ) * r| := abs_trunc_le _
      _ = |(n : ℚ)| * r := by rw [abs_mul, abs_of_nonneg h₀]
      _ ≤ 2 ^ 63 * r := mul_le_mul_of_nonneg_right hn h₀
      _ < 2 ^ 63 := by linarith
  have habs : |trunc (n * r)| < 2 ^ 63 := by exact_mod_cast hlt
  exact ⟨le_of_lt (abs_lt.1 habs).1, (abs_lt.1 habs).2⟩

namespace Bpp

/-! ### The rate of a product -/

/-- The midpoint of a tariff, as a share of the insured value. -/
def Rates.share (rates : Rates) : ℚ := (rates.min + rates.max) / 2 / 100

/-- The rate of a quote, as a share of the insured value: the midpoint of the tariff, or a thirtieth without one. -/
def quotedRate (productType tariffZone : String) : ℚ :=
  match (ojkRates.lookup productType).bind (·.lookup tariffZone) with
  | some rates => rates.share
  | none => 1 / 30

/-- What is true of every tariff of the table: it is between a thousandth and a twentieth of the vehicle, a fraction with a
small denominator and not one over a whole number; its midpoint is rounded by no more than one part in two to the 52, and
not at all unless the denominator is large; and it is the tariff of the comprehensive product in zone 3 or a good deal
apart from it. -/
structure Rates.Regular (rates : Rates) : Prop where
  ge : 1 / 1000 ≤ rates.share
  le : rates.share ≤ 1 / 20
  den_le : rates.share.den ≤ 20000
  num_ne : rates.share.num ≠ 1
  half_le : 1 / 2 ≤ rates.midRate binary64
  near : |rates.midRate binary64 - rates.midRate id| ≤ 1 / 2 ^ 52 * |rates.midRate id|
  exact : rates.midRate binary64 = rates.midRate id ∨ 1819 ≤ rates.share.den
  apart : rates.min = 253 / 100 ∧ rates.max = 308 / 100 ∨ 11 / 20000 ≤ |rates.share - 561 / 20000|

instance (rates : Rates) : Decidable rates.Regular :=
  decidable_of_iff
    (1 / 1000 ≤ rates.share ∧ rates.share ≤ 1 / 20 ∧ rates.share.den ≤ 20000 ∧ rates.share.num ≠ 1 ∧
      1 / 2 ≤ rates.midRate binary64 ∧
      |rates.midRate binary64 - rates.midRate id| ≤ 1 / 2 ^ 52 * |rates.midRate id| ∧
      (rates.midRate binary64 = rates.midRate id ∨ 1819 ≤ rates.share.den) ∧
      (rates.min = 253 / 100 ∧ rates.max = 308 / 100 ∨ 11 / 20000 ≤ |rates.share - 561 / 20000|))
    ⟨fun ⟨h₁, h₂, h₃, h₄, h₅, h₆, h₇, h₈⟩ => ⟨h₁, h₂, h₃, h₄, h₅, h₆, h₇, h₈⟩,
      fun ⟨h₁, h₂, h₃, h₄, h₅, h₆, h₇, h₈⟩ => ⟨h₁, h₂, h₃, h₄, h₅, h₆, h₇, h₈⟩⟩

private theorem ojkRates_regular :
    (ojkRates.all fun product => product.2.all fun zone => zone.2.Regular) = true := by
  decide +kernel

private theorem mem_of_lookup {β : Type} {l : List (String × β)} {k : String} {v : β} (h : l.lookup k = some v) :
    (k, v) ∈ l := by
  obtain ⟨l₁, l₂, rfl, -⟩ := List.lookup_eq_some_iff.1 h
  simp

theorem regular_of_tariff {productType tariffZone : String} {rates : Rates}
    (h : (ojkRates.lookup productType).bind (·.lookup tariffZone) = some rates) : rates.Regular := by
  obtain ⟨zoneMap, hproduct, hzone⟩ := Option.bind_eq_some_iff.1 h
  have hzones := List.all_eq_true.1 ojkRates_regular _ (mem_of_lookup hproduct)
  exact of_decide_eq_true (List.all_eq_true.1 hzones _ (mem_of_lookup hzone))

private theorem quotedRate_between (productType tariffZone : String) :
    (1 / 1000 ≤ quotedRate productType tariffZone ∧ quotedRate productType tariffZone ≤ 1 / 20) ∧
      (quotedRate productType tariffZone).den ≤ 20000 := by
  unfold quotedRate
  split
  · rename_i rates hrates
    have hregular := regular_of_tariff hrates
    exact ⟨⟨hregular.ge, hregular.le⟩, hregular.den_le⟩
  · refine ⟨by norm_num, ?_⟩
    rw [one_div, Rat.inv_ofNat_den]
    norm_num

theorem quotedRate_ge (productType tariffZone : String) : 1 / 1000 ≤ quotedRate productType tariffZone :=
  (quotedRate_between productType tariffZone).1.1

theorem quotedRate_le (productType tariffZone : String) : quotedRate productType tariffZone ≤ 1 / 20 :=
  (quotedRate_between productType tariffZone).1.2

theorem quotedRate_den_le (productType tariffZone : String) : (quotedRate productType tariffZone).den ≤ 20000 :=
  (quotedRate_between productType tariffZone).2

theorem quotedRate_nonneg (productType tariffZone : String) : 0 ≤ quotedRate productType tariffZone := by
  have hge := quotedRate_ge productType tariffZone
  linarith

/-- The rate that a quote names, in percent: the midpoint of the tariff, or the one that goes with the fallback. -/
def namedRate (fl : ℚ → ℚ) (productType tariffZone : String) (fallback : ℚ) : ℚ :=
  match (ojkRates.lookup productType).bind (·.lookup tariffZone) with
  | some rates => rates.midRate fl
  | none => fallback

/-- The share of the insured value that is quoted, before it is cut off to whole rupiah. -/
def premiumShare (fl : ℚ → ℚ) (productType tariffZone : String) (idv : Int) : ℚ :=
  match (ojkRates.lookup productType).bind (·.lookup tariffZone) with
  | some rates => fl (fl (fl idv * rates.midRate fl) / 100)
  | none => idv / 30

/-- The breakup, whichever way it was computed. -/
theorem quoted_breakup (fl : ℚ → ℚ) {idv : Int} (h : InInt64 idv) (productType tariffZone : String) (rateUsed : ℚ) :
    (calcPremiumWith fl productType tariffZone idv).toOption.getD (fallbackPremium idv rateUsed) = {
      basePremiumIDR := int64 (premiumShare fl productType tariffZone idv)
      adminFeeIDR := adminFeeIDR
      stampDutyIDR := stampDutyIDR
      totalIDR := int64 (premiumShare fl productType tariffZone idv) + adminFeeIDR + stampDutyIDR
      rateUsed := namedRate fl productType tariffZone rateUsed } := by
  cases htariff : (ojkRates.lookup productType).bind (·.lookup tariffZone) with
  | none =>
    have hthirtieth : trunc ((idv : ℚ) / 30) = idv.tdiv 30 := trunc_intCast_div idv 30
    have hin : InInt64 (trunc ((idv : ℚ) / 30)) := by
      have hshare := inInt64_share h (by norm_num : (0 : ℚ) ≤ 1 / 30) (by norm_num)
      rwa [mul_one_div] at hshare
    have herr : (calcPremiumWith fl productType tariffZone idv).toOption = none := by
      cases hproduct : ojkRates.lookup productType with
      | none => simp only [calcPremiumWith, hproduct, Except.toOption]
      | some zoneMap =>
        rw [hproduct, Option.bind_some] at htariff
        simp only [calcPremiumWith, hproduct, htariff, Except.toOption]
    rw [herr, Option.getD_none]
    simp only [fallbackPremium, namedRate, premiumShare, htariff, int64_of_inInt64 hin, hthirtieth]
  | some rates =>
    obtain ⟨zoneMap, hproduct, hzone⟩ := Option.bind_eq_some_iff.1 htariff
    simp only [calcPremiumWith, namedRate, premiumShare, hproduct, Option.bind_some, hzone, Except.toOption,
      Option.getD_some]

/-- In exact numbers, what is quoted is the share that the rate gives. -/
theorem premiumShare_id (productType tariffZone : String) (idv : Int) :
    premiumShare id productType tariffZone idv = idv * quotedRate productType tariffZone := by
  unfold premiumShare quotedRate
  split
  · simp only [Rates.midRate, Rates.share, id_eq, mul_div_assoc]
  · rw [mul_one_div]

/-- The exact premium fits into 64 bits. -/
theorem int64_premiumShare_id {idv : Int} (h : InInt64 idv) (productType tariffZone : String) :
    int64 (premiumShare id productType tariffZone idv) = trunc (idv * quotedRate productType tariffZone) := by
  have hle := quotedRate_le productType tariffZone
  rw [premiumShare_id]
  exact int64_of_inInt64 (inInt64_share h (quotedRate_nonneg ..) (by linarith))

/-! ### The premium on float64 -/

/-- What is computed is within one part in two to the 50 of the exact share. -/
theorem within_premiumShare (productType tariffZone : String) (idv : Int) :
    Within (1 / 2 ^ 50) (premiumShare binary64 productType tariffZone idv) (idv * quotedRate productType tariffZone) := by
  rw [← premiumShare_id]
  unfold premiumShare
  split
  · rename_i rates hrates
    have hregular := regular_of_tariff hrates
    have hrate : Within (1 / 2 ^ 52) (rates.midRate binary64) (rates.midRate id) := hregular.near
    have hexact := (hrate.mul_right idv).div_right 100
    rw [mul_comm, mul_comm (rates.midRate id)] at hexact
    exact ((within_percentage idv hregular.half_le).trans hexact (by norm_num)).mono (by norm_num)
  · exact Within.refl (by norm_num) _

/-- A premium has no more than 60 bits. -/
theorem abs_premium_lt {idv : Int} (h : InInt64 idv) (productType tariffZone : String) :
    |trunc (premiumShare binary64 productType tariffZone idv)| < 2 ^ 60 := by
  have hn : |(idv : ℚ)| ≤ 2 ^ 63 := by
    have hle : |idv| ≤ 2 ^ 63 := abs_le.2 ⟨h.1, le_of_lt h.2⟩
    exact_mod_cast hle
  have hnonneg := quotedRate_nonneg productType tariffZone
  have hshare : |(idv : ℚ) * quotedRate productType tariffZone| ≤ 2 ^ 63 * (1 / 20) := by
    rw [abs_mul, abs_of_nonneg hnonneg]
    exact mul_le_mul hn (quotedRate_le ..) hnonneg (by norm_num)
  have hupper := (within_premiumShare productType tariffZone idv).upper
  have htrunc := abs_trunc_le (premiumShare binary64 productType tariffZone idv)
  have hlt : |(trunc (premiumShare binary64 productType tariffZone idv) : ℚ)| < 2 ^ 60 := by linarith
  exact_mod_cast hlt

theorem int64_premiumShare {idv : Int} (h : InInt64 idv) (productType tariffZone : String) :
    int64 (premiumShare binary64 productType tariffZone idv) =
      trunc (premiumShare binary64 productType tariffZone idv) := by
  have hbounds := abs_lt.1 (abs_premium_lt h productType tariffZone)
  refine int64_of_inInt64 ?_
  unfold InInt64
  omega

theorem quoted_total {idv : Int} (h : InInt64 idv) (productType tariffZone : String) (rateUsed : ℚ) :
    ((calcPremium productType tariffZone idv).toOption.getD (fallbackPremium idv rateUsed)).totalIDR =
      trunc (premiumShare binary64 productType tariffZone idv) + adminFeeIDR + stampDutyIDR := by
  unfold calcPremium
  rw [quoted_breakup binary64 h, int64_premiumShare h]

theorem share_den_le (productType tariffZone : String) (idv : Int) :
    (((idv : ℚ) * quotedRate productType tariffZone).den : ℚ) ≤ 20000 := by
  have hdvd := Rat.mul_den_dvd (idv : ℚ) (quotedRate productType tariffZone)
  rw [Rat.den_intCast, one_mul] at hdvd
  exact_mod_cast (Nat.le_of_dvd (Rat.den_pos _) hdvd).trans (quotedRate_den_le productType tariffZone)

/-- A premium is negative exactly if the exact share is at most minus one rupiah. -/
theorem premium_nonneg_iff (productType tariffZone : String) (idv : Int) :
    0 ≤ trunc (premiumShare binary64 productType tariffZone idv) ↔ -1 < idv * quotedRate productType tariffZone := by
  rw [trunc_nonneg_iff]
  cases htariff : (ojkRates.lookup productType).bind (·.lookup tariffZone) with
  | none =>
    simp only [premiumShare, quotedRate, htariff, mul_one_div]
  | some rates =>
    refine (within_premiumShare productType tariffZone idv).neg_one_lt_iff (by norm_num) ?_ ?_
    · have hden := share_den_le productType tariffZone idv
      linarith
    · intro heq
      have hnum := (regular_of_tariff htariff).num_ne
      have hrate : quotedRate productType tariffZone = rates.share := by simp only [quotedRate, htariff]
      rw [hrate] at heq
      have hinv : rates.share = ((-idv : ℤ) : ℚ)⁻¹ := by
        refine eq_inv_of_mul_eq_one_left ?_
        push_cast
        linarith
      have hpos : 0 < -idv := by
        have hnonneg := quotedRate_nonneg productType tariffZone
        rw [hrate] at hnonneg
        by_contra hle
        have hle' : (0 : ℚ) ≤ idv := by exact_mod_cast (by omega : 0 ≤ idv)
        have hmul := mul_nonneg hle' hnonneg
        linarith
      rw [hinv] at hnum
      exact hnum (Rat.inv_intCast_num_of_pos hpos)

/-! ### Two rates -/

/-- A whole share of a small insured value is computed without an error. -/
private theorem premiumShare_of_whole {productType tariffZone : String} {rates : Rates}
    (htariff : (ojkRates.lookup productType).bind (·.lookup tariffZone) = some rates) {idv : Int} (h : |idv| < 1819)
    (hwhole : ((idv : ℚ) * quotedRate productType tariffZone).den = 1) :
    premiumShare binary64 productType tariffZone idv = idv * quotedRate productType tariffZone := by
  have hrate : quotedRate productType tariffZone = rates.share := by simp only [quotedRate, htariff]
  obtain ⟨k, hk⟩ : ∃ k : ℤ, (idv : ℚ) * quotedRate productType tariffZone = k :=
    ⟨_, (Rat.den_eq_one_iff _).1 hwhole |>.symm⟩
  rcases (regular_of_tariff htariff).exact with hmid | hden
  · have hpercent : (idv : ℚ) * rates.midRate id = (100 * k : ℤ) := by
      have hshare : rates.midRate id = 100 * rates.share := by
        simp only [Rates.midRate, Rates.share, id_eq]
        ring
      rw [hshare, mul_left_comm, ← hrate, hk]
      push_cast
      ring
    have hbound : |k| ≤ 1819 := by
      have hle := (quotedRate_le productType tariffZone).trans (by norm_num : (1 : ℚ) / 20 ≤ 1)
      have hshare : |(k : ℚ)| ≤ 1819 := by
        rw [← hk, abs_mul, abs_of_nonneg (quotedRate_nonneg ..)]
        have hsmall : |(idv : ℚ)| ≤ 1819 := by exact_mod_cast le_of_lt h
        exact (mul_le_of_le_one_right (abs_nonneg _) hle).trans hsmall
      exact_mod_cast hshare
    have hidv : binary64 idv = idv := binary64_intCast (by omega)
    have hk100 : binary64 ((100 * k : ℤ) : ℚ) = (100 * k : ℤ) := by
      refine binary64_intCast ?_
      rw [abs_mul]
      norm_num
      omega
    have hk1 : binary64 (k : ℚ) = k := binary64_intCast (by omega)
    have hcancel : ((100 * k : ℤ) : ℚ) / 100 = k := by
      push_cast
      ring
    simp only [premiumShare, htariff, hmid]
    rw [hidv, hpercent, hk100, hcancel, hk1, hk]
  · -- only of nothing is a share whole that takes so many rupiah
    have hzero : idv = 0 := by
      by_contra hne
      have hshare : rates.share = Rat.divInt k idv := by
        rw [Rat.divInt_eq_div, ← hk, hrate]
        exact (mul_div_cancel_left₀ _ (by exact_mod_cast hne)).symm
      have hdvd : (rates.share.den : ℤ) ∣ idv := by
        rw [hshare]
        exact Rat.den_dvd k idv
      have hle := Int.le_of_dvd (abs_pos.2 hne) ((dvd_abs _ _).2 hdvd)
      omega
    have hwithin := within_premiumShare productType tariffZone idv
    rw [hzero, Int.cast_zero, zero_mul] at hwithin ⊢
    exact le_antisymm (hwithin.nonpos (by norm_num) (le_refl 0)) (hwithin.nonneg (by norm_num) (le_refl 0))

/-- For a small insured value the premium is the exact share, cut off to whole rupiah. -/
theorem trunc_premiumShare {idv : Int} (h : |idv| < 1819) (productType tariffZone : String) :
    trunc (premiumShare binary64 productType tariffZone idv) = trunc (idv * quotedRate productType tariffZone) := by
  cases htariff : (ojkRates.lookup productType).bind (·.lookup tariffZone) with
  | none => simp only [premiumShare, quotedRate, htariff, mul_one_div]
  | some rates =>
    have hsmall : |(idv : ℚ)| < 1819 := by exact_mod_cast h
    have hle : |(idv : ℚ) * quotedRate productType tariffZone| ≤ 1819 * (1 / 20) := by
      rw [abs_mul, abs_of_nonneg (quotedRate_nonneg ..)]
      exact mul_le_mul (le_of_lt hsmall) (quotedRate_le ..) (quotedRate_nonneg ..) (by norm_num)
    by_cases hwhole : ((idv : ℚ) * quotedRate productType tariffZone).den = 1
    · -- a whole share is computed without an error
      rw [premiumShare_of_whole htariff h hwhole]
    · have hnear : |premiumShare binary64 productType tariffZone idv - idv * quotedRate productType tariffZone| ≤
          1 / 2 ^ 50 * |(idv : ℚ) * quotedRate productType tariffZone| := within_premiumShare ..
      refine trunc_of_near hwhole (lt_of_le_of_lt hnear ?_)
      rw [lt_div_iff₀ (by exact_mod_cast Rat.den_pos _)]
      have hden := share_den_le productType tariffZone idv
      have hprod := mul_le_mul hle hden (by positivity) (by norm_num)
      linarith

theorem comprehensiveZone3_rate : quotedRate "MOTOR_COMPREHENSIVE" "ZONE_3" = 561 / 20000 := by
  have hmidpoint : Rates.share ⟨253 / 100, 308 / 100⟩ = 561 / 20000 := by norm_num [Rates.share]
  exact hmidpoint

private theorem premium_or_apart (productType tariffZone : String) :
    (quotedRate productType tariffZone = quotedRate "MOTOR_COMPREHENSIVE" "ZONE_3" ∧ ∀ idv,
      premiumShare binary64 productType tariffZone idv = premiumShare binary64 "MOTOR_COMPREHENSIVE" "ZONE_3" idv) ∨
      11 / 20000 ≤ |quotedRate productType tariffZone - quotedRate "MOTOR_COMPREHENSIVE" "ZONE_3"| := by
  rw [comprehensiveZone3_rate]
  cases htariff : (ojkRates.lookup productType).bind (·.lookup tariffZone) with
  | none =>
    right
    simp only [quotedRate, htariff]
    norm_num
  | some rates =>
    rcases (regular_of_tariff htariff).apart with ⟨hmin, hmax⟩ | hfar
    · left
      obtain rfl : rates = ⟨253 / 100, 308 / 100⟩ := by
        cases rates
        simp_all only
      simp only [quotedRate, premiumShare, htariff]
      exact ⟨by norm_num [Rates.share], fun idv => rfl⟩
    · right
      simpa only [quotedRate, htariff] using hfar

/-- From 1819 rupiah on, the shares at two such rates are at least a rupiah apart. -/
private theorem lt_of_premium_eq {productType tariffZone : String} {idv : Int}
    (hfar : 11 / 20000 ≤ |quotedRate productType tariffZone - quotedRate "MOTOR_COMPREHENSIVE" "ZONE_3"|)
    (heq : trunc (premiumShare binary64 "MOTOR_COMPREHENSIVE" "ZONE_3" idv) =
      trunc (premiumShare binary64 productType tariffZone idv)) : |idv| < 1819 := by
  by_contra hlarge
  have hn : (1819 : ℚ) ≤ |(idv : ℚ)| := by exact_mod_cast not_lt.1 hlarge
  have hasked := within_premiumShare "MOTOR_COMPREHENSIVE" "ZONE_3" idv
  have hquoted := within_premiumShare productType tariffZone idv
  have hsign : 0 ≤ premiumShare binary64 "MOTOR_COMPREHENSIVE" "ZONE_3" idv ∧
      0 ≤ premiumShare binary64 productType tariffZone idv ∨
      premiumShare binary64 "MOTOR_COMPREHENSIVE" "ZONE_3" idv ≤ 0 ∧
        premiumShare binary64 productType tariffZone idv ≤ 0 := by
    rcases le_total 0 (idv : ℚ) with hnonneg | hnonpos
    · left
      exact ⟨hasked.nonneg (by norm_num) (mul_nonneg hnonneg (quotedRate_nonneg ..)),
        hquoted.nonneg (by norm_num) (mul_nonneg hnonneg (quotedRate_nonneg ..))⟩
    · right
      exact ⟨hasked.nonpos (by norm_num) (mul_nonpos_of_nonpos_of_nonneg hnonpos (quotedRate_nonneg ..)),
        hquoted.nonpos (by norm_num) (mul_nonpos_of_nonpos_of_nonneg hnonpos (quotedRate_nonneg ..))⟩
  have hnear := abs_sub_lt_one_of_trunc_eq hsign heq
  have herror : ∀ p z, |premiumShare binary64 p z idv - idv * quotedRate p z| ≤ 1 / 2 ^ 50 * |(idv : ℚ)| := by
    intro p z
    have hle : |premiumShare binary64 p z idv - idv * quotedRate p z| ≤ 1 / 2 ^ 50 * |(idv : ℚ) * quotedRate p z| :=
      within_premiumShare p z idv
    have hone := (quotedRate_le p z).trans (by norm_num : (1 : ℚ) / 20 ≤ 1)
    rw [abs_mul, abs_of_nonneg (quotedRate_nonneg p z)] at hle
    exact hle.trans (mul_le_mul_of_nonneg_left (mul_le_of_le_one_right (abs_nonneg _) hone) (by norm_num))
  have hgap : |(idv : ℚ)| * (11 / 20000) ≤
      |(idv : ℚ) * quotedRate productType tariffZone - idv * quotedRate "MOTOR_COMPREHENSIVE" "ZONE_3"| := by
    rw [← mul_sub, abs_mul]
    exact mul_le_mul_of_nonneg_left hfar (abs_nonneg _)
  have h₁ := abs_le.1 (herror "MOTOR_COMPREHENSIVE" "ZONE_3")
  have h₂ := abs_le.1 (herror productType tariffZone)
  have h₃ := abs_lt.1 hnear
  rcases le_abs.1 hgap with hup | hdown
  · linarith
  · linarith

/-- Two rates give the same premium: the one of the comprehensive product in zone 3 and an equal one, or the insured value
is so small that both have come to the same whole rupiah. -/
theorem premium_eq_iff (productType tariffZone : String) (idv : Int) :
    trunc (premiumShare binary64 "MOTOR_COMPREHENSIVE" "ZONE_3" idv) =
        trunc (premiumShare binary64 productType tariffZone idv) ↔
      quotedRate productType tariffZone = quotedRate "MOTOR_COMPREHENSIVE" "ZONE_3" ∨ ∃ m : ℕ, m ≤ 50 ∧
        (m : ℚ) ≤ |(idv : ℚ)| * min (quotedRate "MOTOR_COMPREHENSIVE" "ZONE_3") (quotedRate productType tariffZone) ∧
        |(idv : ℚ)| * max (quotedRate "MOTOR_COMPREHENSIVE" "ZONE_3") (quotedRate productType tariffZone) < m + 1 := by
  have hexact := trunc_mul_eq_iff idv (quotedRate_nonneg "MOTOR_COMPREHENSIVE" "ZONE_3")
    (quotedRate_nonneg productType tariffZone)
  have hrate := comprehensiveZone3_rate
  constructor
  · intro heq
    rcases premium_or_apart productType tariffZone with ⟨hsame, -⟩ | hfar
    · exact .inl hsame
    · have hsmall := lt_of_premium_eq hfar heq
      rw [trunc_premiumShare hsmall, trunc_premiumShare hsmall, hexact] at heq
      obtain ⟨m, hlow, hhigh⟩ := heq
      refine .inr ⟨m, ?_, hlow, hhigh⟩
      -- the smaller rate is at `m` rupiah before the larger one is at the next
      rw [abs_sub_comm, ← max_sub_min_eq_abs'] at hfar
      have hmin : min (quotedRate "MOTOR_COMPREHENSIVE" "ZONE_3") (quotedRate productType tariffZone) ≤ 561 / 20000 := by
        rw [← hrate]
        exact min_le_left _ _
      have hpos : 0 < min (quotedRate "MOTOR_COMPREHENSIVE" "ZONE_3") (quotedRate productType tariffZone) :=
        lt_of_lt_of_le (by norm_num) (le_min (quotedRate_ge ..) (quotedRate_ge ..))
      generalize min (quotedRate "MOTOR_COMPREHENSIVE" "ZONE_3") (quotedRate productType tariffZone) = lo at *
      generalize max (quotedRate "MOTOR_COMPREHENSIVE" "ZONE_3") (quotedRate productType tariffZone) = hi at *
      have hlow' := mul_le_mul_of_nonneg_right hlow (by linarith : 0 ≤ hi)
      have hhigh' := mul_lt_mul_of_pos_left hhigh hpos
      have hfar' := mul_le_mul_of_nonneg_left hfar (Nat.cast_nonneg m)
      have hlt : (m : ℚ) < 51 := by linarith
      have hnat : m < 51 := by exact_mod_cast hlt
      omega
  · rintro (hsame | ⟨m, hm, hlow, hhigh⟩)
    · rcases premium_or_apart productType tariffZone with ⟨-, hall⟩ | hfar
      · rw [hall]
      · rw [hsame, sub_self, abs_zero] at hfar
        norm_num at hfar
    · have hmax : 561 / 20000 ≤ max (quotedRate "MOTOR_COMPREHENSIVE" "ZONE_3") (quotedRate productType tariffZone) := by
        rw [← hrate]
        exact le_max_left _ _
      have hsmall : |idv| < 1819 := by
        have hm' : (m : ℚ) ≤ 50 := by exact_mod_cast hm
        have hle := mul_le_mul_of_nonneg_left hmax (abs_nonneg (idv : ℚ))
        have hlt : |(idv : ℚ)| < 1819 := by linarith
        exact_mod_cast hlt
      rw [trunc_premiumShare hsmall, trunc_premiumShare hsmall, hexact]
      exact ⟨m, hlow, hhigh⟩

/-! ### What the messages say -/

/-- The first commitment of a contract. -/
def commitmentOf (payload : Fields) : Fields := ((contractOf payload).get "commitments").first

/-- The premium that an `on_select` quotes. -/
def annualPremiumOf (payload : Fields) : Option ℚ :=
  ((((commitmentOf payload).get "offer").fields.get "offerAttributes").fields.get "annualPremiumIDR").num?

/-- The amount that an `on_init` or an `on_confirm` names. -/
def totalAmountOf (payload : Fields) : Option ℚ :=
  (((commitmentOf payload).get "considerationAttributes").fields.get "totalAmountIDR").num?

@[simp] theorem annualPremiumOf_onSelect (context : Fields) (txnID : String) (input : SelectInput) (b : PremiumBreakup)
    (quoteValidUntil : Time) :
    annualPremiumOf (onSelect context txnID input b quoteValidUntil) = some (b.totalIDR : ℚ) := rfl

@[simp] theorem totalAmountOf_onInit (context : Fields) (txnID : String) (b : PremiumBreakup) :
    totalAmountOf (onInit context txnID b) = some (b.totalIDR : ℚ) := rfl

@[simp] theorem totalAmountOf_onConfirm (context : Fields) (txnID : String) (issued : Issued) (payment : PaymentProof)
    (b : PremiumBreakup) : totalAmountOf (onConfirm context txnID issued payment b) = some (b.totalIDR : ℚ) := rfl

/-- The premium that `HandleSelect` quotes for the message. -/
def quotedTotal (req : Fields) : Int :=
  trunc (premiumShare binary64 (selectInput req).productType (selectInput req).zone (selectInput req).idvIDR) +
    adminFeeIDR + stampDutyIDR

/-- The amount that `HandleInit` asks for an insured value. -/
def askedTotal (idv : Int) : Int :=
  trunc (premiumShare binary64 "MOTOR_COMPREHENSIVE" "ZONE_3" idv) + adminFeeIDR + stampDutyIDR

/-- The breakups of `HandleInit` and `HandleConfirm` have that total; their defaults are not used. -/
theorem comprehensive_total {idv : Int} (h : InInt64 idv) (b : PremiumBreakup) :
    ((comprehensiveZone3 idv).toOption.getD b).totalIDR = askedTotal idv := by
  have hquoted := quoted_total h "MOTOR_COMPREHENSIVE" "ZONE_3" 0
  unfold askedTotal
  rw [← hquoted]
  rfl

open Interleave

theorem respond_asks {A : Op → Prop} (hnow : A .now) {s : BecknService} {req : Fields} {action : String}
    {response : Fields → Fields}
    (hpost : ∀ t₁ t₂, A (.post .onixBPPCaller action (response (responseContext s (contextOf req) action t₁ t₂)))) :
    (respond s req action response).Asks A := by
  refine ⟨hnow, fun t₁ => ⟨hnow, fun t₂ => ⟨hpost t₁ t₂, fun reply => ?_⟩⟩⟩
  change Reply at reply
  cases reply <;> trivial

private theorem inInt64_default {v : Option ℚ} {default : Int} (h : InInt64 default) :
    InInt64 ((v.map int64).getD default) := by
  cases v with
  | none => exact h
  | some q => exact inInt64_int64 q

theorem inInt64_selectInput (req : Fields) : InInt64 (selectInput req).idvIDR :=
  inInt64_default ⟨by decide, by decide⟩

theorem inInt64_initInput (req : Fields) : InInt64 (initInput req).idvIDR := inInt64_default ⟨by decide, by decide⟩

/-- Every `on_select` quotes the rate of what was selected. -/
theorem handleSelect_asks (s : BecknService) (req : Fields) :
    (handler s (.select req)).Asks fun o =>
      ∀ payload, o = .post .onixBPPCaller "on_select" payload → annualPremiumOf payload = some (quotedTotal req : ℚ) := by
  refine ⟨by rintro _ ⟨⟩, fun now => respond_asks (by rintro _ ⟨⟩) ?_⟩
  rintro t₁ t₂ _ ⟨⟩
  have htotal := quoted_total (inInt64_selectInput req) (selectInput req).productType (selectInput req).zone 3
  exact congrArg (fun total : Int => some (total : ℚ)) htotal

/-- Every `on_init` asks for the comprehensive tariff of zone 3. -/
theorem handleInit_asks (s : BecknService) (req : Fields) :
    (handler s (.init req)).Asks fun o =>
      ∀ payload, o = .post .onixBPPCaller "on_init" payload →
        totalAmountOf payload = some (askedTotal (initInput req).idvIDR : ℚ) := by
  change (handleInit s req).Asks _
  unfold handleInit
  dsimp only
  split
  · trivial
  · refine ⟨by rintro _ ⟨⟩, fun created => ?_⟩
    change Except String Int at created
    cases created with
    | error err => trivial
    | ok id' =>
      refine respond_asks (by rintro _ ⟨⟩) ?_
      rintro t₁ t₂ _ ⟨⟩
      rw [totalAmountOf_onInit, comprehensive_total (inInt64_initInput req)]

end Bpp

end IonInsurance
