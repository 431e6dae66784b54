import IonInsurance.Arith.Rounding
import IonInsurance.Bpp.Rates

/-!
# The settlement as the buyer sees it

`PaymentStep` shows how the premium will be divided, and the history page does so again for a paid order.  Each share
is rounded on its own; the `Total` of `PaymentStep` adds the rounded shares up.
-/

namespace IonInsurance.Pages

/-- `Math.round(q)`. -/
def mathRound (q : ℚ) : ℤ := Arith.roundHalfUp q

/-- `v ?? d`, where `v` is a number or missing. -/
def orDefault (v : Json) (d : ℚ) : ℚ := v.num?.getD d

/-- A party of the settlement and its share in percent. -/
structure Split where
  label : String
  pct : ℚ

/-- The amount shown beside a share. -/
def Split.amount (totalPremium : ℚ) (r : Split) : ℤ := mathRound (totalPremium * r.pct / 100)

/-- The terms where the message has none. -/
def defaultTerms : Fields := [("sellerPct", .int 97), ("buyerAppPct", .int 2), ("ionFeePct", .int 1)]

def splits (settlementTerms : Fields) : List Split :=
  [⟨"BPP (Insurer)", orDefault (settlementTerms.get "sellerPct") 97⟩,
   ⟨"BAP (Buyer App)", orDefault (settlementTerms.get "buyerAppPct") 2⟩,
   ⟨"ION (Network Fee)", orDefault (settlementTerms.get "ionFeePct") 1⟩]

/-- `splits.reduce(…)`. -/
def total (totalPremium : ℚ) (splits : List Split) : ℤ :=
  splits.foldl (fun s r => s + r.amount totalPremium) 0

/-- What `PaymentStep` shows of the settlement. -/
structure Breakdown where
  totalPremium : ℚ
  amounts : List ℤ
  total : ℤ

def settlementBreakdown (totalPremium : ℚ) (settlementTerms : Fields) : Breakdown where
  totalPremium := totalPremium
  amounts := (splits settlementTerms).map (Split.amount totalPremium)
  total := total totalPremium (splits settlementTerms)

def paymentStep (initData : Fields) (annualPremium : ℚ) : Breakdown :=
  let considerationAttrs := Bpp.considerationOf initData
  let totalAmountIDR := orDefault (considerationAttrs.get "totalAmountIDR") 0
  let totalPremium := if totalAmountIDR ≠ 0 then totalAmountIDR else annualPremium
  let settlementTerms := (considerationAttrs.get "settlementTerms").fields?.getD defaultTerms
  settlementBreakdown totalPremium settlementTerms

/-- The settlement distribution of `OrderDetailPanel`; amounts are shown of what has been paid. -/
def orderDistribution (paymentAmount : ℚ) : List (String × ℚ × Option ℤ) :=
  [⟨"BPP (Insurer)", 97⟩, ⟨"BAP (Buyer App)", 2⟩, ⟨"ION (Network Fee)", 1⟩].map fun r : Split =>
    (r.label, r.pct, if 0 < paymentAmount then some (r.amount paymentAmount) else none)

/-- The page divides the amount that the BPP's `on_init` names by the terms that it sends along. -/
theorem paymentStep_onInit (context : Fields) (txnID : String) (b : Bpp.PremiumBreakup) (annualPremium : ℚ)
    (h : b.totalIDR ≠ 0) :
    paymentStep (Bpp.onInit context txnID b) annualPremium = settlementBreakdown b.totalIDR defaultTerms := by
  have hamount : (b.totalIDR : ℚ) ≠ 0 := by exact_mod_cast h
  change settlementBreakdown (if (b.totalIDR : ℚ) ≠ 0 then (b.totalIDR : ℚ) else annualPremium) defaultTerms = _
  rw [if_pos hamount]

/-- The shares of the three parties, of which `97`, `2` and `1` make the whole. -/
def percentages : List ℕ := [97, 2, 1]

private theorem amount_eq (N p : ℕ) (label : String) :
    Split.amount N ⟨label, p⟩ = (Arith.roundShare 100 N p : ℤ) := by
  have hround := Arith.roundHalfUp_div (d := 100) (by decide) N p
  push_cast at hround
  exact hround

theorem splits_defaultTerms : splits defaultTerms =
    [⟨"BPP (Insurer)", (97 : ℕ)⟩, ⟨"BAP (Buyer App)", (2 : ℕ)⟩, ⟨"ION (Network Fee)", (1 : ℕ)⟩] := rfl

/-- The `Total` is the sum of the amounts above it. -/
theorem total_eq_sum (totalPremium : ℚ) (settlementTerms : Fields) :
    (settlementBreakdown totalPremium settlementTerms).total =
      (settlementBreakdown totalPremium settlementTerms).amounts.sum := by
  unfold settlementBreakdown total splits
  simp only [List.foldl_cons, List.foldl_nil, List.map_cons, List.map_nil, List.sum_cons, List.sum_nil]
  omega

theorem amounts_sum (N : ℕ) :
    (settlementBreakdown N defaultTerms).amounts.sum = (Arith.sumShares 100 N percentages : ℤ) := by
  unfold settlementBreakdown
  rw [splits_defaultTerms]
  simp only [List.map_cons, List.map_nil, amount_eq]
  unfold Arith.sumShares percentages
  simp only [List.map_cons, List.map_nil, List.sum_cons, List.sum_nil]
  push_cast
  ring

/-- The last two digits of the premiums that the rounded shares add up to: from 17 to 24 a rupiah is lost, at 50 and
from 75 to 83 one is made. -/
def Conserved (N : ℕ) : Prop :=
  ¬ (17 ≤ N % 100 ∧ N % 100 ≤ 24) ∧ N % 100 ≠ 50 ∧ ¬ (75 ≤ N % 100 ∧ N % 100 ≤ 83)

private theorem sumShares_residue :
    ∀ r < 100, Arith.sumShares 100 r percentages = r ↔
      ¬ (17 ≤ r ∧ r ≤ 24) ∧ r ≠ 50 ∧ ¬ (75 ≤ r ∧ r ≤ 83) := by
  decide

theorem sumShares_percentages_iff (N : ℕ) : Arith.sumShares 100 N percentages = N ↔ Conserved N := by
  have hwhole : percentages.sum = 100 := rfl
  have hmod := Arith.sumShares_eq_iff_mod (by decide) hwhole N
  rw [hmod]
  exact sumShares_residue (N % 100) (Nat.mod_lt N (by decide))

/-- The three amounts add up to the premium, and the `Total` shown is the premium, for the premiums that end so. -/
theorem settlement_total_eq_premium_iff (N : ℕ) :
    ((settlementBreakdown N defaultTerms).amounts.sum = N ↔ Conserved N) ∧
      ((settlementBreakdown N defaultTerms).total = N ↔ Conserved N) := by
  have hsum : (settlementBreakdown N defaultTerms).amounts.sum = (N : ℤ) ↔ Conserved N := by
    rw [amounts_sum, ← sumShares_percentages_iff]
    exact Int.ofNat_inj
  refine ⟨hsum, ?_⟩
  rw [total_eq_sum]
  exact hsum

/-- A car insured for 100010000 rupiah costs 2965280 rupiah, which are shown to be divided into 2965281. -/
theorem settlement_total_ne_premium :
    let breakup := (Bpp.comprehensiveZone3 100010000).toOption.getD {}
    let shown := paymentStep (Bpp.onInit [] "t" breakup) 0
    shown.totalPremium = 2965280 ∧ shown.amounts = [2876322, 59306, 29653] ∧ shown.amounts.sum ≠ 2965280 ∧
      shown.total = 2965281 := by
  decide +kernel

/-- The history page shows the same amounts of a paid order. -/
theorem orderDistribution_amounts {N : ℕ} (h : 0 < N) :
    (orderDistribution N).map (fun e => e.2.2) = (settlementBreakdown N defaultTerms).amounts.map some := by
  have hpos : (0 : ℚ) < N := by exact_mod_cast h
  unfold orderDistribution settlementBreakdown
  simp only [List.map_cons, List.map_nil, if_pos hpos]
  rfl

end IonInsurance.Pages
