import IonInsurance.Bpp.Quote

/-!
# Rates and premiums

An `on_select` names its premium twice, in the offer and in the consideration, and next to it the rate that it was
computed from.  The rate of the fallback is given as three percent, but the premium is a thirtieth of the insured
value, also in exact numbers.  No handler looks at the sign of the insured value, so a negative one can take the premium
below the fees.
-/

namespace IonInsurance.Bpp

open Arith Interleave

/-! ### What a handler responds -/

/-- Every `action` that the program posts to the network says `P`. -/
def Responds {β : Type} (p : Task β) (action : String) (P : Fields → Prop) : Prop :=
  p.Asks fun o => ∀ payload, o = .post .onixBPPCaller action payload → P payload

theorem respond_responds_iff (s : BecknService) (req : Fields) (action : String) (response : Fields → Fields)
    (P : Fields → Prop) :
    Responds (respond s req action response) action P ↔
      ∀ t₁ t₂, P (response (responseContext s (contextOf req) action t₁ t₂)) := by
  constructor
  · intro h t₁ t₂
    obtain ⟨-, h₁⟩ := h
    obtain ⟨-, h₂⟩ := h₁ t₁
    exact (h₂ t₂).1 _ rfl
  · intro h
    refine respond_asks (by rintro _ ⟨⟩) ?_
    rintro t₁ t₂ _ ⟨⟩
    exact h t₁ t₂

/-- The breakup that `HandleSelect` quotes, each number rounded by `fl`. -/
def selectBreakupWith (fl : ℚ → ℚ) (req : Fields) : PremiumBreakup :=
  let input := selectInput req
  (calcPremiumWith fl input.productType input.zone input.idvIDR).toOption.getD (fallbackPremium input.idvIDR 3)

def selectBreakup (req : Fields) : PremiumBreakup := selectBreakupWith binary64 req

/-- The breakup that `HandleInit` asks for. -/
def initBreakup (req : Fields) : PremiumBreakup :=
  (comprehensiveZone3 (initInput req).idvIDR).toOption.getD (fallbackPremium (initInput req).idvIDR 0)

/-- `HandleSelect` responds to every message. -/
theorem handleSelect_responds_iff (fl : ℚ → ℚ) (s : BecknService) (req : Fields) (P : Fields → Prop) :
    Responds (handleSelectWith fl s req) "on_select" P ↔
      ∀ now t₁ t₂, P (onSelect (responseContext s (contextOf req) "on_select" t₁ t₂) (transactionID req)
        (selectInput req) (selectBreakupWith fl req) (Time.addDays now 2)) := by
  constructor
  · intro h now
    exact (respond_responds_iff ..).1 (h.2 now)
  · intro h
    exact ⟨by rintro _ ⟨⟩, fun now => (respond_responds_iff ..).2 (h now)⟩

/-- The NIK is one that `HandleInit` accepts. -/
def NIKAccepted (req : Fields) : Prop := (initInput req).nik = "" ∨ nikRegex (initInput req).nik = true

/-- `HandleInit` responds if it accepts the NIK and the row is stored. -/
theorem handleInit_responds_iff (s : BecknService) (req : Fields) (P : Fields → Prop) :
    Responds (handler s (.init req)) "on_init" P ↔
      (NIKAccepted req → ∀ t₁ t₂, P (onInit (responseContext s (contextOf req) "on_init" t₁ t₂) (transactionID req)
        (initBreakup req))) := by
  change Responds (handleInit s req) "on_init" P ↔ _
  unfold handleInit NIKAccepted
  dsimp only
  split
  · rename_i hrejected
    obtain ⟨hne, hbad⟩ := hrejected
    constructor
    · intro _ haccepted
      rcases haccepted with hempty | hgood
      · exact absurd hempty hne
      · exact absurd hgood hbad
    · intro _
      trivial
  · rename_i hnot
    have haccepted : (initInput req).nik = "" ∨ nikRegex (initInput req).nik = true := by
      by_cases hempty : (initInput req).nik = ""
      · exact .inl hempty
      · exact .inr (by_contra fun hbad => hnot ⟨hempty, hbad⟩)
    constructor
    · intro h _
      exact (respond_responds_iff ..).1 (h.2 (.ok 0))
    · intro h
      refine ⟨by rintro _ ⟨⟩, fun created => ?_⟩
      change Except String Int at created
      cases created with
      | error err => trivial
      | ok id' => exact (respond_responds_iff ..).2 (h haccepted)

/-- The breakup of exact numbers. -/
theorem selectBreakup_exact (req : Fields) :
    let base := trunc ((selectInput req).idvIDR * quotedRate (selectInput req).productType (selectInput req).zone)
    selectBreakupWith id req = {
      basePremiumIDR := base
      adminFeeIDR := adminFeeIDR
      stampDutyIDR := stampDutyIDR
      totalIDR := base + adminFeeIDR + stampDutyIDR
      rateUsed := namedRate id (selectInput req).productType (selectInput req).zone 3 } := by
  unfold selectBreakupWith
  dsimp only
  rw [quoted_breakup id (inInt64_selectInput req), int64_premiumShare_id (inInt64_selectInput req)]

theorem selectBreakup_eq (req : Fields) :
    selectBreakup req = {
      basePremiumIDR :=
        trunc (premiumShare binary64 (selectInput req).productType (selectInput req).zone (selectInput req).idvIDR)
      adminFeeIDR := adminFeeIDR
      stampDutyIDR := stampDutyIDR
      totalIDR := quotedTotal req
      rateUsed := namedRate binary64 (selectInput req).productType (selectInput req).zone 3 } := by
  unfold selectBreakup selectBreakupWith quotedTotal
  dsimp only
  rw [quoted_breakup binary64 (inInt64_selectInput req), int64_premiumShare (inInt64_selectInput req)]

theorem initBreakup_eq (req : Fields) :
    initBreakup req = {
      basePremiumIDR := trunc (premiumShare binary64 "MOTOR_COMPREHENSIVE" "ZONE_3" (initInput req).idvIDR)
      adminFeeIDR := adminFeeIDR
      stampDutyIDR := stampDutyIDR
      totalIDR := askedTotal (initInput req).idvIDR
      rateUsed := namedRate binary64 "MOTOR_COMPREHENSIVE" "ZONE_3" 0 } := by
  unfold initBreakup comprehensiveZone3 calcPremium askedTotal
  rw [quoted_breakup binary64 (inInt64_initInput req), int64_premiumShare (inInt64_initInput req)]

/-! ### What a response says of the premium -/

def offerAttributesOf (payload : Fields) : Fields :=
  (((commitmentOf payload).get "offer").fields.get "offerAttributes").fields

def considerationOf (payload : Fields) : Fields := ((commitmentOf payload).get "considerationAttributes").fields

/-- The amounts of a breakup: the base premium, the admin fee and the stamp duty. -/
def breakupAmounts (attrs : Fields) : List (Option ℚ) :=
  (attrs.get "breakup").items.map fun part => (part.fields.get "amountIDR").num?

/-! ### The rate of a quote -/

/-- The insured value that a select names; without one, 100 million rupiah are quoted for. -/
def selectedIDV (req : Fields) : ℚ := ((commitmentAttributes req).get "idv").num?.getD 100000000

theorem idvIDR_selectInput (req : Fields) : (selectInput req).idvIDR = int64 (selectedIDV req) := by
  have hdefault : int64 100000000 = 100000000 := by decide +kernel
  change (((commitmentAttributes req).get "idv").num?.map int64).getD 100000000 = _
  unfold selectedIDV
  cases ((commitmentAttributes req).get "idv").num? with
  | none => exact hdefault.symm
  | some q => rfl

/-- The base premium is what the named rate gives for the insured value, rounded down, and both totals are the sum of
their parts. -/
def MatchesRate (idv : ℚ) (payload : Fields) : Prop :=
  ∃ base adminFee stampDuty rate : ℚ,
    ((offerAttributesOf payload).get "rateUsedPct").num? = some rate ∧
    base = ⌊idv * rate / 100⌋ ∧
    breakupAmounts (offerAttributesOf payload) = [some base, some adminFee, some stampDuty] ∧
    breakupAmounts (considerationOf payload) = [some base, some adminFee, some stampDuty] ∧
    annualPremiumOf payload = some (base + adminFee + stampDuty) ∧
    totalAmountOf payload = some (base + adminFee + stampDuty)

/-- At a tariff: the fraction of a rupiah that is cut off the insured value does not take the premium to its next whole
rupiah.  Without one: three hundredths of the insured value reach the whole part of its thirtieth. -/
def RateApplies (productType tariffZone : String) (idv : ℚ) : Prop :=
  idv < 2 ^ 63 ∧
    match (ojkRates.lookup productType).bind (·.lookup tariffZone) with
    | some rates => (⌊idv * rates.share⌋ : ℚ) ≤ ⌊idv⌋ * rates.share
    | none => 10 * (⌊idv / 30⌋ : ℚ) ≤ 3 * (idv - 30 * ⌊idv / 30⌋)

theorem matchesRate_onSelect_iff (idv : ℚ) (context : Fields) (txnID : String) (input : SelectInput) (b : PremiumBreakup)
    (htotal : b.totalIDR = b.basePremiumIDR + b.adminFeeIDR + b.stampDutyIDR) (quoteValidUntil : Time) :
    MatchesRate idv (onSelect context txnID input b quoteValidUntil) ↔ b.basePremiumIDR = ⌊idv * b.rateUsed / 100⌋ := by
  have hsum : (b.totalIDR : ℚ) = b.basePremiumIDR + b.adminFeeIDR + b.stampDutyIDR := by exact_mod_cast htotal
  constructor
  · rintro ⟨base, adminFee, stampDuty, rate, hrate, hbase, hparts, -⟩
    obtain rfl : b.rateUsed = rate := Option.some.inj hrate
    have hhead : some (b.basePremiumIDR : ℚ) = some base := (List.cons.inj hparts).1
    rw [← Option.some.inj hhead] at hbase
    exact_mod_cast hbase
  · intro h
    refine ⟨b.basePremiumIDR, b.adminFeeIDR, b.stampDutyIDR, b.rateUsed, rfl, ?_, rfl, rfl, ?_, ?_⟩
    · exact_mod_cast h
    · rw [annualPremiumOf_onSelect, hsum]
    · rw [← hsum]
      rfl

/-- An insured value that does not fit into 64 bits is quoted below zero. -/
private theorem trunc_overflow_neg {rate : ℚ} (h : 1 / 1000 ≤ rate) : trunc (((-2 ^ 63 : Int) : ℚ) * rate) < 0 := by
  by_contra hge
  have hlt := (trunc_nonneg_iff _).1 (not_lt.1 hge)
  push_cast at hlt
  linarith

theorem int64_of_nonneg {x : ℚ} (h : 0 ≤ x) : int64 x = if x < 2 ^ 63 then ⌊x⌋ else -2 ^ 63 := by
  have htrunc : trunc x = ⌊x⌋ := by rw [trunc_of_nonneg h, Int.natCast_floor_eq_floor h]
  have hfloor : 0 ≤ ⌊x⌋ := Int.floor_nonneg.2 h
  have hlt : ⌊x⌋ < 2 ^ 63 ↔ x < 2 ^ 63 := by
    rw [Int.floor_lt]
    norm_num
  change (if -2 ^ 63 ≤ trunc x ∧ trunc x < 2 ^ 63 then trunc x else -2 ^ 63) = _
  rw [htrunc]
  by_cases hx : x < 2 ^ 63
  · rw [if_pos hx, if_pos ⟨by omega, hlt.2 hx⟩]
  · rw [if_neg hx, if_neg fun hin => hx (hlt.1 hin.2)]

private theorem namedRate_nonneg (productType tariffZone : String) : 0 ≤ namedRate id productType tariffZone 3 := by
  have hge := quotedRate_ge productType tariffZone
  cases htariff : (ojkRates.lookup productType).bind (·.lookup tariffZone) with
  | none =>
    simp only [namedRate, htariff]
    norm_num
  | some rates =>
    simp only [quotedRate, namedRate, htariff, Rates.share, Rates.midRate, id_eq] at hge ⊢
    linarith

/-- The base premium that is quoted for an insured value of 64 bits is a share of its whole part. -/
theorem base_of_lt (productType tariffZone : String) {x : ℚ} (h : 0 ≤ x) (hx : x < 2 ^ 63) :
    trunc (int64 x * quotedRate productType tariffZone) = ⌊(⌊x⌋ : ℚ) * quotedRate productType tariffZone⌋ := by
  have hge := quotedRate_ge productType tariffZone
  have hwhole : (0 : ℚ) ≤ ⌊x⌋ := by exact_mod_cast Int.floor_nonneg.2 h
  have hnonneg : 0 ≤ (⌊x⌋ : ℚ) * quotedRate productType tariffZone := mul_nonneg hwhole (by linarith)
  rw [int64_of_nonneg h, if_pos hx, trunc_of_nonneg hnonneg, Int.natCast_floor_eq_floor hnonneg]

/-- The base premium that is quoted for a larger one is negative. -/
theorem base_of_ge (productType tariffZone : String) {x : ℚ} (hx : 2 ^ 63 ≤ x) :
    trunc (int64 x * quotedRate productType tariffZone) < 0 := by
  have hnonneg : 0 ≤ x := by linarith
  rw [int64_of_nonneg hnonneg, if_neg (not_lt.2 hx)]
  exact trunc_overflow_neg (quotedRate_ge productType tariffZone)

/-- The base premium that is quoted for an insured value is what the named rate gives for it. -/
theorem base_eq_iff (productType tariffZone : String) {x : ℚ} (h : 0 ≤ x) :
    trunc (int64 x * quotedRate productType tariffZone) = ⌊x * namedRate id productType tariffZone 3 / 100⌋ ↔
      RateApplies productType tariffZone x := by
  have hge := quotedRate_ge productType tariffZone
  have hnamed := namedRate_nonneg productType tariffZone
  unfold RateApplies
  by_cases hx : x < 2 ^ 63
  · have hle : (⌊x⌋ : ℚ) ≤ x := Int.floor_le x
    rw [base_of_lt productType tariffZone h hx]
    cases htariff : (ojkRates.lookup productType).bind (·.lookup tariffZone) with
    | some rates =>
      have hrate : quotedRate productType tariffZone = rates.share := by simp only [quotedRate, htariff]
      have hvalue : x * namedRate id productType tariffZone 3 / 100 = x * rates.share := by
        simp only [namedRate, htariff, Rates.share, Rates.midRate, id_eq]
        ring
      rw [hrate] at hge ⊢
      rw [hvalue, floor_eq_floor_iff (mul_le_mul_of_nonneg_right hle (by linarith))]
      simp only [hx, true_and]
    | none =>
      have hrate : quotedRate productType tariffZone = 1 / 30 := by simp only [quotedRate, htariff]
      have hvalue : x * namedRate id productType tariffZone 3 / 100 = 3 * x / 100 := by
        simp only [namedRate, htariff]
        ring
      have hthirtieth : ⌊(⌊x⌋ : ℚ) * (1 / 30)⌋ = ⌊x / 30⌋ := by
        rw [mul_one_div]
        have hcut := Int.floor_div_natCast (⌊x⌋ : ℚ) 30
        rw [Int.floor_intCast, ← Int.floor_div_natCast x 30] at hcut
        exact hcut
      have hreach := floor_eq_floor_iff (show 3 * x / 100 ≤ x / 30 by linarith)
      rw [hrate, hvalue, hthirtieth, eq_comm, hreach]
      simp only [hx, true_and]
      constructor
      · intro hle
        linarith
      · intro hle
        linarith
  · have hnegative := base_of_ge productType tariffZone (not_lt.1 hx)
    have hfloor : 0 ≤ ⌊x * namedRate id productType tariffZone 3 / 100⌋ := Int.floor_nonneg.2 (by positivity)
    constructor
    · intro heq
      omega
    · intro hholds
      exact absurd hholds.1 hx

/-- In exact numbers, the premium of every quote is what the rate of the quote gives, exactly if the rate applies to the
insured value. -/
theorem quote_matches_rate_iff (s : BecknService) (req : Fields) (h : 0 ≤ selectedIDV req) :
    Responds (handleSelectWith id s req) "on_select" (MatchesRate (selectedIDV req)) ↔
      RateApplies (selectInput req).productType (selectInput req).zone (selectedIDV req) := by
  have hmatches : ∀ now t₁ t₂, MatchesRate (selectedIDV req)
      (onSelect (responseContext s (contextOf req) "on_select" t₁ t₂) (transactionID req) (selectInput req)
        (selectBreakupWith id req) (Time.addDays now 2)) ↔
        RateApplies (selectInput req).productType (selectInput req).zone (selectedIDV req) := by
    intro now t₁ t₂
    rw [← base_eq_iff _ _ h, ← idvIDR_selectInput, selectBreakup_exact]
    exact matchesRate_onSelect_iff _ _ _ _ _ rfl _
  rw [handleSelect_responds_iff]
  constructor
  · intro hall
    exact (hmatches Time.zero Time.zero Time.zero).1 (hall _ _ _)
  · intro hrate now t₁ t₂
    exact (hmatches now t₁ t₂).2 hrate

/-- A select of a product in a zone, for an insured value. -/
def selectMessage (productType tariffZone : String) (idv : ℚ) : Fields :=
  [("context", .obj [("transaction_id", .str "txn-0001")]),
   ("message", .obj [("contract", .obj [("commitments", .arr [.obj [("commitmentAttributes", .obj
     [("productType", .str productType), ("tariffZone", .str tariffZone), ("idv", .num idv)])]])])])]

theorem quote_matches_rate_iff_zone2 :
    Responds (handleSelectWith id {} (selectMessage "MOTOR_FIRE_THEFT" "ZONE_2" 75000000)) "on_select"
        (MatchesRate 75000000) ↔
      RateApplies "MOTOR_FIRE_THEFT" "ZONE_2" 75000000 := by
  have hidv : selectedIDV (selectMessage "MOTOR_FIRE_THEFT" "ZONE_2" 75000000) = 75000000 := rfl
  have h := quote_matches_rate_iff {} (selectMessage "MOTOR_FIRE_THEFT" "ZONE_2" 75000000) (by rw [hidv]; norm_num)
  rw [hidv] at h
  exact h

/-- A travel policy for 30 million rupiah is quoted at one million, which is not three percent. -/
theorem unknown_product_off_rate :
    ¬∀ (s : BecknService) (req : Fields), 0 ≤ selectedIDV req →
      Responds (handleSelectWith id s req) "on_select" (MatchesRate (selectedIDV req)) := by
  intro hall
  have hidv : selectedIDV (selectMessage "TRAVEL" "ZONE_3" 30000000) = 30000000 := rfl
  have h := hall {} (selectMessage "TRAVEL" "ZONE_3" 30000000) (by rw [hidv]; norm_num)
  rw [hidv, handleSelect_responds_iff] at h
  obtain ⟨base, adminFee, stampDuty, rate, hrate, hbase, hparts, -⟩ := h Time.zero Time.zero Time.zero
  obtain rfl : (3 : ℚ) = rate := Option.some.inj hrate
  have hhead : some (((1000000 : Int) : ℚ)) = some base := (List.cons.inj hparts).1
  rw [← Option.some.inj hhead] at hbase
  revert hbase
  decide +kernel

/-! ### Premiums below the fees -/

/-- The base premium of a breakup is not negative, and the total that goes with it is at least the fees. -/
def CoversFees (attrs : Fields) (total : Option ℚ) : Prop :=
  ∃ base adminFee stampDuty amount : ℚ,
    breakupAmounts attrs = [some base, some adminFee, some stampDuty] ∧ total = some amount ∧ 0 ≤ base ∧
    (adminFeeIDR + stampDutyIDR : ℚ) ≤ amount

/-- Both premiums of an `on_select` cover the fees. -/
def QuoteCoversFees (payload : Fields) : Prop :=
  CoversFees (offerAttributesOf payload) (annualPremiumOf payload) ∧
    CoversFees (considerationOf payload) (totalAmountOf payload)

/-- The amount that an `on_init` asks covers the fees. -/
def InitCoversFees (payload : Fields) : Prop := CoversFees (considerationOf payload) (totalAmountOf payload)

theorem coversFees_iff {attrs : Fields} {total : Option ℚ} {b : PremiumBreakup}
    (hparts : breakupAmounts attrs = [some (b.basePremiumIDR : ℚ), some (b.adminFeeIDR : ℚ), some (b.stampDutyIDR : ℚ)])
    (hamount : total = some (b.totalIDR : ℚ)) (htotal : b.totalIDR = b.basePremiumIDR + adminFeeIDR + stampDutyIDR) :
    CoversFees attrs total ↔ 0 ≤ b.basePremiumIDR := by
  constructor
  · rintro ⟨base, adminFee, stampDuty, amount, hparts', -, hbase, -⟩
    rw [hparts] at hparts'
    have hhead := Option.some.inj (List.cons.inj hparts').1
    rw [← hhead] at hbase
    exact_mod_cast hbase
  · intro h
    refine ⟨_, _, _, _, hparts, hamount, by exact_mod_cast h, ?_⟩
    have hle : adminFeeIDR + stampDutyIDR ≤ b.totalIDR := by omega
    exact_mod_cast hle

theorem quoteCoversFees_onSelect_iff (context : Fields) (txnID : String) (input : SelectInput) {b : PremiumBreakup}
    (htotal : b.totalIDR = b.basePremiumIDR + adminFeeIDR + stampDutyIDR) (quoteValidUntil : Time) :
    QuoteCoversFees (onSelect context txnID input b quoteValidUntil) ↔ 0 ≤ b.basePremiumIDR := by
  let payload := onSelect context txnID input b quoteValidUntil
  have hoffer : CoversFees (offerAttributesOf payload) (annualPremiumOf payload) ↔ 0 ≤ b.basePremiumIDR :=
    coversFees_iff rfl rfl htotal
  have hconsideration : CoversFees (considerationOf payload) (totalAmountOf payload) ↔ 0 ≤ b.basePremiumIDR :=
    coversFees_iff rfl rfl htotal
  show CoversFees (offerAttributesOf payload) (annualPremiumOf payload) ∧ _ ↔ _
  rw [hoffer, hconsideration, and_self]

/-- The premiums of a select and of an init cover the fees exactly if the whole rupiah of the insured value, taken at
the rate, do not come to a negative rupiah. -/
theorem fees_covered_iff (s : BecknService) (req : Fields) :
    (Responds (handler s (.select req)) "on_select" QuoteCoversFees ↔
        -1 < (selectInput req).idvIDR * quotedRate (selectInput req).productType (selectInput req).zone) ∧
      (Responds (handler s (.init req)) "on_init" InitCoversFees ↔
        (NIKAccepted req → -1 < (initInput req).idvIDR * quotedRate "MOTOR_COMPREHENSIVE" "ZONE_3")) := by
  constructor
  · have hquote : ∀ now t₁ t₂, QuoteCoversFees
        (onSelect (responseContext s (contextOf req) "on_select" t₁ t₂) (transactionID req) (selectInput req)
          (selectBreakup req) (Time.addDays now 2)) ↔
        -1 < (selectInput req).idvIDR * quotedRate (selectInput req).productType (selectInput req).zone := by
      intro now t₁ t₂
      rw [selectBreakup_eq, ← premium_nonneg_iff]
      exact quoteCoversFees_onSelect_iff _ _ _ rfl _
    have hresponds := handleSelect_responds_iff binary64 s req QuoteCoversFees
    refine Iff.trans hresponds ?_
    constructor
    · intro hall
      exact (hquote Time.zero Time.zero Time.zero).1 (hall _ _ _)
    · intro hshare now t₁ t₂
      exact (hquote now t₁ t₂).2 hshare
  · have hasked : ∀ t₁ t₂, InitCoversFees
        (onInit (responseContext s (contextOf req) "on_init" t₁ t₂) (transactionID req) (initBreakup req)) ↔
        -1 < (initInput req).idvIDR * quotedRate "MOTOR_COMPREHENSIVE" "ZONE_3" := by
      intro t₁ t₂
      rw [initBreakup_eq, ← premium_nonneg_iff]
      exact coversFees_iff rfl rfl rfl
    rw [handleInit_responds_iff]
    constructor
    · intro hall haccepted
      exact (hasked Time.zero Time.zero).1 (hall haccepted _ _)
    · intro hshare haccepted t₁ t₂
      exact (hasked t₁ t₂).2 (hshare haccepted)

/-- A vehicle insured for minus one million rupiah is quoted a base premium of minus 28049. -/
theorem negative_idv_below_fees :
    ¬∀ (s : BecknService) (req : Fields), |selectedIDV req| ≤ 2 ^ 53 →
      Responds (handler s (.select req)) "on_select" QuoteCoversFees := by
  intro hall
  have hidv : selectedIDV (selectMessage "MOTOR_COMPREHENSIVE" "ZONE_3" (-1000000)) = -1000000 := rfl
  have h := hall {} (selectMessage "MOTOR_COMPREHENSIVE" "ZONE_3" (-1000000)) (by rw [hidv]; norm_num)
  have h := (handleSelect_responds_iff binary64 _ _ _).1 h
  obtain ⟨⟨base, adminFee, stampDuty, amount, hparts, -, hbase, -⟩, -⟩ := h Time.zero Time.zero Time.zero
  have hhead := Option.some.inj (List.cons.inj hparts).1
  rw [← hhead] at hbase
  revert hbase
  decide +kernel

end IonInsurance.Bpp
