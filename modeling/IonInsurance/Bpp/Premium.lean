import IonInsurance.Arith.Binary64
import IonInsurance.Go

/-!
# The tariff

The OJK tariff rates and `CalcPremium`.  The rates are the decimal fractions of the source, which computes with them on
`float64`: every constant, operand and result is rounded.  The rounding is a parameter of the formula, so that it can also
be read in exact numbers.
-/

namespace IonInsurance.Bpp

open Arith

/-- Annual rates in percent of the insured value. -/
structure Rates where
  min : ℚ
  max : ℚ

/-- OJK tariff rates per SE-06/2013. -/
def ojkRates : List (String × List (String × Rates)) :=
  [("MOTOR_COMPREHENSIVE",
    [("ZONE_1", ⟨180 / 100, 265 / 100⟩),
     ("ZONE_2", ⟨382 / 100, 420 / 100⟩),
     ("ZONE_3", ⟨253 / 100, 308 / 100⟩),
     ("ZONE_4", ⟨253 / 100, 308 / 100⟩),
     ("ZONE_5", ⟨253 / 100, 308 / 100⟩)]),
   ("MOTOR_THIRD_PARTY",
    [("ZONE_1", ⟨47 / 100, 56 / 100⟩),
     ("ZONE_2", ⟨47 / 100, 56 / 100⟩),
     ("ZONE_3", ⟨47 / 100, 56 / 100⟩),
     ("ZONE_4", ⟨47 / 100, 56 / 100⟩),
     ("ZONE_5", ⟨47 / 100, 56 / 100⟩)]),
   ("MOTOR_FIRE_THEFT",
    [("ZONE_1", ⟨140 / 100, 210 / 100⟩),
     ("ZONE_2", ⟨250 / 100, 300 / 100⟩),
     ("ZONE_3", ⟨180 / 100, 250 / 100⟩),
     ("ZONE_4", ⟨180 / 100, 250 / 100⟩),
     ("ZONE_5", ⟨180 / 100, 250 / 100⟩)])]

def adminFeeIDR : Int := 150000

def stampDutyIDR : Int := 10000

structure PremiumBreakup where
  basePremiumIDR : Int := 0
  adminFeeIDR : Int := 0
  stampDutyIDR : Int := 0
  totalIDR : Int := 0
  rateUsed : ℚ := 0

/-- The midpoint of the rates, each number rounded by `fl`. -/
def Rates.midRate (fl : ℚ → ℚ) (rates : Rates) : ℚ := fl (fl (fl rates.min + fl rates.max) / 2)

/-- The premium at the midpoint rate, or an error for an unknown product or zone; `fl` rounds each number. -/
def calcPremiumWith (fl : ℚ → ℚ) (productType tariffZone : String) (idvIDR : Int) : Except String PremiumBreakup :=
  match ojkRates.lookup productType with
  | none => .error ("unknown product type: " ++ productType)
  | some zoneMap =>
    match zoneMap.lookup tariffZone with
    | none => .error ("unknown tariff zone: " ++ tariffZone)
    | some rates =>
      let midRate := rates.midRate fl
      let basePremium := int64 (fl (fl (fl idvIDR * midRate) / 100))
      .ok {
        basePremiumIDR := basePremium
        adminFeeIDR := adminFeeIDR
        stampDutyIDR := stampDutyIDR
        totalIDR := basePremium + adminFeeIDR + stampDutyIDR
        rateUsed := midRate }

/-- `CalcPremium`, on `float64`. -/
def calcPremium : String → String → Int → Except String PremiumBreakup := calcPremiumWith binary64

/-- The breakup quoted when `CalcPremium` fails; only `HandleSelect` names a rate for it. -/
def fallbackPremium (idvIDR : Int) (rateUsed : ℚ) : PremiumBreakup where
  basePremiumIDR := idvIDR.tdiv 30
  adminFeeIDR := adminFeeIDR
  stampDutyIDR := stampDutyIDR
  totalIDR := idvIDR.tdiv 30 + adminFeeIDR + stampDutyIDR
  rateUsed := rateUsed

/-- The tariff of the only product that `HandleInit`, `HandleConfirm`, `HandleReconcile` and `SimulatePayment` price. -/
def comprehensiveZone3 (idvIDR : Int) : Except String PremiumBreakup :=
  calcPremium "MOTOR_COMPREHENSIVE" "ZONE_3" idvIDR

-- 2.805 percent of 150 million are 4207500, but the midpoint of 2.53 and 3.08 is a little less than that on `float64`
example : (comprehensiveZone3 150000000).toOption.map (·.basePremiumIDR) = some 4207499 := by decide +kernel

end IonInsurance.Bpp
