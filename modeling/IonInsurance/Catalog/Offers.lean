import IonInsurance.Arith.Shares
import IonInsurance.Bpp.Answers
import IonInsurance.Bpp.Rates
import IonInsurance.Catalog.Store

/-!
# Offers and quotes

Discovery shows a resource with the rates of its offers, which an insurer may choose.  A select is quoted at the tariff
of its product and zone, or at a thirtieth of the insured value, and nobody compares the two.
-/

namespace IonInsurance.Catalog

open Arith Interleave Relational

/-! ### What discovery shows -/

/-- The resources of an `on_discover`. -/
def discovered (payload : Fields) : List Json :=
  ((((payload.get "message").fields.get "catalogs").first).get "resources").items

/-- The payload shows the offer with its resource; an empty zone and a rate that is not positive are not shown. -/
def Advertises (payload : Fields) (r : Resource) (o : Offer) : Prop :=
  ∃ item ∈ discovered payload,
    ((item.fields.get "resourceAttributes").fields.get "productType" = .str r.productType) ∧
    (o.tariffZone ≠ "" → (item.fields.get "resourceAttributes").fields.get "tariffZone" = .str o.tariffZone) ∧
    (0 < o.premiumRateMin.value →
      (item.fields.get "resourceAttributes").fields.get "premiumRateMin" = .num o.premiumRateMin.value) ∧
    (0 < o.premiumRateMax.value →
      (item.fields.get "resourceAttributes").fields.get "premiumRateMax" = .num o.premiumRateMax.value)

/-- A stamp on another field, if it is made. -/
theorem get_stamp {k k' : String} (h : k' ≠ k) (c : Prop) [Decidable c] (m : Fields) (v : Json) :
    (if c then m.set k v else m).get k' = m.get k' := by
  split
  · exact Fields.get_set_ne h m v
  · rfl

theorem advertises_onSearch (s : Bpp.BecknService) (context : Fields) {db : Db} {r : Int × Resource} {o : Int × Offer}
    (hr : r ∈ db.resources.rows) (ho : o ∈ db.offers.rows) (hlink : o.2.resourceID = r.1) :
    Advertises (Bpp.buildOnSearchResponse s context (queryMatchingResources db)) r.2 o.2 := by
  have hrow := mem_queryMatchingResources hr ho hlink
  refine ⟨_, List.mem_map.2 ⟨_, hrow, rfl⟩, ?_, ?_, ?_, ?_⟩
  · show Fields.get (ite _ _ _) "productType" = _
    rw [get_stamp (by decide), get_stamp (by decide), get_stamp (by decide), Fields.get_set_ne (by decide),
      Fields.get_set_ne (by decide), Fields.get_set_self]
    rfl
  · intro hzone
    show Fields.get (ite _ _ _) "tariffZone" = _
    have hshown : (resourceRow r (some o)).tariffZone ≠ "" := hzone
    rw [get_stamp (by decide), get_stamp (by decide), if_pos hshown, Fields.get_set_self]
    rfl
  · intro hmin
    show Fields.get (ite _ _ _) "premiumRateMin" = _
    have hshown : (resourceRow r (some o)).premiumRateMin > 0 := hmin
    rw [get_stamp (by decide), if_pos hshown, Fields.get_set_self]
    rfl
  · intro hmax
    show Fields.get (ite _ _ _) "premiumRateMax" = _
    have hshown : (resourceRow r (some o)).premiumRateMax > 0 := hmax
    rw [if_pos hshown, Fields.get_set_self]
    rfl

/-- Every search that reads the inventory is answered with the offer. -/
def Discovered (s : Bpp.BecknService) (db : Db) (r : Resource) (o : Offer) : Prop :=
  ∀ (k : Bpp.BppConfig) (req : Fields) (cs : Nat → Bpp.Choice), (cs 0).sqlError = none →
    (cs 0).resources = queryMatchingResources db →
    ∃ payload, Bpp.Answered ((Bpp.machine s).serve k (.search req) cs).world k.progs.length "on_discover" payload ∧
      Advertises payload r o

theorem discovered_of_mem (s : Bpp.BecknService) {db : Db} {r : Int × Resource} {o : Int × Offer}
    (hr : r ∈ db.resources.rows) (ho : o ∈ db.offers.rows) (hlink : o.2.resourceID = r.1) :
    Discovered s db r.2 o.2 := by
  intro k req cs hread hinventory
  have hanswer : (Bpp.machine s).answer (k.world.started k.progs.length (.search req)) .queryMatchingResources (cs 0) =
      .ok (queryMatchingResources db) := by
    rw [← hinventory]
    show (statement (cs 0).sqlError _ _).1 = _
    rw [hread]
    rfl
  obtain ⟨-, t₁, t₂, hanswered⟩ := Bpp.finish_respond (s := s) (d := k.progs.length)
    (w := (Bpp.machine s).asked (k.world.started k.progs.length (.search req)) k.progs.length .queryMatchingResources
      (cs 0)) req "on_discover"
    (fun context => Bpp.buildOnSearchResponse s context (queryMatchingResources db)) fun n => cs (n + 1)
  refine ⟨_, ?_, advertises_onSearch s (Bpp.responseContext s (Bpp.contextOf req) "on_discover" t₁ t₂) hr ho hlink⟩
  show Bpp.Answered ((Bpp.machine s).finish _ (Bpp.handler s (.search req)) cs _).2 _ _ _
  show Bpp.Answered ((Bpp.machine s).finish _ (Prog.call .queryMatchingResources >>= _) cs _).2 _ _ _
  rw [Machine.finish_call, hanswer]
  exact hanswered

/-! ### What a select quotes -/

/-- The select names the product of the resource and the zone of the offer. -/
def SelectsFor (r : Resource) (o : Offer) (req : Fields) : Prop :=
  ((Bpp.commitmentAttributes req).get "productType").text = r.productType ∧
    ((Bpp.commitmentAttributes req).get "tariffZone").text = o.tariffZone

/-- The rate at which it is quoted. -/
def rateFor (r : Resource) (o : Offer) : ℚ :=
  Bpp.quotedRate (if r.productType = "" then "MOTOR_COMPREHENSIVE" else r.productType)
    (if o.tariffZone = "" then "ZONE_3" else o.tariffZone)

/-- The base premium lies between the rates of the offer. -/
def BaseInside (o : Offer) (idv : ℚ) (base : Int) : Prop :=
  ⌊o.premiumRateMin.value * idv / 100⌋ ≤ base ∧ (base : ℚ) ≤ o.premiumRateMax.value * idv / 100

/-- Both breakups of the quote begin with such a base premium. -/
def InsideOffer (o : Offer) (idv : ℚ) (payload : Fields) : Prop :=
  ∃ base : Int, BaseInside o idv base ∧
    (Bpp.breakupAmounts (Bpp.offerAttributesOf payload)).head? = some (some (base : ℚ)) ∧
    (Bpp.breakupAmounts (Bpp.considerationOf payload)).head? = some (some (base : ℚ))

/-- In exact numbers, every select for the offer is quoted inside it, if its insured value is positive and says `P`. -/
def QuotesInside (s : Bpp.BecknService) (r : Resource) (o : Offer) (P : ℚ → Prop) : Prop :=
  ∀ req, SelectsFor r o req → 0 < Bpp.selectedIDV req → P (Bpp.selectedIDV req) →
    Bpp.Responds (Bpp.handleSelectWith id s req) "on_select" (InsideOffer o (Bpp.selectedIDV req))

theorem insideOffer_onSelect_iff (o : Offer) (idv : ℚ) (context : Fields) (txnID : String) (input : Bpp.SelectInput)
    (b : Bpp.PremiumBreakup) (quoteValidUntil : Time) :
    InsideOffer o idv (Bpp.onSelect context txnID input b quoteValidUntil) ↔ BaseInside o idv b.basePremiumIDR := by
  constructor
  · intro h
    obtain ⟨base, hinside, hoffer, -⟩ := h
    have hbase : (b.basePremiumIDR : ℚ) = base := Option.some.inj (Option.some.inj hoffer)
    rwa [show b.basePremiumIDR = base by exact_mod_cast hbase]
  · intro h
    exact ⟨b.basePremiumIDR, h, rfl, rfl⟩

/-- What is quoted for the offer is the rounded share of the insured value. -/
theorem responds_insideOffer_iff (s : Bpp.BecknService) {r : Resource} {o : Offer} {req : Fields}
    (h : SelectsFor r o req) :
    Bpp.Responds (Bpp.handleSelectWith id s req) "on_select" (InsideOffer o (Bpp.selectedIDV req)) ↔
      BaseInside o (Bpp.selectedIDV req) (trunc (int64 (Bpp.selectedIDV req) * rateFor r o)) := by
  have hrate : Bpp.quotedRate (Bpp.selectInput req).productType (Bpp.selectInput req).zone = rateFor r o := by
    unfold rateFor
    rw [← h.1, ← h.2]
    rfl
  have hquote : ∀ now t₁ t₂, InsideOffer o (Bpp.selectedIDV req)
      (Bpp.onSelect (Bpp.responseContext s (Bpp.contextOf req) "on_select" t₁ t₂) (Bpp.transactionID req)
        (Bpp.selectInput req) (Bpp.selectBreakupWith id req) (Time.addDays now 2)) ↔
      BaseInside o (Bpp.selectedIDV req) (trunc (int64 (Bpp.selectedIDV req) * rateFor r o)) := by
    intro now t₁ t₂
    rw [insideOffer_onSelect_iff, Bpp.selectBreakup_exact, Bpp.idvIDR_selectInput, hrate]
  rw [Bpp.handleSelect_responds_iff]
  constructor
  · intro hall
    exact (hquote Time.zero Time.zero Time.zero).1 (hall _ _ _)
  · intro hinside now t₁ t₂
    exact (hquote now t₁ t₂).2 hinside

/-- Selects are quoted inside an offer as far as the rounded shares are. -/
theorem quotesInside_iff (s : Bpp.BecknService) (r : Resource) (o : Offer) (P : ℚ → Prop) :
    QuotesInside s r o P ↔ ∀ idv, 0 < idv → P idv → BaseInside o idv (trunc (int64 idv * rateFor r o)) := by
  constructor
  · intro h idv hpos hP
    have hselects : SelectsFor r o (Bpp.selectMessage r.productType o.tariffZone idv) := ⟨rfl, rfl⟩
    exact (responds_insideOffer_iff s hselects).1 (h _ hselects hpos hP)
  · intro h req hselects hpos hP
    exact (responds_insideOffer_iff s hselects).2 (h _ hpos hP)

/-! ### Which offers are kept -/

variable {r : Resource} {o : Offer}

private theorem rateFor_ge (r : Resource) (o : Offer) : 1 / 1000 ≤ rateFor r o := Bpp.quotedRate_ge ..

private theorem base_of_lt (r : Resource) (o : Offer) {idv : ℚ} (hpos : 0 < idv) (hlt : idv < 2 ^ 63) :
    trunc (int64 idv * rateFor r o) = ⌊(⌊idv⌋ : ℚ) * rateFor r o⌋ :=
  Bpp.base_of_lt _ _ (le_of_lt hpos) hlt

/-- A base premium is never above an upper rate that is at least the rate of the quote. -/
theorem base_le (h : rateFor r o ≤ o.premiumRateMax.value / 100) {idv : ℚ} (hpos : 0 < idv) (hlt : idv < 2 ^ 63) :
    (trunc (int64 idv * rateFor r o) : ℚ) ≤ o.premiumRateMax.value * idv / 100 := by
  have hge := rateFor_ge r o
  rw [base_of_lt r o hpos hlt, mul_div_right_comm]
  exact floor_share_le (by linarith) h (le_of_lt hpos)

/-- Of some insured value in whole rupiah both shares are whole. -/
private theorem exists_whole_shares (r : Resource) (o : Offer) :
    ∃ idv : ℚ, 0 < idv ∧ idv < 2 ^ 63 ∧ idv = ⌊idv⌋ ∧
      ⌊o.premiumRateMin.value * idv / 100⌋ = o.premiumRateMin.value * idv / 100 ∧
      trunc (int64 idv * rateFor r o) = idv * rateFor r o := by
  let den := (rateFor r o).den
  -- the rates of the offer are hundredths of a percent
  let idv : ℚ := (10000 : ℕ) * den
  have hden : (den : ℚ) ≤ 20000 := by exact_mod_cast Bpp.quotedRate_den_le ..
  have hpos : 0 < idv := mul_pos (by norm_num) (by exact_mod_cast (rateFor r o).den_pos)
  have hlt : idv < 2 ^ 63 := by
    show ((10000 : ℕ) : ℚ) * den < 2 ^ 63
    push_cast
    linarith
  have hwhole : idv = ⌊idv⌋ := by
    have hcast : idv = (10000 * den : ℕ) := by
      push_cast
      rfl
    rw [hcast, Int.floor_natCast, Int.cast_natCast]
  have hmin : o.premiumRateMin.value * idv / 100 = (o.premiumRateMin.hundredths * den : ℤ) := by
    show (o.premiumRateMin.hundredths : ℚ) / 100 * ((10000 : ℕ) * den) / 100 = _
    push_cast
    ring
  refine ⟨idv, hpos, hlt, hwhole, ?_, ?_⟩
  · rw [hmin, Int.floor_intCast]
  · rw [base_of_lt r o hpos hlt, floor_share_den, mul_assoc, mul_comm (den : ℚ), Rat.mul_den_eq_num]
    push_cast
    rfl

/-- Whole rupiah are quoted inside an offer exactly if the rate of the quote lies between its rates. -/
theorem quotesInside_whole_iff (s : Bpp.BecknService) :
    QuotesInside s r o (fun idv => idv < 2 ^ 63 ∧ idv = ⌊idv⌋) ↔
      o.premiumRateMin.value / 100 ≤ rateFor r o ∧ rateFor r o ≤ o.premiumRateMax.value / 100 := by
  rw [quotesInside_iff]
  constructor
  · intro h
    obtain ⟨idv, hpos, hlt, hwhole, hmin, hbase⟩ := exists_whole_shares r o
    obtain ⟨hlow, hhigh⟩ := h idv hpos ⟨hlt, hwhole⟩
    have hlow' : o.premiumRateMin.value * idv / 100 ≤ idv * rateFor r o := by
      rw [← hmin, ← hbase]
      exact_mod_cast hlow
    rw [hbase] at hhigh
    constructor
    · refine le_of_mul_le_mul_left ?_ hpos
      linarith
    · refine le_of_mul_le_mul_left ?_ hpos
      linarith
  · intro h idv hpos hbounds
    obtain ⟨hlt, hwhole⟩ := hbounds
    refine ⟨?_, base_le h.2 hpos hlt⟩
    rw [base_of_lt r o hpos hlt, ← hwhole]
    apply Int.floor_le_floor
    have hle := mul_le_mul_of_nonneg_left h.1 (le_of_lt hpos)
    linarith

/-- Insured values of 64 bits are quoted inside an offer exactly if it also takes no more than the lower rate of it to
give a rupiah for each time that the rate of the quote does. -/
theorem quotesInside_iff_rates (s : Bpp.BecknService) :
    QuotesInside s r o (fun idv => idv < 2 ^ 63) ↔
      o.premiumRateMin.value / 100 ≤ 1 / ⌈1 / rateFor r o⌉ ∧ rateFor r o ≤ o.premiumRateMax.value / 100 := by
  have hge := rateFor_ge r o
  have hrate : 0 < rateFor r o := by linarith
  constructor
  · intro h
    refine ⟨?_, ((quotesInside_whole_iff s).1 fun req hselects hpos hP => h req hselects hpos hP.1).2⟩
    by_contra hnot
    obtain ⟨idv, hpos, hlt, hmissed⟩ := exists_floor_share_lt hrate (not_le.1 hnot)
    have hsmall : (⌈1 / rateFor r o⌉ : ℚ) ≤ 1000 := by
      have hinv : 1 / rateFor r o ≤ 1000 := by
        rw [div_le_iff₀ hrate]
        linarith
      exact_mod_cast Int.ceil_le.2 (by exact_mod_cast hinv)
    have hbig : idv < 2 ^ 63 := by linarith
    have hlow := ((quotesInside_iff s r o _).1 h idv hpos hbig).1
    rw [base_of_lt r o hpos hbig, mul_div_right_comm] at hlow
    omega
  · intro h
    rw [quotesInside_iff]
    intro idv hpos hlt
    refine ⟨?_, base_le h.2 hpos hlt⟩
    rw [base_of_lt r o hpos hlt, mul_div_right_comm]
    exact floor_le_floor_share hrate h.1 (le_of_lt hpos)

/-- Discovery shows every offer with its resource.  In exact numbers, the selects for it are quoted between its rates
exactly if the insured value has 64 bits and the rate of the quote is at most the upper rate, and at least the lower one: for insured
values that are not whole, at least the share that gives one rupiah for as many as the rate of the quote takes. -/
theorem offers_kept_iff (s : Bpp.BecknService) {db : Db} {r : Int × Resource} {o : Int × Offer}
    (hr : r ∈ db.resources.rows) (ho : o ∈ db.offers.rows) (hlink : o.2.resourceID = r.1) :
    Discovered s db r.2 o.2 ∧
      (QuotesInside s r.2 o.2 (fun idv => idv < 2 ^ 63) ↔
        o.2.premiumRateMin.value / 100 ≤ 1 / ⌈1 / rateFor r.2 o.2⌉ ∧
          rateFor r.2 o.2 ≤ o.2.premiumRateMax.value / 100) ∧
      (QuotesInside s r.2 o.2 (fun idv => idv < 2 ^ 63 ∧ idv = ⌊idv⌋) ↔
        o.2.premiumRateMin.value / 100 ≤ rateFor r.2 o.2 ∧ rateFor r.2 o.2 ≤ o.2.premiumRateMax.value / 100) ∧
      (0 < o.2.premiumRateMin.value → ∀ req, SelectsFor r.2 o.2 req → 2 ^ 63 ≤ Bpp.selectedIDV req →
        ¬Bpp.Responds (Bpp.handleSelectWith id s req) "on_select" (InsideOffer o.2 (Bpp.selectedIDV req))) := by
  refine ⟨discovered_of_mem s hr ho hlink, quotesInside_iff_rates s, quotesInside_whole_iff s, ?_⟩
  intro hmin req hselects hlarge hresponds
  have hinside := (responds_insideOffer_iff s hselects).1 hresponds
  have hnegative : trunc (int64 (Bpp.selectedIDV req) * rateFor r.2 o.2) < 0 := Bpp.base_of_ge _ _ hlarge
  have hfloor : 0 ≤ ⌊o.2.premiumRateMin.value * Bpp.selectedIDV req / 100⌋ := by
    apply Int.floor_nonneg.2
    have hidv : 0 ≤ Bpp.selectedIDV req := by linarith
    positivity
  have hlow := hinside.1
  omega

/-- An inventory with one product and an offer for it. -/
def inventory (r : Resource) (o : Offer) : Db where
  resources := Table.empty.insert r
  offers := Table.empty.insert o

def comprehensive : Resource where
  bppID := "insurance-bpp.iontest"
  productType := "MOTOR_COMPREHENSIVE"
  vehicleType := "MOBIL"
  ojkProductCode := "OJK-MV-001"
  resourceAttributes := .obj []
  createdAt := Time.zero

/-- An offer for the resource with the id 1. -/
def offerIn (zone : String) (premiumRateMin premiumRateMax : Rate) : Offer where
  resourceID := 1
  bppID := "insurance-bpp.iontest"
  tariffZone := zone
  premiumRateMin := premiumRateMin
  premiumRateMax := premiumRateMax
  offerAttributes := .obj []
  validUntil := none

/-- Offers at the tariff of the third zone are kept. -/
theorem offers_kept_iff_zone3 :
    let offer := offerIn "ZONE_3" ⟨253, by decide⟩ ⟨308, by decide⟩
    Discovered {} (inventory comprehensive offer) comprehensive offer ∧
      QuotesInside {} comprehensive offer fun idv => idv < 2 ^ 63 := by
  intro offer
  have hr : (1, comprehensive) ∈ (inventory comprehensive offer).resources.rows := List.mem_singleton_self _
  have ho : (1, offer) ∈ (inventory comprehensive offer).offers.rows := List.mem_singleton_self _
  obtain ⟨hshown, hkept, -⟩ := offers_kept_iff {} hr ho rfl
  exact ⟨hshown, hkept.2 (by decide +kernel)⟩

/-- The publish page has 3.82 to 4.20 percent for the first zone, where a vehicle of 100 million rupiah is quoted at
2225000. -/
theorem page_rates_not_kept :
    ¬∀ (s : Bpp.BecknService) (db : Db) (r : Int × Resource) (o : Int × Offer), r ∈ db.resources.rows →
      o ∈ db.offers.rows → o.2.resourceID = r.1 → Discovered s db r.2 o.2 → QuotesInside s r.2 o.2 fun _ => True := by
  intro hall
  let offer := offerIn "ZONE_1" ⟨382, by decide⟩ ⟨420, by decide⟩
  let db := inventory comprehensive offer
  have hr : (1, comprehensive) ∈ db.resources.rows := List.mem_singleton_self _
  have ho : (1, offer) ∈ db.offers.rows := List.mem_singleton_self _
  have hinside := hall {} db _ _ hr ho rfl (discovered_of_mem {} hr ho rfl)
  rw [quotesInside_iff] at hinside
  have hlow := (hinside 100000000 (by norm_num) trivial).1
  revert hlow
  decide +kernel

end IonInsurance.Catalog
