import IonInsurance.Bpp.Rates
import IonInsurance.Bpp.Answers
import IonInsurance.Bpp.Protocol
import IonInsurance.Network.Encoding
import IonInsurance.Network.Rules

/-!
# The quote and the price

A customer is quoted the tariff of the product and zone that the form of the select names.  The form of the init names
neither, so the BPP asks for the comprehensive tariff of zone 3, and the BAP charges what the `on_init` asks, as it is
decoded from JSON.  The two agree exactly if the rates do, or the insured value is so small that both come to the same
whole rupiah, and the total is none that `float64` rounds.
-/

namespace IonInsurance.Network

open Arith Interleave

/-- The BAP has sent the form as `m`, and the BPP has answered a delivery of `m` with `payload`. -/
structure Answers (n : NetConfig) (form : Bap.Request) (action : String) (delivery : Fields → Bpp.Request)
    (onAction : String) (m payload : Fields) : Prop where
  sent : ∃ d reply, n.1.world.request? d = some form ∧
    (⟨.post .onixBAPCaller action m, reply⟩ : Bap.Exchange) ∈ n.1.world.exchanges d
  answered : ∃ d, n.2.world.request? d = some (delivery (receivedFields m)) ∧ Bpp.Answered n.2.world d onAction payload

/-- The BAP has asked ION for a checkout when it received the `on_init`. -/
def Charged (n : NetConfig) (payload body : Fields) : Prop :=
  ∃ d reply, n.1.world.request? d = some (.callback "on_init" (receivedFields payload)) ∧
    (⟨.post .ionService "payment/create-checkout" body, reply⟩ : Bap.Exchange) ∈ n.1.world.exchanges d

/-- The amount of a checkout. -/
def amountOf (body : Fields) : Option ℚ := (body.get "amount_idr").num?

/-! ### What arrives of a form -/

/-- The insured value of a form, after it was a number on the way. -/
def arrivedIDV (req : Fields) : Int := int64 (binary64 (req.get "idv").float)

def arrivedSelect (req : Fields) : Bpp.SelectInput := { selectForm req with idvIDR := arrivedIDV req }

theorem select_arrives (s : Bap.ClientService) (req : Fields) :
    Sends (Bap.handler s (.select req)) fun m => Bpp.selectInput (receivedFields m) = arrivedSelect req := by
  refine Bap.form_asks sends_local (fun context _ => Bap.selectPayload context req) ?_ ?_ s req
  · rintro _ _ _ ⟨⟩
  · rintro txnID msgID now _ _ ⟨⟩
    have hproduct : Bap.stringOrDefault (req.get "productType") "MOTOR_COMPREHENSIVE" ≠ "" :=
      stringOrDefault_ne (by decide) _
    have hzone : Bap.stringOrDefault (req.get "tariffZone") "ZONE_3" ≠ "" := stringOrDefault_ne (by decide) _
    unfold Bpp.selectInput
    rw [commitmentAttributes_received, Bap.selectPayload, commitmentAttributes_contractRequest _ _ _ _ _ rfl]
    simp [arrivedSelect, arrivedIDV, selectForm, hproduct, hzone]

theorem init_arrives (s : Bap.ClientService) (req : Fields) :
    Sends (Bap.handler s (.init req)) fun m => (Bpp.initInput (receivedFields m)).idvIDR = arrivedIDV req := by
  refine Bap.form_asks sends_local (fun context txnID => Bap.initPayload context txnID req) ?_ ?_ s req
  · rintro _ _ _ ⟨⟩
  · rintro txnID msgID now _ _ ⟨⟩
    unfold Bpp.initInput
    dsimp only
    rw [commitmentAttributes_received, Bap.initPayload, commitmentAttributes_contractRequest _ _ _ _ _ rfl]
    simp [arrivedIDV]

theorem inInt64_arrivedIDV (req : Fields) : InInt64 (arrivedIDV req) := inInt64_int64 _

/-! ### Two prices -/

/-- What is quoted for the selection is what an init asks: the rates are equal, or the insured value lies in one of 51
intervals, from where the smaller rate comes to `m` rupiah to where the larger comes to `m + 1`. -/
def SamePrice (input : Bpp.SelectInput) : Prop :=
  let quoted := Bpp.quotedRate input.productType input.zone
  let asked := Bpp.quotedRate "MOTOR_COMPREHENSIVE" "ZONE_3"
  quoted = asked ∨
    ∃ m : ℕ, m ≤ 50 ∧ m / min asked quoted ≤ |(input.idvIDR : ℚ)| ∧ |(input.idvIDR : ℚ)| < (m + 1) / max asked quoted

theorem samePrice_iff {req : Fields} (input : Bpp.SelectInput) (h : Bpp.selectInput req = input) :
    Bpp.askedTotal input.idvIDR = Bpp.quotedTotal req ↔ SamePrice input := by
  have hrates := Bpp.premium_eq_iff input.productType input.zone input.idvIDR
  have hlo : 0 < min (Bpp.quotedRate "MOTOR_COMPREHENSIVE" "ZONE_3") (Bpp.quotedRate input.productType input.zone) :=
    lt_of_lt_of_le (by norm_num) (le_min (Bpp.quotedRate_ge ..) (Bpp.quotedRate_ge ..))
  have hhi := lt_of_lt_of_le hlo (min_le_max)
  unfold SamePrice
  dsimp only
  simp only [div_le_iff₀ hlo, lt_div_iff₀ hhi]
  rw [← hrates]
  unfold Bpp.askedTotal Bpp.quotedTotal
  rw [h]
  constructor
  · intro heq
    omega
  · intro heq
    omega

/-- The fees do not take the premium, as `float64` computes it, past a power of two from which on the total has one place
too many.  Only such a total is rounded on its way to the BAP. -/
def Survives (idv : Int) : Prop := ¬Crosses 160000 (Bpp.premiumShare binary64 "MOTOR_COMPREHENSIVE" "ZONE_3" idv)

theorem survives_iff {idv : Int} (h : InInt64 idv) :
    Survives idv ↔ binary64 (Bpp.askedTotal idv) = Bpp.askedTotal idv := by
  obtain ⟨q, hq⟩ : ∃ q, Bpp.premiumShare binary64 "MOTOR_COMPREHENSIVE" "ZONE_3" idv = binary64 q := ⟨_, rfl⟩
  have hbound := Bpp.abs_premium_lt h "MOTOR_COMPREHENSIVE" "ZONE_3"
  have htotal : Bpp.askedTotal idv = trunc (binary64 q) + 160000 := by
    unfold Bpp.askedTotal Bpp.adminFeeIDR Bpp.stampDutyIDR
    rw [hq, add_assoc]
    rfl
  rw [hq] at hbound
  have hsum := binary64_trunc_add_eq_iff (d := 7) q (c := 160000) (by norm_num) (by norm_num) (by norm_num) hbound
  unfold Survives
  rw [htotal, hq]
  exact_mod_cast hsum.symm

/-- Up to three hundred quadrillion rupiah, no total reaches such a power. -/
theorem survives_of_le {idv : Int} (h : |idv| ≤ 3 * 10 ^ 17) : Survives idv := by
  have hn : |(idv : ℚ)| ≤ 3 * 10 ^ 17 := by exact_mod_cast h
  have hupper := (Bpp.within_premiumShare "MOTOR_COMPREHENSIVE" "ZONE_3" idv).upper
  have hshare := le_abs_self (Bpp.premiumShare binary64 "MOTOR_COMPREHENSIVE" "ZONE_3" idv)
  rw [Bpp.comprehensiveZone3_rate, abs_mul, abs_of_pos (by norm_num : (0 : ℚ) < 561 / 20000)] at hupper
  rintro ⟨m, k, -, -, -, hcross⟩
  have hpow : (2 : ℚ) ^ 53 ≤ 2 ^ (53 + k) := pow_le_pow_right₀ (by norm_num) (by omega)
  linarith

/-- An amount of 61 bits is a whole amount when it arrives. -/
theorem int64_binary64 {n : Int} (h : |n| ≤ 2 ^ 61) : (int64 (binary64 n) : ℚ) = binary64 n := by
  obtain ⟨m, hm⟩ := exists_binary64_intCast n
  have hle : |m| ≤ 2 ^ 62 := by
    by_cases hzero : n = 0
    · rw [hzero, binary64_intCast (by norm_num)] at hm
      have hm' : m = 0 := by exact_mod_cast hm.symm
      rw [hm']
      norm_num
    · have hone : (1 : ℚ) ≤ |(n : ℚ)| := by exact_mod_cast Int.one_le_abs hzero
      have hn : |(n : ℚ)| ≤ 2 ^ 61 := by exact_mod_cast h
      have hnormal : (2 : ℚ) ^ (-1022 : ℤ) ≤ 1 := zpow_le_one_of_nonpos₀ (by norm_num) (by norm_num)
      have hupper := (within_binary64 (hnormal.trans hone)).upper
      rw [hm] at hupper
      have hle : |(m : ℚ)| ≤ 2 ^ 62 := by linarith
      exact_mod_cast hle
  have hbounds := abs_le.1 hle
  have hin : InInt64 (trunc (m : ℚ)) := by
    rw [trunc_intCast]
    unfold InInt64
    omega
  rw [hm, int64_of_inInt64 hin, trunc_intCast]

theorem abs_askedTotal_le {idv : Int} (h : InInt64 idv) : |Bpp.askedTotal idv| ≤ 2 ^ 61 := by
  have hbounds := abs_lt.1 (Bpp.abs_premium_lt h "MOTOR_COMPREHENSIVE" "ZONE_3")
  unfold Bpp.askedTotal Bpp.adminFeeIDR Bpp.stampDutyIDR
  rw [abs_le]
  omega

/-! ### The total of an on_init -/

theorem totalAmountOf_received (payload : Fields) :
    Bpp.totalAmountOf (receivedFields payload) = (Bpp.totalAmountOf payload).map binary64 := by
  unfold Bpp.totalAmountOf Bpp.commitmentOf Bpp.contractOf
  simp only [get_received, fields_received, first_received, num?_received]

/-- The BAP charges what an `on_init` names. -/
theorem extractTotalIDR_of_totalAmount {payload : Fields} {q : ℚ} (h : Bpp.totalAmountOf payload = some q) :
    Bap.extractTotalIDRFromOnInit payload = int64 q := by
  have hitems : Bap.commitmentsOf payload = ((Bpp.contractOf payload).get "commitments").items := rfl
  unfold Bap.extractTotalIDRFromOnInit
  unfold Bpp.totalAmountOf Bpp.commitmentOf Json.first at h
  rw [← hitems] at h
  cases hc : Bap.commitmentsOf payload with
  | nil =>
    rw [hc] at h
    cases h
  | cons c rest =>
    rw [hc] at h
    simp only [List.headD_cons] at h
    simp only [h]

section

variable {s₁ : Bap.ClientService} {s₂ : Bpp.BecknService} {n : NetConfig}

/-- What a message of the BAP says is what its form says. -/
theorem sent_of_sends (h : (rules s₁ s₂).Runs start n) {form : Bap.Request} {P : Fields → Prop}
    (hP : Sends (Bap.handler s₁ form) P) {action onAction : String} {delivery : Fields → Bpp.Request}
    {m payload : Fields} (ha : Answers n form action delivery onAction m payload) : P m := by
  obtain ⟨d, reply, hd, hx⟩ := ha.sent
  exact Machine.asked_of_asks (M := Bap.machine s₁) hP h.fst hd hx action m rfl

/-- What a response of the BPP says is what its handler makes of the message. -/
theorem answered_of_asks (h : (rules s₁ s₂).Runs start n) {form : Bap.Request} {P : Fields → Prop} {m : Fields}
    {action onAction : String} {delivery : Fields → Bpp.Request}
    (hP : (Bpp.handler s₂ (delivery (receivedFields m))).Asks fun o =>
      ∀ payload, o = .post .onixBPPCaller onAction payload → P payload)
    {payload : Fields} (ha : Answers n form action delivery onAction m payload) : P payload := by
  obtain ⟨d, hd, reply, hx⟩ := ha.answered
  exact Machine.asked_of_asks (M := Bpp.machine s₂) hP h.snd hd hx payload rfl

/-- The BAP charges what it reads in the `on_init`. -/
theorem charged_amount (h : (rules s₁ s₂).Runs start n) {payload body : Fields} (hc : Charged n payload body) :
    amountOf body = some (Bap.extractTotalIDRFromOnInit (receivedFields payload) : ℚ) := by
  have hasks : (Bap.handler s₁ (.callback "on_init" (receivedFields payload))).Asks fun o =>
      ∀ body, o = .post .ionService "payment/create-checkout" body →
        amountOf body = some (Bap.extractTotalIDRFromOnInit (receivedFields payload) : ℚ) := by
    refine Bap.handleCallback_asks ?_ ?_ ?_ s₁ "on_init" (receivedFields payload) ?_
    · rintro _ hlocal _ rfl
      cases hlocal
    · rintro _ _ _ _ ⟨⟩
    · rintro _ _ ⟨⟩
    · rintro - _ ⟨⟩
      rfl
  obtain ⟨d, reply, hd, hx⟩ := hc
  exact Machine.asked_of_asks (M := Bap.machine s₁) hasks h.fst hd hx body rfl

/-- What the BAP reads of a total is the total as it is decoded. -/
theorem charged_total (h : (rules s₁ s₂).Runs start n) {payload body : Fields} (hc : Charged n payload body) {total : Int}
    (htotal : Bpp.totalAmountOf payload = some (total : ℚ)) (hle : |total| ≤ 2 ^ 61) :
    amountOf body = some (binary64 total) := by
  have hreceived : Bpp.totalAmountOf (receivedFields payload) = some (binary64 total) := by
    rw [totalAmountOf_received, htotal, Option.map_some]
  rw [charged_amount h hc, extractTotalIDR_of_totalAmount hreceived, int64_binary64 hle]

end

/-- In every run, an `on_init` for the insured value of a select asks what was quoted, and the BAP charges it, exactly if
the two prices are the same and the total, if it is charged, survives the way to the BAP. -/
theorem quote_honoured_iff (s₁ : Bap.ClientService) (s₂ : Bpp.BecknService) (n : NetConfig)
    (h : (rules s₁ s₂).Runs start n) (req req' m m' payload payload' : Fields)
    (hs : Answers n (.select req) "select" .select "on_select" m payload)
    (hi : Answers n (.init req') "init" .init "on_init" m' payload') (hidv : arrivedIDV req = arrivedIDV req') :
    (Bpp.totalAmountOf payload' = Bpp.annualPremiumOf payload ∧
        ∀ body, Charged n payload' body → amountOf body = Bpp.annualPremiumOf payload) ↔
      SamePrice (arrivedSelect req) ∧ ((∃ body, Charged n payload' body) → Survives (arrivedIDV req)) := by
  have hm : Bpp.selectInput (receivedFields m) = arrivedSelect req := sent_of_sends h (select_arrives s₁ req) hs
  have hm' : (Bpp.initInput (receivedFields m')).idvIDR = arrivedIDV req' := sent_of_sends h (init_arrives s₁ req') hi
  have hquoted : Bpp.annualPremiumOf payload = some (Bpp.quotedTotal (receivedFields m) : ℚ) :=
    answered_of_asks h (Bpp.handleSelect_asks s₂ (receivedFields m)) hs
  have hasked : Bpp.totalAmountOf payload' = some (Bpp.askedTotal (arrivedIDV req) : ℚ) := by
    have hinit := answered_of_asks h (Bpp.handleInit_asks s₂ (receivedFields m')) hi
    rwa [hm', ← hidv] at hinit
  have hcharged : ∀ body, Charged n payload' body → amountOf body = some (binary64 (Bpp.askedTotal (arrivedIDV req))) :=
    fun body hc => charged_total h hc hasked (abs_askedTotal_le (inInt64_arrivedIDV req))
  rw [← samePrice_iff (arrivedSelect req) hm, survives_iff (inInt64_arrivedIDV req), hquoted, hasked]
  constructor
  · rintro ⟨htotal, hall⟩
    refine ⟨by exact_mod_cast Option.some.inj htotal, ?_⟩
    rintro ⟨body, hc⟩
    exact Option.some.inj ((hcharged body hc).symm.trans ((hall body hc).trans htotal.symm))
  · rintro ⟨heq, hsurvives⟩
    have htotal : (some (Bpp.askedTotal (arrivedIDV req) : ℚ)) = some (Bpp.quotedTotal (receivedFields m) : ℚ) :=
      congrArg (fun total : Int => some (total : ℚ)) heq
    refine ⟨htotal, fun body hc => ?_⟩
    have hsame : binary64 (Bpp.askedTotal (arrivedIDV req)) = Bpp.askedTotal (arrivedIDV req) := hsurvives ⟨body, hc⟩
    rw [hcharged body hc, hsame, htotal]

/-! ### Two products -/

/-- A customer selects, is quoted, goes on to the init, and the BAP receives the `on_init`. -/
def quoteSchedule (f g : Fields) : List Label :=
  [.bap (.start (.select f))] ++ bapSteps 5 0 ++ [.toBpp 0] ++ bppSteps 4 0 ++ [.bap (.start (.init g))] ++ bapSteps 5 1 ++
    [.toBpp 0] ++ bppSteps 4 1 ++ [.toBap 0] ++ bapSteps 2 2

/-- A form that selects a product and a zone for a vehicle worth 200 million rupiah. -/
def selectedForm (productType tariffZone : String) : Fields :=
  [("transaction_id", .str "txn-0001"), ("productType", .str productType), ("tariffZone", .str tariffZone),
   ("idv", .num 200000000)]

def orderedForm : Fields := [("transaction_id", .str "txn-0001"), ("idv", .num 200000000)]

def quoteRun (productType tariffZone : String) : NetConfig :=
  (run? {} {} (fun _ _ => true) (fun _ _ _ => true) start
    (quoteSchedule (selectedForm productType tariffZone) orderedForm)).getD start

/-- The message of the select. -/
def selectSent (productType tariffZone : String) : Fields :=
  Bap.selectPayload (Bap.requestContext "select" "txn-0001" "" Time.zero) (selectedForm productType tariffZone)

/-- The message of the init. -/
def initSent : Fields := Bap.initPayload (Bap.requestContext "init" "txn-0001" "" Time.zero) "txn-0001" orderedForm

def selectAnswer (productType tariffZone : String) : Fields :=
  let req := receivedFields (selectSent productType tariffZone)
  Bpp.onSelect (Bpp.responseContext {} (Bpp.contextOf req) "on_select" Time.zero Time.zero) (Bpp.transactionID req)
    (Bpp.selectInput req) (Bpp.selectBreakup req) (Time.zero.addDays 2)

def initAnswer : Fields :=
  let req := receivedFields initSent
  Bpp.onInit (Bpp.responseContext {} (Bpp.contextOf req) "on_init" Time.zero Time.zero) (Bpp.transactionID req)
    (Bpp.initBreakup req)

private theorem quoteRun_runs {productType tariffZone : String}
    (h : (run? {} {} (fun _ _ => true) (fun _ _ _ => true) start
      (quoteSchedule (selectedForm productType tariffZone) orderedForm)).isSome = true) :
    (rules {} {}).Runs start (quoteRun productType tariffZone) := by
  obtain ⟨n, hn⟩ := Option.isSome_iff_exists.1 h
  have hrun : quoteRun productType tariffZone = n := by
    unfold quoteRun
    rw [hn, Option.getD_some]
  rw [hrun]
  exact (run?_runs hn).of_and

/-- Program `d` of the BAP has sent the form as `m`, and program `d` of the BPP has answered `m` with `payload`. -/
private def answersAt (n : NetConfig) (d : Nat) (form : Bap.Request) (action : String)
    (delivery : Fields → Bpp.Request) (onAction : String) (m payload : Fields) : Bool :=
  n.1.world.request? d = some form && (n.1.world.exchanges d).any (·.1 = .post .onixBAPCaller action m) &&
    n.2.world.request? d = some (delivery (receivedFields m)) &&
    (n.2.world.exchanges d).any (·.1 = .post .onixBPPCaller onAction payload)

private theorem answers_of_answersAt {form : Bap.Request} {action onAction : String} {delivery : Fields → Bpp.Request}
    {m payload : Fields} {n : NetConfig} {d : Nat}
    (h : answersAt n d form action delivery onAction m payload = true) :
    Answers n form action delivery onAction m payload := by
  unfold answersAt at h
  simp only [Bool.and_eq_true, decide_eq_true_eq, List.any_eq_true] at h
  obtain ⟨⟨⟨hform, ⟨⟨_, reply⟩, hsent, rfl⟩⟩, hdelivery⟩, ⟨_, reply'⟩, hanswered, rfl⟩ := h
  exact ⟨⟨d, reply, hform, hsent⟩, d, hdelivery, reply', hanswered⟩

theorem quote_honoured_iff_zone4 :
    Bpp.totalAmountOf initAnswer = Bpp.annualPremiumOf (selectAnswer "MOTOR_COMPREHENSIVE" "ZONE_4") ∧
      ∀ body, Charged (quoteRun "MOTOR_COMPREHENSIVE" "ZONE_4") initAnswer body →
        amountOf body = Bpp.annualPremiumOf (selectAnswer "MOTOR_COMPREHENSIVE" "ZONE_4") := by
  have hs : Answers (quoteRun "MOTOR_COMPREHENSIVE" "ZONE_4") (.select (selectedForm "MOTOR_COMPREHENSIVE" "ZONE_4"))
      "select" .select "on_select" (selectSent "MOTOR_COMPREHENSIVE" "ZONE_4")
      (selectAnswer "MOTOR_COMPREHENSIVE" "ZONE_4") := answers_of_answersAt (d := 0) (by decide +kernel)
  have hi : Answers (quoteRun "MOTOR_COMPREHENSIVE" "ZONE_4") (.init orderedForm) "init" .init "on_init" initSent
      initAnswer := answers_of_answersAt (d := 1) (by decide +kernel)
  have hrates : SamePrice (arrivedSelect (selectedForm "MOTOR_COMPREHENSIVE" "ZONE_4")) := .inl (by decide +kernel)
  have hidv : |arrivedIDV (selectedForm "MOTOR_COMPREHENSIVE" "ZONE_4")| ≤ 3 * 10 ^ 17 := by decide +kernel
  exact (quote_honoured_iff {} {} _ (quoteRun_runs (by decide +kernel)) _ _ _ _ _ _ hs hi rfl).2
    ⟨hrates, fun _ => survives_of_le hidv⟩

/-- Third-party cover is quoted at a fifth of what the init asks. -/
theorem third_party_quote_broken :
    ¬∀ (s₁ : Bap.ClientService) (s₂ : Bpp.BecknService) (n : NetConfig), (rules s₁ s₂).Runs start n →
      ∀ req req' m m' payload payload', Answers n (.select req) "select" .select "on_select" m payload →
        Answers n (.init req') "init" .init "on_init" m' payload' →
          Bpp.transactionID payload = Bpp.transactionID payload' → (req.get "idv").float = (req'.get "idv").float →
            Bpp.totalAmountOf payload' = Bpp.annualPremiumOf payload := by
  intro hall
  have hs : Answers (quoteRun "MOTOR_THIRD_PARTY" "ZONE_3") (.select (selectedForm "MOTOR_THIRD_PARTY" "ZONE_3"))
      "select" .select "on_select" (selectSent "MOTOR_THIRD_PARTY" "ZONE_3")
      (selectAnswer "MOTOR_THIRD_PARTY" "ZONE_3") := answers_of_answersAt (d := 0) (by decide +kernel)
  have hi : Answers (quoteRun "MOTOR_THIRD_PARTY" "ZONE_3") (.init orderedForm) "init" .init "on_init" initSent
      initAnswer := answers_of_answersAt (d := 1) (by decide +kernel)
  have htxn : Bpp.transactionID (selectAnswer "MOTOR_THIRD_PARTY" "ZONE_3") = Bpp.transactionID initAnswer := by
    decide +kernel
  have heq := hall {} {} _ (quoteRun_runs (by decide +kernel)) _ _ _ _ _ _ hs hi htxn rfl
  revert heq
  decide +kernel

end IonInsurance.Network
