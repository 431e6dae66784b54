import IonInsurance.Bap.Enrichment
import IonInsurance.Bap.History
import IonInsurance.Bpp.Rates
import IonInsurance.Bpp.Reports
import IonInsurance.Network.Quote
import IonInsurance.Network.Transport

/-!
# Responses across the network

What the BPP answers reaches the BAP as JSON, and an `on_init` is given a checkout on the way.  The extractors of the
BAP fall back to defaults at every level, but for every answer that the BPP can build they find what it has written.
-/

namespace IonInsurance.Network

open Arith Interleave

/-- Every answer of a delivery is one that its handler can give. -/
theorem answered_of_responds {s : Bpp.BecknService} {k : Bpp.BppConfig} (h : Bpp.Reachable s k) {r : Bpp.Request}
    {action : String} {P : Fields → Prop} (hP : Bpp.Responds (Bpp.handler s r) action P) {d : Nat} {payload : Fields}
    (hd : k.world.request? d = some r) (ha : Bpp.Answered k.world d action payload) : P payload := by
  obtain ⟨reply, hx⟩ := ha
  have hasks : (Bpp.handler s r).Asks fun o => ∀ payload, o = .post .onixBPPCaller action payload → P payload := hP
  exact Machine.asked_of_asks (M := Bpp.machine s) hasks h hd hx payload rfl

/-! ### The total of an on_init -/

theorem totalAmountOf_eq (payload : Fields) : Bpp.totalAmountOf payload =
    ((Bap.read payload (Bap.attributesPath ++ [.name "totalAmountIDR"])).getD .null).num? := by
  rw [Bap.total_eq]
  rfl

/-- A payload that names its total keeps it while a checkout is created for it. -/
theorem enrich_keeps_total (s : Bap.ClientService) (payload : Fields) :
    (Bap.enrich s payload).Yields fun enriched => Bpp.totalAmountOf enriched = Bpp.totalAmountOf payload := by
  refine (Bap.changedAt_enrich s payload).mono ?_
  intro enriched h
  rw [totalAmountOf_eq, totalAmountOf_eq, Bap.total_of_changedAt h (by decide)]

/-- The BAP reads the total of 53 bits that it was sent. -/
private theorem extractTotalIDR_received {payload enriched : Fields} {n : ℤ} (hsent : Bpp.totalAmountOf payload = some (n : ℚ))
    (hn : |n| ≤ 2 ^ 53) (henriched : Bpp.totalAmountOf enriched = Bpp.totalAmountOf (receivedFields payload)) :
    Bap.extractTotalIDRFromOnInit enriched = n := by
  have htotal : Bpp.totalAmountOf enriched = some (n : ℚ) := by
    rw [henriched, totalAmountOf_received, hsent, Option.map_some, binary64_intCast hn]
  have hin : InInt64 (trunc (n : ℚ)) := by
    rw [trunc_intCast]
    have hbounds := abs_le.1 hn
    unfold InInt64
    omega
  rw [extractTotalIDR_of_totalAmount htotal, int64_of_inInt64 hin, trunc_intCast]

/-! ### The policy of an on_confirm -/

/-- Delivery `d` has read the policy of `req` as it was issued, or has issued it. -/
def Issues (w : Bpp.BppWorld) (d : Nat) (req : Fields) (issued : Bpp.Issued) : Prop :=
  (∃ row, Bpp.readForConfirm req row ∈ w.exchanges d ∧ row.status = .active ∧ issued = row.issued) ∨
    (Bpp.issueUpdate req issued).answered (.ok ()) ∈ w.exchanges d

/-- The payload is an `on_confirm` for `issued`. -/
def ConfirmOf (payload : Fields) (issued : Bpp.Issued) : Prop :=
  ∃ context txnID payment breakup, payload = Bpp.onConfirm context txnID issued payment breakup

/-- An `on_confirm` without an error is for the policy that its delivery has read or issued. -/
theorem confirmOf_answered {s : Bpp.BecknService} {k : Bpp.BppConfig} (h : Bpp.Reachable s k) {d : Nat} {req payload : Fields}
    (hd : k.world.request? d = some (.confirm req)) (ha : Bpp.Answered k.world d "on_confirm" payload)
    (he : payload.has "error" = false) : ∃ issued, Issues k.world d req issued ∧ ConfirmOf payload issued := by
  have hhistory := Protocol.history (P := Bpp.protocol s)
    (S := fun r hist => ∀ req payload reply, r = .confirm req → payload.has "error" = false →
      (Bpp.Op.post .onixBPPCaller "on_confirm" payload).answered reply ∈ hist →
        ∃ issued, ((∃ row, Bpp.readForConfirm req row ∈ hist ∧ row.status = .active ∧ issued = row.issued) ∨
          (Bpp.issueUpdate req issued).answered (.ok ()) ∈ hist) ∧ ConfirmOf payload issued)
    (fun _ _ _ _ _ _ hx => by cases hx) ?_ h hd
  · obtain ⟨reply, hx⟩ := ha
    exact hhistory req payload reply rfl he hx
  · intro r hist o a hS ho req payload reply hr he hx
    rcases List.mem_cons.1 hx with hnew | hold
    · -- the message has just been posted
      cases hnew
      obtain ⟨req', row, issued, payment, t₁, t₂, hr', hread, rfl, hissued⟩ := Bpp.mayAsk_onConfirm ho he
      rw [hr] at hr'
      obtain rfl := Bpp.Request.confirm.inj hr'
      refine ⟨issued, ?_, _, _, _, _, rfl⟩
      rcases hissued with ⟨hactive, rfl⟩ | hupdate
      · exact .inl ⟨row, List.mem_cons_of_mem _ hread, hactive, rfl⟩
      · exact .inr (List.mem_cons_of_mem _ hupdate)
    · obtain ⟨issued, hissued, hconfirm⟩ := hS req payload reply hr he hold
      refine ⟨issued, ?_, hconfirm⟩
      rcases hissued with ⟨row, hread, hactive, heq⟩ | hupdate
      · exact .inl ⟨row, List.mem_cons_of_mem _ hread, hactive, heq⟩
      · exact .inr (List.mem_cons_of_mem _ hupdate)

/-- The BAP finds that the policy is active. -/
theorem extractPolicyState_received {payload : Fields} {issued : Bpp.Issued} (h : ConfirmOf payload issued) :
    Bap.extractPolicyStateFromOnConfirm (receivedFields payload) = "ACTIVE" := by
  obtain ⟨context, txnID, payment, breakup, rfl⟩ := h
  have hcommitments : Bap.commitmentsOf (receivedFields (Bpp.onConfirm context txnID issued payment breakup)) =
      (Bap.commitmentsOf (Bpp.onConfirm context txnID issued payment breakup)).map received := by
    unfold Bap.commitmentsOf
    simp only [get_received, fields_received, items_received]
  unfold Bap.extractPolicyStateFromOnConfirm
  rw [hcommitments]
  cases hitems : Bap.commitmentsOf (Bpp.onConfirm context txnID issued payment breakup) with
  | nil => cases hitems
  | cons c rest =>
    have hstate : ((c.fields.get "commitmentAttributes").fields.get "policyState").text = "ACTIVE" := by
      rw [← (List.cons.inj hitems).1]
      rfl
    rw [List.map_cons]
    dsimp only
    rw [fields_received, get_received, fields_received, get_received, text_received, hstate]

/-! ### The entry of a policy -/

/-- The payload is an `on_select` that quotes `breakup` for `input`. -/
def QuoteOf (payload : Fields) (input : Bpp.SelectInput) (breakup : Bpp.PremiumBreakup) : Prop :=
  ∃ context txnID quoteValidUntil, payload = Bpp.onSelect context txnID input breakup quoteValidUntil

/-- What the BPP has issued and quoted, as an entry of the history. -/
def listedPolicy (t : String) (receivedAt : Time) (issued : Bpp.Issued) (input : Bpp.SelectInput)
    (breakup : Bpp.PremiumBreakup) : Bap.PolicyEntry where
  transactionID := t
  receivedAt := receivedAt
  policyNumber := issued.policyNumber
  certificateURL := issued.certURL
  coverageStart := issued.coverageStart.rfc3339
  coverageEnd := issued.coverageEnd.rfc3339
  status := "ACTIVE"
  annualPremium := breakup.totalIDR
  idv := input.idvIDR

theorem policyEntry_received {confirm select : Fields} {issued : Bpp.Issued} {input : Bpp.SelectInput}
    {breakup : Bpp.PremiumBreakup} (hconfirm : ConfirmOf confirm issued) (hselect : QuoteOf select input breakup)
    (htotal : |breakup.totalIDR| ≤ 2 ^ 53) (hidv : |input.idvIDR| ≤ 2 ^ 53) (t : String) (receivedAt : Time) :
    Bap.policyEntry ⟨t, "on_confirm", receivedFields confirm, receivedAt⟩ (receivedFields select) =
      listedPolicy t receivedAt issued input breakup := by
  obtain ⟨context, txnID, payment, breakup', rfl⟩ := hconfirm
  obtain ⟨context', txnID', quoteValidUntil, rfl⟩ := hselect
  have hpremium : ((Bap.nestedMap (Bpp.onSelect context' txnID' input breakup quoteValidUntil)
      [.name "message", .name "contract", .name "commitments", .index 0, .name "offer",
        .name "offerAttributes"]).get "annualPremiumIDR").num? = some (breakup.totalIDR : ℚ) := rfl
  have happroved : ((Bap.nestedMap (Bpp.onSelect context' txnID' input breakup quoteValidUntil)
      [.name "message", .name "contract", .name "commitments", .index 0, .name "offer",
        .name "offerAttributes"]).get "approvedIDV").num? = some (input.idvIDR : ℚ) := rfl
  unfold Bap.policyEntry
  simp only [nestedMap_received, stringField_received, numField_received hpremium htotal, numField_received happroved hidv]
  rfl

/-- The snapshots of the transaction: one `on_confirm` and one `on_select`, as they were received. -/
structure Snapshots (db : Bap.Db) (t : String) (confirm select : Fields) (receivedAt : Time) : Prop where
  confirm : Bap.snapshotsOf db t "on_confirm" = [⟨t, "on_confirm", receivedFields confirm, receivedAt⟩]
  select : ∃ at', Bap.snapshotsOf db t "on_select" = [⟨t, "on_select", receivedFields select, at'⟩]

theorem entriesOf_received {confirm select : Fields} {issued : Bpp.Issued} {input : Bpp.SelectInput}
    {breakup : Bpp.PremiumBreakup} (hconfirm : ConfirmOf confirm issued) (hselect : QuoteOf select input breakup)
    (htotal : |breakup.totalIDR| ≤ 2 ^ 53) (hidv : |input.idvIDR| ≤ 2 ^ 53) {db : Bap.Db} {t : String} {receivedAt : Time}
    (h : Snapshots db t confirm select receivedAt) {c : Bap.Choice} {entries : List Bap.PolicyEntry}
    (hlist : Bap.listPolicies c db = .ok entries) :
    Bap.entriesOf entries t = [listedPolicy t receivedAt issued input breakup] := by
  obtain ⟨at', hsel⟩ := h.select
  let sel : Option Bap.Snapshot := some ⟨t, "on_select", receivedFields select, at'⟩
  have hselect' : Bap.snapshotsOf db t "on_select" = sel.toList := hsel
  rw [Bap.entriesOf_single hlist h.confirm hselect']
  exact congrArg (fun x => [x]) (policyEntry_received hconfirm hselect htotal hidv t receivedAt)

/-- What the BPP answers to an init, a confirm and a select is what the BAP finds: the total to pay, that the policy is
active, and the entry of the policy in the history. -/
theorem responses_decode (s₁ : Bap.ClientService) (s₂ : Bpp.BecknService) (k : Bpp.BppConfig) (h : Bpp.Reachable s₂ k) :
    (∀ d req payload, k.world.request? d = some (.init req) → Bpp.Answered k.world d "on_init" payload →
        |(Bpp.initBreakup req).totalIDR| ≤ 2 ^ 53 →
          (Bap.enrich s₁ (receivedFields payload)).Yields fun enriched =>
            Bap.extractTotalIDRFromOnInit enriched = (Bpp.initBreakup req).totalIDR) ∧
      ∀ d req confirm, k.world.request? d = some (.confirm req) → Bpp.Answered k.world d "on_confirm" confirm →
        confirm.has "error" = false →
          Bap.extractPolicyStateFromOnConfirm (receivedFields confirm) = "ACTIVE" ∧
            ∃ issued, Issues k.world d req issued ∧
              ∀ d' req' select, k.world.request? d' = some (.select req') →
                Bpp.Answered k.world d' "on_select" select → |(Bpp.selectBreakup req').totalIDR| ≤ 2 ^ 53 →
                  |(Bpp.selectInput req').idvIDR| ≤ 2 ^ 53 →
                    ∀ db t receivedAt, Snapshots db t confirm select receivedAt →
                      ∀ c entries, Bap.listPolicies c db = .ok entries →
                        Bap.entriesOf entries t =
                          [listedPolicy t receivedAt issued (Bpp.selectInput req') (Bpp.selectBreakup req')] := by
  constructor
  · intro d req payload hd ha hn
    have hsent : Bpp.Responds (Bpp.handler s₂ (.init req)) "on_init" fun payload =>
        Bpp.totalAmountOf payload = some ((Bpp.initBreakup req).totalIDR : ℚ) := by
      rw [Bpp.handleInit_responds_iff]
      intro _ t₁ t₂
      rfl
    have htotal := answered_of_responds h hsent hd ha
    refine Prog.Yields.mono (enrich_keeps_total s₁ (receivedFields payload)) ?_
    intro enriched henriched
    exact extractTotalIDR_received htotal hn henriched
  · intro d req confirm hd ha he
    obtain ⟨issued, hissued, hconfirm⟩ := confirmOf_answered h hd ha he
    refine ⟨extractPolicyState_received hconfirm, issued, hissued, ?_⟩
    intro d' req' select hd' ha' htotal hidv db t receivedAt hsnapshots c entries hlist
    have hquoted : Bpp.Responds (Bpp.handler s₂ (.select req')) "on_select" fun payload =>
        QuoteOf payload (Bpp.selectInput req') (Bpp.selectBreakup req') := by
      refine (Bpp.handleSelect_responds_iff binary64 s₂ req' _).2 ?_
      intro now t₁ t₂
      exact ⟨_, _, _, rfl⟩
    have hselect := answered_of_responds h hquoted hd' ha'
    exact entriesOf_received hconfirm hselect htotal hidv hsnapshots hlist

/-- A policy is issued, and then quoted once more. -/
private def quotedRun : Bpp.BppConfig :=
  (Bpp.machine {}).serve (Bpp.issuedRun "txn-0001")
    (.select (Bpp.selectMessage "MOTOR_COMPREHENSIVE" "ZONE_1" 100000000)) fun _ => {}

private theorem quotedRun_reachable : Bpp.Reachable {} quotedRun :=
  (Bpp.issuedRun_reachable "txn-0001").trans (Machine.serve_runs ..)

private def runContext (action : String) : Fields :=
  Bpp.responseContext {} (Bpp.contextOf (Bpp.bareMessage "txn-0001")) action Time.zero Time.zero

private def runInit : Fields :=
  Bpp.onInit (runContext "on_init") "txn-0001" (Bpp.initBreakup (Bpp.bareMessage "txn-0001"))

private def runConfirm : Fields :=
  Bpp.onConfirm (runContext "on_confirm") "txn-0001" (Bpp.newlyIssued (.ok 0) Time.zero Time.zero)
    ⟨"DOKU_VA", "ins-txn-0001", 0⟩ ((Bpp.comprehensiveZone3 0).toOption.getD {})

private def runSelect : Fields :=
  let req := Bpp.selectMessage "MOTOR_COMPREHENSIVE" "ZONE_1" 100000000
  Bpp.onSelect (runContext "on_select") "txn-0001" (Bpp.selectInput req) (Bpp.selectBreakup req) (Time.zero.addDays 2)

/-- The BAP has stored both messages. -/
private def runSnapshots : Bap.Db :=
  { snapshots := [⟨"txn-0001", "on_select", receivedFields runSelect, Time.zero⟩,
      ⟨"txn-0001", "on_confirm", receivedFields runConfirm, Time.zero⟩] }

theorem responses_decode_issued :
    (Bap.enrich {} (receivedFields runInit)).Yields (fun enriched => Bap.extractTotalIDRFromOnInit enriched = 160000) ∧
      Bap.extractPolicyStateFromOnConfirm (receivedFields runConfirm) = "ACTIVE" ∧
      ∃ issued, Issues quotedRun.world 2 (Bpp.bareMessage "txn-0001") issued ∧
        ∀ entries, Bap.listPolicies {} runSnapshots = .ok entries → Bap.entriesOf entries "txn-0001" =
          [listedPolicy "txn-0001" Time.zero issued ⟨"MOTOR_COMPREHENSIVE", "ZONE_1", 100000000⟩
            (Bpp.selectBreakup (Bpp.selectMessage "MOTOR_COMPREHENSIVE" "ZONE_1" 100000000))] := by
  obtain ⟨hinits, hconfirms⟩ := responses_decode {} {} quotedRun quotedRun_reachable
  have hinit := hinits 0 (Bpp.bareMessage "txn-0001") runInit rfl ⟨.status 200, List.mem_of_getElem? (i := 0) rfl⟩
    (by decide +kernel)
  have hamount : (Bpp.initBreakup (Bpp.bareMessage "txn-0001")).totalIDR = 160000 := by decide +kernel
  rw [hamount] at hinit
  obtain ⟨hstate, issued, hissued, hentries⟩ := hconfirms 2 (Bpp.bareMessage "txn-0001") runConfirm rfl
    ⟨.status 200, List.mem_of_getElem? (i := 0) rfl⟩ rfl
  refine ⟨hinit, hstate, issued, hissued, fun entries hlist => ?_⟩
  exact hentries 3 (Bpp.selectMessage "MOTOR_COMPREHENSIVE" "ZONE_1" 100000000) runSelect rfl
    ⟨.status 200, List.mem_of_getElem? (i := 0) rfl⟩ (by decide +kernel) (by decide +kernel) runSnapshots "txn-0001" Time.zero
    ⟨rfl, Time.zero, rfl⟩ {} entries hlist

end IonInsurance.Network
