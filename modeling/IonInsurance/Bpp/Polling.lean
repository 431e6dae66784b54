import IonInsurance.Bpp.Settlement

/-!
# What the buyer polls

`PaymentStep` polls `GetPaymentStatus` and lets the buyer confirm once it has said that the payment was received.  The
poll reads one state, and the confirm that follows reads a later one.  Since no operation takes a payment back, the
confirm is not rejected.

The stage that a poll reports goes on from the virtual account to the settlement.  It goes back in two cases only, and
it always does in these: an init that reopens an issued policy, and a payment that comes after a reconcile has settled a
policy that was never issued.
-/

namespace IonInsurance.Bpp

open Interleave

/-! ### Polls -/

/-- A poll that answers has read the row. -/
theorem getPaymentStatus_ok {s : Db} {t : String} {c : Choice} {m : Fields} (h : getPaymentStatus s t c = .ok m) :
    ∃ p, s.policy t = some p ∧ Fields.get m "payment_received" = .bool p.paymentReceived ∧
      Fields.get m "seam_stage" = .str (seamStage p) := by
  unfold getPaymentStatus at h
  cases hc : c.sqlError with
  | some err =>
    rw [hc] at h
    cases h
  | none =>
    rw [hc, statement_none] at h
    unfold Db.selectPolicy at h
    cases hp : s.policy t with
    | none =>
      rw [hp] at h
      cases h
    | some p =>
      rw [hp] at h
      obtain rfl := Except.ok.inj h
      exact ⟨p, rfl, rfl, rfl⟩

theorem paid_of_poll {s : Db} {t : String} {c : Choice} {m : Fields} (h : getPaymentStatus s t c = .ok m)
    (hpaid : Fields.get m "payment_received" = .bool true) : s.Paid t := by
  obtain ⟨p, hp, hreceived, -⟩ := getPaymentStatus_ok h
  rw [hpaid] at hreceived
  exact ⟨p, hp, (Json.bool.inj hreceived).symm⟩

/-! ### Confirms after a payment -/

/-- The response reports an issued policy. -/
def reportsActive (payload : Fields) : Prop :=
  Fields.has payload "error" = false ∧ Fields.get (commitmentAttributes payload) "policyStatus" = .str "ACTIVE"

theorem reportsActive_onConfirm (context : Fields) (txnID : String) (issued : Issued) (payment : PaymentProof)
    (b : PremiumBreakup) : reportsActive (onConfirm context txnID issued payment b) := by
  constructor
  · simp [onConfirm, contractResponse, Fields.has]
  · simp [onConfirm, contractResponse, policyCommitment, commitmentAttributes, contractOf, typed, Json.fields]

/-- The deliveries from the `n`-th on find the payment of `t`, and their confirms are not rejected. -/
structure ConfirmsPaid (n : Nat) (t : String) (w : BppWorld) : Prop where
  paid : w.store.Paid t
  read : ∀ d, n ≤ d → ∀ row, (Op.selectForConfirm t).answered (.ok row) ∈ w.exchanges d → row.paymentReceived = true
  sent : ∀ d, n ≤ d → ∀ req, w.request? d = some (.confirm req) → transactionID req = t →
    ∀ payload reply, (Op.post .onixBPPCaller "on_confirm" payload).answered reply ∈ w.exchanges d →
      reportsActive payload

section

variable {s : BecknService} {n : Nat} {t : String} {w : BppWorld}

/-- A confirm that has read a paid row sends no rejection. -/
theorem reportsActive_of_mayAsk {req payload : Fields} {h : History}
    (hread : ∀ row, readForConfirm req row ∈ h → row.paymentReceived = true)
    (ho : MayAsk s (.confirm req) h (.post .onixBPPCaller "on_confirm" payload)) : reportsActive payload := by
  cases ho with
  | respond hr => cases hr
  | resend => exact reportsActive_onConfirm ..
  | reject _ row _ hp t₁ t₂ =>
    have hpaid := hread row (by simp)
    rw [hp] at hpaid
    cases hpaid
  | send => exact reportsActive_onConfirm ..

theorem confirmsPaid_keeps (s : BecknService) (n : Nat) (t : String) :
    (protocol s).Keeps Machine.anything (ConfirmsPaid n t) where
  start w d r h _ hr he := by
    refine ⟨h.paid, h.read, ?_⟩
    intro e hn req hreq ht payload reply hx
    exact h.sent e hn req (World.request?_of_asked he hreq hx) ht payload reply hx
  exec w d r o c h _ hr ho := by
    refine ⟨h.paid.exec o c, ?_, ?_⟩
    · intro e hn row hx
      rcases Machine.exchange_asked hx with hold | ⟨-, rfl, ha⟩
      · exact h.read e hn row hold
      · obtain ⟨p, hp, rfl⟩ := selectForConfirm_row ha
        obtain ⟨q, hq, hpaid⟩ := h.paid
        obtain rfl := Option.some.inj (hp.symm.trans hq)
        exact hpaid
    · intro e hn req hreq ht payload reply hx
      rcases Machine.exchange_asked hx with hold | ⟨rfl, rfl, -⟩
      · exact h.sent e hn req hreq ht payload reply hold
      · obtain rfl := Option.some.inj (hr.symm.trans hreq)
        subst ht
        exact reportsActive_of_mayAsk (fun row hrow => h.read e hn row hrow) ho

/-- The deliveries that start after the payment find it. -/
theorem confirmsPaid_run {k k' : BppConfig} (h : Reachable s k) (hpaid : k.world.store.Paid t)
    (hrun : (machine s).Runs Machine.anything k k') : ConfirmsPaid k.progs.length t k'.world := by
  have hobeyed : (protocol s).Obeyed k := (Protocol.Obeyed.init _).run h
  refine Protocol.invariant (confirmsPaid_keeps s k.progs.length t) hobeyed ⟨hpaid, ?_, ?_⟩ hrun
  · intro d hd row hx
    rw [(hobeyed.fresh d hd).2] at hx
    cases hx
  · intro d hd req _ _ payload reply hx
    rw [(hobeyed.fresh d hd).2] at hx
    cases hx

end

/-- Once a poll has said that the payment of `t` was received, every later poll that answers says so too, and every
confirm of `t` that is delivered later is answered with the issued policy, if it is answered at all. -/
theorem paid_poll_stands (s : BecknService) {k k' : BppConfig} (h : Reachable s k) {t : String} {c : Choice} {m : Fields}
    (hpoll : getPaymentStatus k.world.store t c = .ok m) (hpaid : Fields.get m "payment_received" = .bool true)
    (hrun : (machine s).Runs Machine.anything k k') :
    (∀ c' m', getPaymentStatus k'.world.store t c' = .ok m' → Fields.get m' "payment_received" = .bool true) ∧
    ∀ d, k.progs.length ≤ d → ∀ req, k'.world.request? d = some (.confirm req) → transactionID req = t →
      ∀ payload reply, (Op.post .onixBPPCaller "on_confirm" payload).answered reply ∈ k'.world.exchanges d →
        reportsActive payload := by
  have hend := confirmsPaid_run h (paid_of_poll hpoll hpaid) hrun
  refine ⟨?_, hend.sent⟩
  intro c' m' hpoll'
  obtain ⟨p, hp, hreceived, -⟩ := getPaymentStatus_ok hpoll'
  obtain ⟨q, hq, hq'⟩ := hend.paid
  obtain rfl := Option.some.inj (hp.symm.trans hq)
  rw [hreceived, hq']

/-- An init and a payment, each served to completion. -/
def paidRun (t : String) : BppConfig :=
  (machine {}).serveAll start [(.init (bareMessage t), fun _ => {}), (.simulatePayment t, fun _ => {})]

private def isOnConfirm : Exchange → Bool
  | ⟨.post .onixBPPCaller action _, _⟩ => action = "on_confirm"
  | _ => false

theorem paid_poll_stands_issued : ∃ payload reply,
    (Op.post .onixBPPCaller "on_confirm" payload).answered reply ∈ (issuedRun "t").world.exchanges 2 ∧
      reportsActive payload := by
  have hsent : ((issuedRun "t").world.exchanges 2).any isOnConfirm = true := by decide +kernel
  have hpoll : getPaymentStatus (paidRun "t").world.store "t" {} = .ok
      [("transaction_id", .str "t"), ("policy_status", .str "PENDING_ISSUANCE"), ("payment_received", .bool true),
       ("doku_invoice_number", .str "ins-t"), ("doku_va_number", .str ""), ("reconcile_status", .str "PENDING"),
       ("seam_stage", .str "Stage 2 — Funds Held at DOKU (awaiting confirm)")] := rfl
  have hrun : (machine {}).Runs Machine.anything (paidRun "t") (issuedRun "t") := Machine.serve_runs ..
  obtain ⟨-, hconfirm⟩ := paid_poll_stands {} (Machine.serveAll_runs ..) hpoll rfl hrun
  obtain ⟨x, hx, hpost⟩ := List.any_eq_true.1 hsent
  obtain ⟨o, reply⟩ := x
  cases o with
  | post peer action payload =>
    cases peer with
    | onixBPPCaller =>
      obtain rfl : action = "on_confirm" := of_decide_eq_true hpost
      refine ⟨payload, reply, hx, hconfirm 2 (Nat.le_refl 2) (bareMessage "t") ?_ rfl payload reply hx⟩
      exact Machine.serve_request? ..
    | _ => cases hpost
  | _ => cases hpost

/-! ### The stages of a settlement -/

/-- The stages that a poll can report. -/
inductive SeamStage : Type where
  | vaCreated
  | fundsHeld
  | policyActive
  | settled
  deriving DecidableEq

/-- The text of a stage. -/
def SeamStage.label : SeamStage → String
  | vaCreated => "Stage 1 — VA Created (awaiting payment)"
  | fundsHeld => "Stage 2 — Funds Held at DOKU (awaiting confirm)"
  | policyActive => "Stage 3+4 — Policy Active (reconcile pending)"
  | settled => "Stage 5 — Settled (funds released with splits)"

/-- The number of a stage; the third text stands for two. -/
def SeamStage.rank : SeamStage → Nat
  | vaCreated => 1
  | fundsHeld => 2
  | policyActive => 3
  | settled => 5

/-- The stage of a row: an issued policy is active until it is settled, and any other row has its funds held once it is
paid. -/
def Policy.stage (p : Policy) : SeamStage :=
  if p.status = .active then
    if p.reconcileStatus = "SETTLED" then .settled else .policyActive
  else if p.paymentReceived then .fundsHeld
  else if p.reconcileStatus = "SETTLED" then .settled
  else .vaCreated

/-- `GetPaymentStatus` reports this stage. -/
theorem seamStage_eq (p : Policy) : seamStage p = p.stage.label := by
  unfold seamStage Policy.stage
  by_cases ha : p.status = .active
  · by_cases hs : p.reconcileStatus = "SETTLED" <;> simp [ha, hs, SeamStage.label]
  · cases hp : p.paymentReceived <;> by_cases hs : p.reconcileStatus = "SETTLED" <;> simp [ha, hs, SeamStage.label]

/-- The operations that take the stage of the row `p` of `t` back. -/
inductive TakesBack (t : String) (p : Policy) : Op → Prop where
  | reopen {txnID bapID bppID nik vin : String} (idv : Int) {invoice : String} {x : PolicyTexts}
      (hx : policyTexts txnID bapID bppID nik vin invoice = some x) (ht : x.txnID = t) (ha : p.status = .active) :
      TakesBack t p (.insertPolicy txnID bapID bppID nik vin idv invoice)
  | latePayment (rid : Option String) (hs : p.stage = .settled) (ha : p.status ≠ .active) :
      TakesBack t p (.markPaid t rid)

/-- The stage of a row that is not active depends on its payment and on its settlement. -/
theorem stage_eq_of_inactive {p q : Policy} (hp : p.status ≠ .active) (hq : q.status ≠ .active)
    (hpaid : p.paymentReceived = q.paymentReceived) (hs : p.reconcileStatus = q.reconcileStatus) : p.stage = q.stage := by
  unfold Policy.stage
  rw [if_neg hp, if_neg hq, hpaid, hs]

/-- The row of a settlement that was never issued is not paid. -/
theorem unpaid_of_stage {p : Policy} (hs : p.stage = .settled) (ha : p.status ≠ .active) : p.paymentReceived = false := by
  cases hp : p.paymentReceived with
  | false => rfl
  | true => simp [Policy.stage, ha, hp] at hs

/-- A change of a row goes back exactly if it reopens an issued policy or pays a settled one that was not issued. -/
theorem RowStep.stage_back_iff {t : String} {o : Op} {p p' : Policy} (h : RowStep t o (some p) (some p'))
    (hpaid : p.status = .active → p.paymentReceived = true) :
    p'.stage.rank < p.stage.rank ↔ TakesBack t p o ∧ p' ≠ p := by
  have hstays : p'.stage = p.stage → ¬TakesBack t p o →
      (p'.stage.rank < p.stage.rank ↔ TakesBack t p o ∧ p' ≠ p) := by
    intro heq hn
    rw [heq]
    exact ⟨fun hlt => absurd hlt (Nat.lt_irrefl _), fun hb => absurd hb.1 hn⟩
  cases h with
  | keep => exact ⟨fun hlt => absurd hlt (Nat.lt_irrefl _), fun hb => absurd rfl hb.2⟩
  | @reinit _ _ _ _ _ _ idv _ x hx ht =>
    by_cases ha : p.status = .active
    · -- an active row is paid, so its funds are held again
      have hback : (p.reinit x.invoice).stage = .fundsHeld := by simp [Policy.stage, Policy.reinit, hpaid ha]
      have hbefore : 2 < p.stage.rank := by
        unfold Policy.stage
        rw [if_pos ha]
        split <;> decide
      have hne : p.reinit x.invoice ≠ p := by
        intro heq
        have hstatus := congrArg Policy.status heq
        rw [ha] at hstatus
        cases hstatus
      rw [hback]
      exact ⟨fun _ => ⟨.reopen idv hx ht ha, hne⟩, fun _ => hbefore⟩
    · refine hstays (stage_eq_of_inactive ?_ ha rfl rfl) ?_
      · intro hpending
        cases hpending
      · intro hb
        cases hb with
        | reopen _ _ _ ha' => exact ha ha'
  | activate _ number url a b =>
    refine ⟨?_, ?_⟩
    · intro hlt
      exfalso
      -- an activation leads to the two highest stages
      by_cases hs : p.reconcileStatus = "SETTLED" <;> by_cases ha : p.status = .active <;>
        cases hp : p.paymentReceived <;> simp [Policy.stage, Policy.activate, hs, ha, hp, SeamStage.rank] at hlt
    · intro hb
      cases hb.1
  | paid _ rid =>
    have hafter : (p.markPaid rid).stage = if p.status = .active then p.stage else .fundsHeld := by
      cases rid <;> by_cases ha : p.status = .active <;> simp [Policy.stage, Policy.markPaid, ha]
    by_cases ha : p.status = .active
    · refine hstays (by rw [hafter, if_pos ha]) ?_
      intro hb
      cases hb with
      | latePayment _ _ ha' => exact ha' ha
    · rw [hafter, if_neg ha]
      constructor
      · intro hlt
        have hs : p.stage = .settled := by
          cases hst : p.stage <;> rw [hst] at hlt
          · exact absurd hlt (by decide)
          · exact absurd hlt (by decide)
          · simp only [Policy.stage, ha, if_false] at hst
            split at hst
            · cases hst
            · split at hst <;> cases hst
        refine ⟨.latePayment rid hs ha, ?_⟩
        intro heq
        have hreceived := congrArg Policy.paymentReceived heq
        rw [unpaid_of_stage hs ha] at hreceived
        cases rid <;> cases hreceived
      · rintro ⟨hb, -⟩
        cases hb with
        | latePayment _ hs _ =>
          rw [hs]
          decide
  | cancel _ hp =>
    refine hstays (stage_eq_of_inactive ?_ ?_ rfl rfl) ?_
    · intro hcancelled
      cases hcancelled
    · rw [hp]
      decide
    · intro hb
      cases hb
  | settle =>
    refine ⟨?_, ?_⟩
    · intro hlt
      exfalso
      by_cases ha : p.status = .active <;> by_cases hs : p.reconcileStatus = "SETTLED" <;>
        cases hp : p.paymentReceived <;> simp [Policy.stage, Policy.settle, hs, ha, hp, SeamStage.rank] at hlt
    · intro hb
      cases hb.1

/-- A row that is there stays. -/
theorem RowStep.row_stays {t : String} {o : Op} {p : Policy} {p' : Option Policy} (h : RowStep t o (some p) p') :
    ∃ q, p' = some q := by
  cases h <;> exact ⟨_, rfl⟩

/-- The steps that do not take the stage of `t` back. -/
def Onward (t : String) (w : BppWorld) : Action Choice Request Op → Prop
  | .start _ => True
  | .exec _ o _ => ∀ p, w.store.policy t = some p → ¬TakesBack t p o

section

variable {s : BecknService} {k k' : BppConfig} {t : String} {p : Policy}

theorem paid_of_active (h : Reachable s k) (hp : k.world.store.policy t = some p) (ha : p.status = .active) :
    p.paymentReceived = true :=
  (reachable_activeComplete h t p hp ha).paid

/-- Without a step that takes it back, the stage of a row goes on. -/
theorem stage_onward (h : Reachable s k) (hp : k.world.store.policy t = some p)
    (hrun : (machine s).Runs (Onward t) k k') :
    ∃ p', k'.world.store.policy t = some p' ∧ p.stage.rank ≤ p'.stage.rank := by
  induction hrun with
  | refl => exact ⟨p, hp, Nat.le_refl _⟩
  | @tail k₁ _ hrun hs ih =>
    obtain ⟨p₁, hp₁, hle⟩ := ih
    cases hs with
    | start r hK => exact ⟨p₁, hp₁, hle⟩
    | @exec d o next c hnext hK =>
      have hreach : Reachable s k₁ := h.trans (Machine.Runs.mono (fun _ _ _ => trivial) hrun)
      have hstep := exec_rowStep o c k₁.world.store t
      rw [hp₁] at hstep
      obtain ⟨p₂, hp₂⟩ := hstep.row_stays
      rw [hp₂] at hstep
      have hback := hstep.stage_back_iff (paid_of_active hreach hp₁)
      have hon : ¬p₂.stage.rank < p₁.stage.rank := fun hlt => hK p₁ hp₁ (hback.1 hlt).1
      exact ⟨p₂, hp₂, hle.trans (Nat.le_of_not_lt hon)⟩

end

/-- The stage that polls report goes on in every run in which no init reopens the issued policy and no payment comes
after a settlement of a policy that was not issued; each such step that changes the row takes the stage back. -/
theorem polled_stage_onward (s : BecknService) {k : BppConfig} (h : Reachable s k) (t : String) :
    (∀ k', (machine s).Runs (Onward t) k k' → ∀ c c' m m', getPaymentStatus k.world.store t c = .ok m →
      getPaymentStatus k'.world.store t c' = .ok m' → ∃ a b : SeamStage, Fields.get m "seam_stage" = .str a.label ∧
        Fields.get m' "seam_stage" = .str b.label ∧ a.rank ≤ b.rank) ∧
    ∀ d o c p p', k.world.store.policy t = some p → ((machine s).asked k.world d o c).store.policy t = some p' →
      TakesBack t p o → p' ≠ p → p'.stage.rank < p.stage.rank := by
  constructor
  · intro k' hrun c c' m m' hpoll hpoll'
    obtain ⟨p, hp, -, hstage⟩ := getPaymentStatus_ok hpoll
    obtain ⟨p', hp', -, hstage'⟩ := getPaymentStatus_ok hpoll'
    obtain ⟨q, hq, hle⟩ := stage_onward h hp hrun
    obtain rfl := Option.some.inj (hp'.symm.trans hq)
    rw [seamStage_eq] at hstage hstage'
    exact ⟨p.stage, p'.stage, hstage, hstage', hle⟩
  · intro d o c p p' hp hp' hback hne
    have hstep := exec_rowStep o c k.world.store t
    change (exec o c k.world.store).2.policy t = some p' at hp'
    rw [hp, hp'] at hstep
    exact (hstep.stage_back_iff (paid_of_active h hp)).2 ⟨hback, hne⟩

/-- No init writes, and no payment comes after a settlement. -/
private def onwardTest (w : BppWorld) : Action Choice Request Op → Bool
  | .exec _ (.insertPolicy ..) _ => false
  | .exec _ (.markPaid ..) _ => (w.store.policy "t").all fun p => p.stage ≠ .settled
  | _ => true

private theorem onward_of_test (w : BppWorld) (a : Action Choice Request Op) (h : onwardTest w a = true) :
    Onward "t" w a := by
  cases a with
  | start r => trivial
  | exec d o c =>
    intro p hp hb
    cases hb with
    | reopen => cases h
    | latePayment rid hs ha =>
      have hall : (w.store.policy "t").all (fun p => p.stage ≠ .settled) = true := h
      rw [hp] at hall
      exact of_decide_eq_true hall hs

/-- A confirm takes the paid transaction on, and an init of the issued policy holds its funds again. -/
theorem polled_stage_onward_reopened :
    (∃ k' m m', (machine {}).Runs (Onward "t") (paidRun "t") k' ∧
      getPaymentStatus (paidRun "t").world.store "t" {} = .ok m ∧ getPaymentStatus k'.world.store "t" {} = .ok m' ∧
      ∃ a b : SeamStage, Fields.get m "seam_stage" = .str a.label ∧ Fields.get m' "seam_stage" = .str b.label ∧
        a.rank ≤ b.rank) ∧
    ∃ p p', (issuedRun "t").world.store.policy "t" = some p ∧ p.stage = .policyActive ∧
      ((machine {}).asked (issuedRun "t").world 3 (.insertPolicy "t" "" "" "" "" 0 "ins-t") {}).store.policy "t" =
        some p' ∧
      p'.stage.rank < p.stage.rank := by
  constructor
  · have hrun : ((machine {}).run? onwardTest (paidRun "t")
        (.start (.confirm (bareMessage "t")) :: .replicate 9 (.exec 2 {}))).any (fun k =>
          (k.world.store.policy "t").isSome) = true := by
      decide +kernel
    obtain ⟨k', hk', hrow⟩ := (Option.any_eq_true _ _).1 hrun
    have honward := (Machine.run?_runs hk').mono onward_of_test
    obtain ⟨p, hp⟩ := Option.isSome_iff_exists.1 hrow
    obtain ⟨m', hm'⟩ : ∃ m', getPaymentStatus k'.world.store "t" {} = .ok m' := by
      unfold getPaymentStatus Db.selectPolicy
      rw [hp]
      exact ⟨_, rfl⟩
    exact ⟨k', _, m', honward, rfl, hm',
      (polled_stage_onward {} (Machine.serveAll_runs ..) "t").1 k' honward {} {} _ m' rfl hm'⟩
  · have hbefore : ((issuedRun "t").world.store.policy "t").map (fun p => (p.status, p.stage)) =
        some (.active, .policyActive) := by
      decide +kernel
    have hafter : (((machine {}).asked (issuedRun "t").world 3 (.insertPolicy "t" "" "" "" "" 0 "ins-t")
        {}).store.policy "t").map Policy.status = some .pendingIssuance := by
      decide +kernel
    obtain ⟨p, hp, hactive⟩ := Option.map_eq_some_iff.1 hbefore
    obtain ⟨p', hp', hpending⟩ := Option.map_eq_some_iff.1 hafter
    obtain ⟨ha, hstage⟩ := Prod.mk.inj hactive
    have hne : p' ≠ p := by
      rintro rfl
      rw [ha] at hpending
      cases hpending
    exact ⟨p, p', hp, hstage, hp', (polled_stage_onward {} (issuedRun_reachable "t") "t").2 3 _ _ p p' hp hp'
      (.reopen 0 rfl rfl ha) hne⟩

end IonInsurance.Bpp
