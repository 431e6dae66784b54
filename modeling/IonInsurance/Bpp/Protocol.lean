import IonInsurance.Interleave.Protocol
import IonInsurance.Bpp.Handlers

/-!
# The protocol of the BPP

`MayAsk s r h o` says that the handler of the delivery `r` may ask `o` after the exchanges `h`, and `Returns` what it
has done when it returns.  `protocol` proves it for every handler; what follows about the service is derived from it
and from what single operations do to the tables.
-/

namespace IonInsurance.Bpp

open Interleave

abbrev BppWorld := World Db Request Op Op.Ans

abbrev BppConfig := Config Db Request Op Op.Ans (Except String Unit)

abbrev Exchange := Prog.Exchange Op Op.Ans

/-- The exchanges of one delivery, latest first. -/
abbrev History := List Exchange

abbrev Op.answered (o : Op) (a : o.Ans) : Exchange := ⟨o, a⟩

/-- The transaction that a delivery is about. -/
def Request.transaction : Request → String
  | .search req | .select req | .init req | .confirm req | .status req | .cancel req | .rate req | .support req
  | .reconcile req => transactionID req
  | .paymentReceived invoiceNumber _ _ => trimPrefix invoiceNumber "ins-"
  | .simulatePayment txnID => txnID

/-- The response to a delivery, where its contents do not matter below. -/
def Request.response : Request → Option String
  | .search _ => some "on_discover"
  | .select _ => some "on_select"
  | .init _ => some "on_init"
  | .status _ => some "on_status"
  | .cancel _ => some "on_cancel"
  | .rate _ => some "on_rate"
  | .support _ => some "on_support"
  | .confirm _ | .reconcile _ | .paymentReceived .. | .simulatePayment _ => none

/-- The upsert of `HandleInit`. -/
def initUpsert (s : BecknService) (req : Fields) : Op :=
  .insertPolicy (transactionID req) ((contextOf req).get "bap_id").text s.bppID (initInput req).nik (initInput req).vin
    (initInput req).idvIDR ("ins-" ++ transactionID req)

/-- The texts of an init, as the columns store them. -/
def initTexts (s : BecknService) (req : Fields) : Option PolicyTexts :=
  policyTexts (transactionID req) ((contextOf req).get "bap_id").text s.bppID (initInput req).nik (initInput req).vin
    ("ins-" ++ transactionID req)

/-- The update of `HandleConfirm`. -/
def issueUpdate (req : Fields) (issued : Issued) : Op :=
  .activatePolicy issued.policyNumber issued.certURL issued.coverageStart issued.coverageEnd (transactionID req)

/-- The `on_confirm` for an issued policy, at the two clock readings it takes. -/
def sentConfirm (s : BecknService) (req : Fields) (idv : Int) (issued : Issued) (payment : PaymentProof)
    (t₁ t₂ : Time) : Op :=
  .post .onixBPPCaller "on_confirm" (onConfirm (responseContext s (contextOf req) "on_confirm" t₁ t₂)
    (transactionID req) issued payment ((comprehensiveZone3 idv).toOption.getD {}))

/-- A confirm has read `row`. -/
abbrev readForConfirm (req : Fields) (row : ConfirmRow) : Exchange :=
  (Op.selectForConfirm (transactionID req)).answered (.ok row)

/-- The row is paid and not issued. -/
structure ConfirmRow.Issuable (row : ConfirmRow) : Prop where
  unissued : row.status ≠ .active
  paid : row.paymentReceived = true

/-- A confirm has read an issuable row and has numbered the policy. -/
abbrev numbered (req : Fields) (row : ConfirmRow) (count : Except String Nat) (now coverageStart : Time) : History :=
  [Op.now.answered coverageStart, Op.now.answered now, Op.countActive.answered count, readForConfirm req row]

/-- The delivery `r`, after the exchanges `h`, handles the payment of `ins-{t}`. -/
inductive Notifies : Request → History → (t requestID : String) → (amount : ℚ) → Prop where
  | received (t requestID : String) (amount : ℚ) :
      Notifies (.paymentReceived ("ins-" ++ t) requestID amount) [] t requestID amount
  | simulated (t : String) (idv : Except String Int) :
      Notifies (.simulatePayment t) [(Op.selectIDV t).answered idv] t "" (simulatedAmount (idv.toOption.getD 0))

theorem Notifies.transaction {r : Request} {h : History} {t rid : String} {amount : ℚ}
    (hn : Notifies r h t rid amount) : r.transaction = t := by
  cases hn with
  | received => exact trimPrefix_append "ins-" t
  | simulated => rfl

/-- The request id that a payment stores, if it has one. -/
def storedRequestID (requestID : String) : Option String := if requestID = "" then none else some requestID

inductive MayAsk (s : BecknService) : Request → History → Op → Prop where
  | now (r : Request) (h : History) : MayAsk s r h .now
  | respond {r : Request} {action : String} (hr : r.response = some action) (h : History) (payload : Fields) :
      MayAsk s r h (.post .onixBPPCaller action payload)
  | catalogue (req : Fields) : MayAsk s (.search req) [] .queryMatchingResources
  | upsert (req : Fields) (hnik : (initInput req).nik = "" ∨ nikRegex (initInput req).nik = true) :
      MayAsk s (.init req) [] (initUpsert s req)
  | readPolicy (req : Fields) : MayAsk s (.confirm req) [] (.selectForConfirm (transactionID req))
  | readPayment (req : Fields) (row : ConfirmRow) (ha : row.status = .active) :
      MayAsk s (.confirm req) [readForConfirm req row] (.selectPayment row.policyID)
  | resend (req : Fields) (row : ConfirmRow) (ha : row.status = .active) (paid : Except String (String × String × Int))
      (t₁ t₂ : Time) :
      MayAsk s (.confirm req)
        [Op.now.answered t₂, Op.now.answered t₁, (Op.selectPayment row.policyID).answered paid,
          readForConfirm req row]
        (sentConfirm s req row.idv row.issued (recordedPayment req paid) t₁ t₂)
  | reject (req : Fields) (row : ConfirmRow) (ha : row.status ≠ .active) (hp : row.paymentReceived = false)
      (t₁ t₂ : Time) :
      MayAsk s (.confirm req) [Op.now.answered t₂, Op.now.answered t₁, readForConfirm req row]
        (.post .onixBPPCaller "on_confirm"
          (paymentNotReceived (responseContext s (contextOf req) "on_confirm" t₁ t₂)))
  | count (req : Fields) (row : ConfirmRow) (hrow : row.Issuable) :
      MayAsk s (.confirm req) [readForConfirm req row] .countActive
  | issue (req : Fields) (row : ConfirmRow) (hrow : row.Issuable) (count : Except String Nat)
      (now coverageStart : Time) :
      MayAsk s (.confirm req) (numbered req row count now coverageStart)
        (issueUpdate req (newlyIssued count now coverageStart))
  | recordConfirm (req : Fields) (row : ConfirmRow) (hrow : row.Issuable) (count : Except String Nat)
      (now coverageStart : Time) :
      MayAsk s (.confirm req)
        ((issueUpdate req (newlyIssued count now coverageStart)).answered (.ok ()) ::
          numbered req row count now coverageStart)
        (.insertPayment row.policyID (confirmPayment req row).method (confirmPayment req row).ref
          (confirmPayment req row).amount)
  | send (req : Fields) (row : ConfirmRow) (hrow : row.Issuable) (count : Except String Nat)
      (now coverageStart : Time) (recorded : Except String Unit) (t₁ t₂ : Time) :
      MayAsk s (.confirm req)
        (Op.now.answered t₂ :: Op.now.answered t₁ ::
          (Op.insertPayment row.policyID (confirmPayment req row).method (confirmPayment req row).ref
            (confirmPayment req row).amount).answered recorded ::
          (issueUpdate req (newlyIssued count now coverageStart)).answered (.ok ()) ::
          numbered req row count now coverageStart)
        (sentConfirm s req row.idv (newlyIssued count now coverageStart) (confirmPayment req row) t₁ t₂)
  | readIDV (t : String) : MayAsk s (.simulatePayment t) [] (.selectIDV t)
  | readStatus {r : Request} {h : History} {t rid : String} {amount : ℚ} (hn : Notifies r h t rid amount) :
      MayAsk s r h (.selectStatus t)
  | markPaid {r : Request} {h : History} {t rid : String} {amount : ℚ} (hn : Notifies r h t rid amount) (id : Int)
      (status : PolicyStatus) (ha : status ≠ .active) :
      MayAsk s r ((Op.selectStatus t).answered (.ok (id, status)) :: h) (.markPaid t (storedRequestID rid))
  | recordPayment {r : Request} {h : History} {t rid : String} {amount : ℚ} (hn : Notifies r h t rid amount) (id : Int)
      (status : PolicyStatus) (ha : status ≠ .active) :
      MayAsk s r
        ((Op.markPaid t (storedRequestID rid)).answered (.ok ()) ::
          (Op.selectStatus t).answered (.ok (id, status)) :: h)
        (.insertPayment id "DOKU_VA" ("ins-" ++ t) (int64 amount))
  | readForRelease (req : Fields) : MayAsk s (.reconcile req) [] (.selectForRelease (transactionID req))
  | release (req : Fields) (row : Except String (String × Int)) :
      MayAsk s (.reconcile req) [(Op.selectForRelease (transactionID req)).answered row]
        (.post .ionService "settlement/release" (releaseFor s req row))
  | settle (req : Fields) (row : Except String (String × Int)) (reply : Reply) :
      MayAsk s (.reconcile req)
        [(Op.post .ionService "settlement/release" (releaseFor s req row)).answered reply,
          (Op.selectForRelease (transactionID req)).answered row]
        (.markSettled (transactionID req))
  | agree (req : Fields) (row : Except String (String × Int)) (reply : Reply) (settled : Except String Unit)
      (t₁ t₂ : Time) :
      MayAsk s (.reconcile req)
        [Op.now.answered t₂, Op.now.answered t₁, (Op.markSettled (transactionID req)).answered settled,
          (Op.post .ionService "settlement/release" (releaseFor s req row)).answered reply,
          (Op.selectForRelease (transactionID req)).answered row]
        (.post .bapWebhook "on_reconcile" (onReconcile (responseContext s (contextOf req) "on_reconcile" t₁ t₂)
          (reconcileInput req).invoiceNumber))
  | readForStatus (req : Fields) : MayAsk s (.status req) [] (.selectForStatus (transactionID req))
  | cancel (req : Fields) : MayAsk s (.cancel req) [] (.cancelPending (transactionID req))
  | readRated (req : Fields) : MayAsk s (.rate req) [] (.selectID (transactionID req))
  | rate (req : Fields) (id : Except String Int) :
      MayAsk s (.rate req) [(Op.selectID (transactionID req)).answered id]
        (.insertRating (id.toOption.getD 0) (rateInput req).score (rateInput req).feedback)
  | readSupported (req : Fields) : MayAsk s (.support req) [] (.selectID (transactionID req))
  | openTicket (req : Fields) (id : Except String Int) :
      MayAsk s (.support req) [(Op.selectID (transactionID req)).answered id]
        (.insertTicket (id.toOption.filter fun id => id > 0) (supportInput req))

/-! ### What a delivery stores -/

/-- A statement on the way to a payment has failed. -/
def Exchange.failed : Exchange → Bool
  | ⟨.markPaid .., .error _⟩ => true
  | ⟨.activatePolicy .., .error _⟩ => true
  | ⟨.insertPayment .., .error _⟩ => true
  | _ => false

/-- The policy id and the amount of a stored payment. -/
def Exchange.stored? : Exchange → Option (Int × Int)
  | ⟨.insertPayment id _ _ amount, .ok _⟩ => some (id, amount)
  | _ => none

/-- The row of a policy that a notification or a confirm has read before it was issued. -/
def Exchange.unissued? : Exchange → Option Int
  | ⟨.selectStatus _, .ok (id, status)⟩ => if status = .active then none else some id
  | ⟨.selectForConfirm _, .ok row⟩ => if row.status ≠ .active ∧ row.paymentReceived then some row.policyID else none
  | _ => none

/-- The insured value that a simulated payment has read. -/
def History.idv (h : History) : Int :=
  (h.findSome? fun
    | ⟨.selectIDV _, .ok idv⟩ => some idv
    | _ => none).getD 0

/-- The amount that a delivery stores when it takes a payment. -/
def Request.amount (h : History) : Request → Int
  | .confirm req => (confirmInput req).amount
  | .paymentReceived _ _ amount => int64 amount
  | .simulatePayment _ => int64 (simulatedAmount h.idv)
  | _ => 0

/-- A delivery stores one payment if it has read an unissued policy and no statement fails, and otherwise none. -/
def Accounted (r : Request) (h : History) : Prop :=
  h.filterMap Exchange.stored? =
    if h.any Exchange.failed then [] else (h.filterMap Exchange.unissued?).map fun id => (id, r.amount h)

theorem Accounted.of_failed {r : Request} {h : History} (hs : h.filterMap Exchange.stored? = [])
    (hf : h.any Exchange.failed = true) : Accounted r h := by
  unfold Accounted
  rw [hs, if_pos hf]

theorem Accounted.of_read_none {r : Request} {h : History} (hs : h.filterMap Exchange.stored? = [])
    (hu : h.filterMap Exchange.unissued? = []) : Accounted r h := by
  unfold Accounted
  rw [hs, hu, List.map_nil, ite_self]

theorem Accounted.of_stored {r : Request} {h : History} {id : Int}
    (hs : h.filterMap Exchange.stored? = [(id, r.amount h)]) (hf : h.any Exchange.failed = false)
    (hu : h.filterMap Exchange.unissued? = [id]) : Accounted r h := by
  have hfailed : ¬h.any Exchange.failed = true := by simp [hf]
  unfold Accounted
  rw [hs, hu, if_neg hfailed]
  rfl

/-! ### The handlers follow the protocol -/

section

variable {s : BecknService} {r : Request} {h : History}

/-- A response takes two readings of the clock and one request to the network. -/
private theorem respond_follows {req : Fields} {action : String} {response : Fields → Fields}
    (hpost : ∀ t₁ t₂, MayAsk s r (Op.now.answered t₂ :: Op.now.answered t₁ :: h)
      (.post .onixBPPCaller action (response (responseContext s (contextOf req) action t₁ t₂))))
    (hret : Accounted r h) : (respond s req action response).Follows (MayAsk s r) (fun h _ => Accounted r h) h := by
  refine Prog.follows_call (.now ..) fun t₁ => Prog.follows_call (.now ..) fun t₂ => ?_
  refine Prog.follows_call (hpost t₁ t₂) fun reply => ?_
  cases reply <;> exact hret

private theorem handleInit_follows (req : Fields) :
    (handleInit s req).Follows (MayAsk s (.init req)) (fun h _ => Accounted (.init req) h) [] := by
  unfold handleInit
  dsimp only
  split
  · exact rfl
  · rename_i hn
    have hnik : (initInput req).nik = "" ∨ nikRegex (initInput req).nik = true := by
      by_cases h : (initInput req).nik = ""
      · exact .inl h
      · exact .inr (by simpa [h] using hn)
    refine Prog.follows_call (.upsert req hnik) fun r => ?_
    change Except String Int at r
    cases r with
    | error err => exact rfl
    | ok id' => exact respond_follows (fun _ _ => .respond rfl ..) rfl

private theorem handleConfirm_follows (req : Fields) :
    (handleConfirm s req).Follows (MayAsk s (.confirm req)) (fun h _ => Accounted (.confirm req) h) [] := by
  refine Prog.follows_call (.readPolicy req) fun r => ?_
  change Except String ConfirmRow at r
  cases r with
  | error err => exact rfl
  | ok row =>
    dsimp only
    split
    · -- the policy has been issued, and its `on_confirm` is sent again
      rename_i ha
      refine Prog.follows_call (.readPayment req row ha) fun paid =>
        respond_follows (fun t₁ t₂ => .resend req row ha paid t₁ t₂) ?_
      have hread : (readForConfirm req row).unissued? = none := if_neg fun h => h.1 ha
      have hnone : [readForConfirm req row].filterMap Exchange.unissued? = [] := List.filterMap_cons_none hread
      exact .of_read_none rfl hnone
    · rename_i ha
      split
      · -- the policy is paid, and is issued now
        rename_i hp
        refine Prog.follows_call (.count req row ⟨ha, hp⟩) fun count => ?_
        refine Prog.follows_call (.now ..) fun now => Prog.follows_call (.now ..) fun coverageStart => ?_
        refine Prog.follows_call (.issue req row ⟨ha, hp⟩ count now coverageStart) fun r => ?_
        change Except String Unit at r
        cases r with
        | error err => exact rfl
        | ok _ =>
          refine Prog.follows_call (.recordConfirm req row ⟨ha, hp⟩ count now coverageStart) fun recorded =>
            respond_follows (fun t₁ t₂ => .send req row ⟨ha, hp⟩ count now coverageStart recorded t₁ t₂) ?_
          change Except String Unit at recorded
          cases recorded with
          | error err => exact rfl
          | ok _ =>
            have hread : (readForConfirm req row).unissued? = some row.policyID := if_pos ⟨ha, hp⟩
            have hone : [readForConfirm req row].filterMap Exchange.unissued? = [row.policyID] :=
              List.filterMap_cons_some hread
            exact .of_stored rfl rfl hone
      · -- the confirm is rejected
        rename_i hp
        refine respond_follows (fun t₁ t₂ => .reject req row ha (by simpa using hp) t₁ t₂) ?_
        have hread : (readForConfirm req row).unissued? = none := if_neg fun h => hp h.2
        have hnone : [readForConfirm req row].filterMap Exchange.unissued? = [] := List.filterMap_cons_none hread
        exact .of_read_none rfl hnone

/-- A notification has read the row of a policy. -/
private abbrev readStatus (t : String) (id : Int) (status : PolicyStatus) : Exchange :=
  (Op.selectStatus t).answered (.ok (id, status))

private theorem handlePaymentReceived_follows {t rid : String} {amount : ℚ} (hn : Notifies r h t rid amount) :
    (handlePaymentReceived ("ins-" ++ t) rid amount).Follows (MayAsk s r) (fun h _ => Accounted r h) h := by
  obtain ⟨hstored, hunissued⟩ : h.filterMap Exchange.stored? = [] ∧ h.filterMap Exchange.unissued? = [] := by
    cases hn with
    | received => exact ⟨rfl, rfl⟩
    | simulated t idv => exact ⟨rfl, rfl⟩
  unfold handlePaymentReceived
  rw [hasPrefix_append, if_pos rfl]
  dsimp only
  rw [trimPrefix_append]
  refine Prog.follows_call (.readStatus hn) fun r => ?_
  change Except String (Int × PolicyStatus) at r
  rcases r with err | ⟨id', status⟩
  · exact .of_read_none hstored hunissued
  · have hread : (readStatus t id' status).unissued? = if status = .active then none else some id' := rfl
    dsimp only
    split
    · -- the policy has been issued, and nothing is stored
      rename_i ha
      rw [if_pos ha] at hread
      exact .of_read_none hstored ((List.filterMap_cons_none hread).trans hunissued)
    · rename_i ha
      rw [if_neg ha] at hread
      refine Prog.follows_call (.markPaid hn id' status ha) fun r => ?_
      change Except String Unit at r
      cases r with
      | error err => exact .of_failed hstored rfl
      | ok _ =>
        refine Prog.follows_call (.recordPayment hn id' status ha) fun recorded => ?_
        change Except String Unit at recorded
        cases recorded with
        | error err => exact .of_failed hstored rfl
        | ok _ =>
          have hone : (readStatus t id' status :: h).filterMap Exchange.unissued? = [id'] := by
            rw [List.filterMap_cons_some hread, hunissued]
          cases hn with
          | received => exact .of_stored rfl rfl hone
          | simulated t idv => cases idv <;> exact .of_stored rfl rfl hone

private theorem handleReconcile_follows (req : Fields) :
    (handleReconcile s req).Follows (MayAsk s (.reconcile req)) (fun h _ => Accounted (.reconcile req) h) [] := by
  refine Prog.follows_call (.readForRelease req) fun row => ?_
  refine Prog.Follows.bind (C := fun h _ => ∃ reply, h =
    [(Op.post .ionService "settlement/release" (releaseFor s req row)).answered reply,
      (Op.selectForRelease (transactionID req)).answered row]) ?_ ?_
  · refine Prog.follows_call (.release req row) fun reply => ?_
    change Reply at reply
    cases reply with
    | failed err => exact ⟨_, rfl⟩
    | response status body json =>
      dsimp only
      split <;> exact ⟨_, rfl⟩
  · rintro _ _ ⟨reply, rfl⟩
    refine Prog.follows_call (.settle req row reply) fun settled => ?_
    refine Prog.follows_call (.now ..) fun t₁ => Prog.follows_call (.now ..) fun t₂ => ?_
    exact Prog.follows_call (.agree req row reply settled t₁ t₂) fun _ => rfl

private theorem handler_follows (s : BecknService) (r : Request) :
    (handler s r).Follows (MayAsk s r) (fun h _ => Accounted r h) [] := by
  cases r with
  | search req =>
    exact Prog.follows_call (.catalogue req) fun _ => respond_follows (fun _ _ => .respond rfl ..) rfl
  | select req => exact Prog.follows_call (.now ..) fun _ => respond_follows (fun _ _ => .respond rfl ..) rfl
  | init req => exact handleInit_follows req
  | confirm req => exact handleConfirm_follows req
  | status req =>
    refine Prog.follows_call (.readForStatus req) fun row => ?_
    cases row <;> exact respond_follows (fun _ _ => .respond rfl ..) rfl
  | cancel req => exact Prog.follows_call (.cancel req) fun _ => respond_follows (fun _ _ => .respond rfl ..) rfl
  | rate req =>
    refine Prog.follows_call (.readRated req) fun id' => ?_
    dsimp only
    split
    · exact Prog.follows_call (.rate req id') fun _ => respond_follows (fun _ _ => .respond rfl ..) rfl
    · exact respond_follows (fun _ _ => .respond rfl ..) rfl
  | support req =>
    refine Prog.follows_call (.readSupported req) fun id' => ?_
    exact Prog.follows_call (.openTicket req id') fun _ => respond_follows (fun _ _ => .respond rfl ..) rfl
  | reconcile req => exact handleReconcile_follows req
  | paymentReceived invoiceNumber rid amount =>
    by_cases hp : hasPrefix invoiceNumber "ins-" = true
    · rw [eq_append_of_hasPrefix hp]
      exact handlePaymentReceived_follows (.received ..)
    · change (handlePaymentReceived invoiceNumber rid amount).Follows _ _ _
      unfold handlePaymentReceived
      rw [if_neg hp]
      exact rfl
  | simulatePayment t =>
    exact Prog.follows_call (.readIDV t) fun idv => handlePaymentReceived_follows (.simulated t idv)

end

/-- The handlers of the BPP follow the protocol. -/
def protocol (s : BecknService) : Protocol (machine s) where
  asks := MayAsk s
  returns r h _ := Accounted r h
  follows := handler_follows s

/-! ### Who asks what -/

/-- An activation comes from a confirm that has read an issuable row and has numbered the policy. -/
theorem mayAsk_activate {s : BecknService} {r : Request} {h : History} {number url : String} {a b : Time} {t : String}
    (ho : MayAsk s r h (.activatePolicy number url a b t)) :
    ∃ req row count now coverageStart, row.Issuable ∧ h = numbered req row count now coverageStart ∧
      Op.activatePolicy number url a b t = issueUpdate req (newlyIssued count now coverageStart) := by
  cases ho with
  | issue req row hrow count now coverageStart => exact ⟨req, row, count, now, coverageStart, hrow, rfl, rfl⟩

/-- An `on_confirm` without an error comes from a confirm that has found its policy issued, or has issued it. -/
theorem mayAsk_onConfirm {s : BecknService} {r : Request} {h : History} {payload : Fields}
    (ho : MayAsk s r h (.post .onixBPPCaller "on_confirm" payload)) (he : payload.has "error" = false) :
    ∃ req row issued payment t₁ t₂, r = .confirm req ∧ readForConfirm req row ∈ h ∧
      payload = onConfirm (responseContext s (contextOf req) "on_confirm" t₁ t₂) (transactionID req) issued payment
        ((comprehensiveZone3 row.idv).toOption.getD {}) ∧
      (row.status = .active ∧ issued = row.issued ∨ (issueUpdate req issued).answered (.ok ()) ∈ h) := by
  cases ho with
  | respond hr => cases r <;> simp [Request.response] at hr
  | resend req row ha paid t₁ t₂ =>
    exact ⟨req, row, row.issued, _, t₁, t₂, rfl, by simp, rfl, .inl ⟨ha, rfl⟩⟩
  | reject req row ha hp t₁ t₂ => cases he
  | send req row hrow count now coverageStart recorded t₁ t₂ =>
    exact ⟨req, row, newlyIssued count now coverageStart, _, t₁, t₂, rfl, by simp [numbered], rfl, .inr (by simp)⟩

end IonInsurance.Bpp
