import IonInsurance.Interleave.Compose
import IonInsurance.Bpp.Issuance

/-!
# What the messages of the BPP report

An `on_confirm` without an error leaves the BPP only for a row that is paid and numbered, and no operation takes either
back.  So whoever holds such a message can rely on it, however late it arrives.
-/

namespace IonInsurance.Bpp

open Interleave

/-- The row of `t` is paid and has a policy number. -/
def Db.Numbered (s : Db) (t : String) : Prop :=
  ∃ p, s.policy t = some p ∧ p.paymentReceived = true ∧ p.policyNumber ≠ none

theorem RowStep.numbered_mono {t : String} {o : Op} {p p' : Option Policy} (h : RowStep t o p p')
    (hp : ∃ q, p = some q ∧ q.paymentReceived = true ∧ q.policyNumber ≠ none) :
    ∃ q, p' = some q ∧ q.paymentReceived = true ∧ q.policyNumber ≠ none := by
  obtain ⟨q, rfl, hq, hn⟩ := hp
  cases h with
  | keep => exact ⟨q, rfl, hq, hn⟩
  | reinit | cancel | settle => exact ⟨_, rfl, hq, hn⟩
  | activate => exact ⟨_, rfl, hq, Option.some_ne_none _⟩
  | paid _ rid => cases rid <;> exact ⟨_, rfl, rfl, hn⟩

/-- A number stays. -/
theorem Db.Numbered.exec {s : Db} {t : String} (h : s.Numbered t) (o : Op) (c : Choice) : (exec o c s).2.Numbered t :=
  (exec_rowStep o c s t).numbered_mono h

/-- The row of `t` is settled. -/
def Db.Settled (s : Db) (t : String) : Prop := ∃ p, s.policy t = some p ∧ p.reconcileStatus = "SETTLED"

theorem RowStep.settled_mono {t : String} {o : Op} {p p' : Option Policy} (h : RowStep t o p p')
    (hp : ∃ q, p = some q ∧ q.reconcileStatus = "SETTLED") : ∃ q, p' = some q ∧ q.reconcileStatus = "SETTLED" := by
  obtain ⟨q, rfl, hq⟩ := hp
  cases h with
  | keep => exact ⟨q, rfl, hq⟩
  | reinit | cancel | activate => exact ⟨_, rfl, hq⟩
  | settle => exact ⟨_, rfl, rfl⟩
  | paid _ rid => cases rid <;> exact ⟨_, rfl, hq⟩

/-- A settlement stays. -/
theorem Db.Settled.exec {s : Db} {t : String} (h : s.Settled t) (o : Op) (c : Choice) : (exec o c s).2.Settled t :=
  (exec_rowStep o c s t).settled_mono h

/-- The update of a reconcile settles its row, if there is one. -/
theorem markSettled_settled {s : Db} {t : String} {c : Choice} (hc : c.sqlError = none) (h : s.Numbered t) :
    (Bpp.exec (.markSettled t) c s).2.Settled t := by
  obtain ⟨p, hp, -⟩ := h
  refine ⟨p.settle, ?_, rfl⟩
  simp only [Bpp.exec, hc, statement_none, Db.markSettled, Db.policy_updatePolicy_self, hp, Option.map_some]
  rfl

theorem Policy.Complete.numbered {s : Db} {t : String} {p : Policy} (h : p.Complete) (hp : s.policy t = some p) :
    s.Numbered t := by
  obtain ⟨n, hn⟩ := h.number
  exact ⟨p, hp, h.paid, by rw [hn]; exact Option.some_ne_none n⟩

@[simp] theorem transactionID_onConfirm (s : BecknService) (reqCtx : Fields) (action txnID : String) (t₁ t₂ : Time)
    (issued : Issued) (payment : PaymentProof) (b : PremiumBreakup) :
    transactionID (onConfirm (responseContext s reqCtx action t₁ t₂) txnID issued payment b) =
      (reqCtx.get "transaction_id").text := by
  simp [transactionID, contextOf, onConfirm, contractResponse, responseContext, Json.fields, Json.text]

@[simp] theorem transactionID_onReconcile (s : BecknService) (reqCtx : Fields) (action invoiceNumber : String)
    (t₁ t₂ : Time) : transactionID (onReconcile (responseContext s reqCtx action t₁ t₂) invoiceNumber) =
      (reqCtx.get "transaction_id").text := by
  simp [transactionID, contextOf, onReconcile, responseContext, Json.fields, Json.text]

/-- What the deliveries have read, stored and sent about issued policies. -/
structure Reported (w : BppWorld) : Prop where
  complete : w.store.ActiveComplete
  paidIfRead : PaidIfRead w
  read : ∀ d req row, readForConfirm req row ∈ w.exchanges d → row.status = .active →
    w.store.Numbered (transactionID req)
  activated : ∀ d number url a b t, (Op.activatePolicy number url a b t).answered (.ok ()) ∈ w.exchanges d →
    w.store.Numbered t
  sent : ∀ payload, w.Asked (.post .onixBPPCaller "on_confirm" payload) → payload.has "error" = false →
    w.store.Numbered (transactionID payload)

section

variable {s : BecknService} {w : BppWorld} {d : Nat} {r : Request} {o : Op} {c : Choice}

/-- An activation is asked for a paid row, and numbers it. -/
private theorem activated_numbered (hw : Reported w) {number url : String} {a b : Time} {t : String}
    (ho : MayAsk s r (w.exchanges d) (.activatePolicy number url a b t))
    (ha : .ok () = (machine s).answer w (.activatePolicy number url a b t) c) :
    ((machine s).asked w d (.activatePolicy number url a b t) c).store.Numbered t := by
  have hpaid : w.store.Paid t := by
    obtain ⟨req, row, count, now, coverageStart, hrow, hh, hop⟩ := mayAsk_activate ho
    cases hop
    refine hw.paidIfRead d req row ?_ hrow.paid
    rw [hh]
    simp [numbered]
  obtain ⟨p, hp, hpaid⟩ := hpaid
  rcases activatePolicy_cases number url a b t c w.store with ⟨err, hexec⟩ | ⟨-, hexec⟩
  · simp only [Machine.answer, machine, hexec] at ha
    cases ha
  · refine ⟨p.activate number url a b, ?_, hpaid, Option.some_ne_none _⟩
    simp only [Machine.asked_store, machine, hexec, Db.policy_updatePolicy_self, hp, Option.map_some]

/-- An `on_confirm` is sent by a confirm that has read an active row or has activated its row, or it is an error. -/
private theorem sent_numbered (hw : Reported w) {payload : Fields}
    (ho : MayAsk s r (w.exchanges d) (.post .onixBPPCaller "on_confirm" payload))
    (he : payload.has "error" = false) : w.store.Numbered (transactionID payload) := by
  obtain ⟨req, row, issued, payment, t₁, t₂, rfl, hread, rfl, hissued⟩ := mayAsk_onConfirm ho he
  rw [transactionID_onConfirm]
  rcases hissued with ⟨ha, -⟩ | hx
  · exact hw.read d req row hread ha
  · exact hw.activated d _ _ _ _ _ hx

theorem Reported.asked (hw : Reported w) (ho : MayAsk s r (w.exchanges d) o) :
    Reported ((machine s).asked w d o c) where
  complete := hw.complete.exec (sound_of_mayAsk hw.paidIfRead ho) c
  paidIfRead := hw.paidIfRead.asked d o c
  read := by
    intro e req row hx ha
    rcases Machine.exchange_asked hx with hold | ⟨rfl, rfl, hans⟩
    · exact (hw.read e req row hold ha).exec o c
    · obtain ⟨p, hp, rfl⟩ := selectForConfirm_row hans
      exact ((hw.complete _ p hp ha).numbered hp).exec _ c
  activated := by
    intro e number url a b t hx
    rcases Machine.exchange_asked hx with hold | ⟨rfl, rfl, hans⟩
    · exact (hw.activated e number url a b t hold).exec o c
    · exact activated_numbered hw ho hans
  sent := by
    rintro payload ⟨e, reply, hx⟩ he
    rcases Machine.exchange_asked hx with hold | ⟨rfl, rfl, -⟩
    · exact (hw.sent payload ⟨e, reply, hold⟩ he).exec o c
    · exact (sent_numbered hw ho he).exec _ c

theorem reported_keeps (s : BecknService) : (protocol s).Keeps Machine.anything Reported where
  start _ _ _ hw _ _ _ := ⟨hw.complete, hw.paidIfRead, hw.read, hw.activated, hw.sent⟩
  exec _ _ _ _ _ hw _ _ ho := hw.asked ho

theorem reported_start : Reported start.world where
  complete := fun _ _ h => (by cases h)
  paidIfRead := fun _ _ _ h => (by cases h)
  read := fun _ _ _ h => (by cases h)
  activated := fun _ _ _ _ _ _ h => (by cases h)
  sent := by
    rintro payload ⟨d, reply, hx⟩
    cases hx

/-- In every reachable state, an `on_confirm` without an error that was ever sent is about a paid and numbered row. -/
theorem on_confirm_numbered {k : BppConfig} (h : Reachable s k) {payload : Fields}
    (hp : k.world.Asked (.post .onixBPPCaller "on_confirm" payload)) (he : payload.has "error" = false) :
    k.world.store.Numbered (transactionID payload) :=
  (Protocol.invariant (reported_keeps s) (Protocol.Obeyed.init _) reported_start h).sent payload hp he

end

end IonInsurance.Bpp
