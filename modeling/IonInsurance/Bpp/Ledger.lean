import IonInsurance.Interleave.Account
import IonInsurance.Bpp.Issuance

/-!
# The payments ledger

Two handlers store payments: `HandlePaymentReceived` for every notification that finds the policy not yet `ACTIVE`,
and `HandleConfirm` for every issue, with the amount that the message names.  So the payments of a policy sum to the
amount of its payment as often as it was notified before the issue, plus what the issuing confirms name.
-/

namespace IonInsurance.Bpp

open Interleave

/-! ### Policy ids -/

/-- Ids come from the sequence, and distinct rows have distinct ids. -/
structure Db.Keyed (s : Db) : Prop where
  below : ∀ t p, s.policy t = some p → p.id < s.nextPolicyID
  distinct : ∀ t u p q, s.policy t = some p → s.policy u = some q → p.id = q.id → t = u

theorem nextPolicyID_updatePolicy (s : Db) (t : String) (f : Policy → Policy) :
    (s.updatePolicy t f).nextPolicyID = s.nextPolicyID := by
  unfold Db.updatePolicy
  split <;> rfl

/-- A row keeps its id, or it is new. -/
theorem RowStep.id {t : String} {o : Op} {p : Option Policy} {q' : Policy} (h : RowStep t o p (some q')) :
    (∃ q, p = some q ∧ q'.id = q.id) ∨ p = none := by
  cases h with
  | keep => exact .inl ⟨q', rfl, rfl⟩
  | insert => exact .inr rfl
  | reinit p | activate p | cancel p | settle p => exact .inl ⟨p, rfl, rfl⟩
  | paid p rid => exact .inl ⟨p, rfl, by cases rid <;> rfl⟩

/-- An operation adds no row, or one with the next id. -/
theorem exec_ids (o : Op) (c : Choice) (s : Db) :
    ((exec o c s).2.nextPolicyID = s.nextPolicyID ∧
      ∀ t q', (exec o c s).2.policy t = some q' → ∃ q, s.policy t = some q ∧ q'.id = q.id) ∨
    ((exec o c s).2.nextPolicyID = s.nextPolicyID + 1 ∧ ∃ u q, s.policy u = none ∧ q.id = s.nextPolicyID ∧
      (exec o c s).2.policy u = some q ∧ ∀ t, t ≠ u → (exec o c s).2.policy t = s.policy t) := by
  have hstep := exec_dbStep o c s
  generalize (exec o c s).2 = s' at hstep ⊢
  cases hstep with
  | keep => exact .inl ⟨rfl, fun t q' h => ⟨q', h, rfl⟩⟩
  | update u f hc hf =>
    refine .inl ⟨nextPolicyID_updatePolicy .., fun t q' h => ?_⟩
    rw [Db.policy_updatePolicy] at h
    split at h
    · rename_i htu
      subst htu
      obtain ⟨q, hq, rfl⟩ := Option.map_eq_some_iff.1 h
      rcases (hf q).id with ⟨p, hp, hid⟩ | hnone
      · exact ⟨p, hq.trans hp, hid⟩
      · cases hnone
    · exact ⟨q', h, rfl⟩
  | insert c idv hx hnew =>
    exact .inr ⟨rfl, _, _, hnew, rfl, AList.lookup_insert _, fun t ht => AList.lookup_insert_ne ht⟩
  | payment => exact .inl ⟨rfl, fun t q' h => ⟨q', h, rfl⟩⟩
  | record => exact .inl ⟨rfl, fun t q' h => ⟨q', h, rfl⟩⟩

theorem Db.Keyed.exec {s : Db} (h : s.Keyed) (o : Op) (c : Choice) : (Bpp.exec o c s).2.Keyed := by
  rcases exec_ids o c s with ⟨hnext, hid⟩ | ⟨hnext, u, q, hu, hqid, hq, hother⟩
  · constructor
    · intro t p hp
      obtain ⟨q, hq, hpq⟩ := hid t p hp
      rw [hnext, hpq]
      exact h.below t q hq
    · intro t t' p p' hp hp' heq
      obtain ⟨q, hq, hpq⟩ := hid t p hp
      obtain ⟨q', hq', hpq'⟩ := hid t' p' hp'
      exact h.distinct t t' q q' hq hq' (by omega)
  · have hold : ∀ t p, (Bpp.exec o c s).2.policy t = some p → t = u ∧ p = q ∨ t ≠ u ∧ s.policy t = some p := by
      intro t p hp
      by_cases htu : t = u
      · subst htu
        rw [hq] at hp
        exact .inl ⟨rfl, (Option.some.inj hp).symm⟩
      · rw [hother t htu] at hp
        exact .inr ⟨htu, hp⟩
    constructor
    · intro t p hp
      rcases hold t p hp with ⟨-, rfl⟩ | ⟨-, hp⟩
      · omega
      · have hlt := h.below t p hp
        omega
    · intro t t' p p' hp hp' heq
      rcases hold t p hp with ⟨rfl, rfl⟩ | ⟨-, hp₀⟩
      · rcases hold t' p' hp' with ⟨rfl, -⟩ | ⟨-, hp₁⟩
        · rfl
        · have hlt := h.below t' p' hp₁
          omega
      · rcases hold t' p' hp' with ⟨rfl, rfl⟩ | ⟨-, hp₁⟩
        · have hlt := h.below t p hp₀
          omega
        · exact h.distinct t t' p p' hp₀ hp₁ heq

/-- The row of `t` has that id. -/
def Db.HasID (s : Db) (t : String) (i : Int) : Prop := ∃ p, s.policy t = some p ∧ p.id = i

/-- Rows stay, with their ids. -/
theorem Db.HasID.exec {s : Db} {t : String} {i : Int} (h : s.HasID t i) (o : Op) (c : Choice) :
    (Bpp.exec o c s).2.HasID t i := by
  obtain ⟨p, hp, rfl⟩ := h
  have hr := exec_rowStep o c s t
  rw [hp] at hr
  cases hq : (Bpp.exec o c s).2.policy t with
  | none =>
    rw [hq] at hr
    cases hr
  | some q =>
    rw [hq] at hr
    rcases hr.id with ⟨p', hp', hid⟩ | hnone
    · obtain rfl := Option.some.inj hp'
      exact ⟨q, hq, hid⟩
    · cases hnone

/-! ### The books -/

/-- The policy id and the amount of every payment. -/
def Db.premiums (s : Db) : List (Int × Int) := s.payments.map fun p => (p.policyID, p.amountIDR)

/-- `SELECT COALESCE(SUM(amount_idr),0) FROM payments`. -/
def Db.premiumsCollected (s : Db) : Int := (s.payments.map Payment.amountIDR).sum

/-- The sum of the payments of a policy. -/
def Db.ledger (s : Db) (policyID : Int) : Int := bookedTo policyID s.premiums

/-- The transactions whose payment has been received. -/
def Db.paid (s : Db) : Finset String := (s.policies.keys.filter fun t => (s.policy t).any Policy.paymentReceived).toFinset

private theorem exec_premiums_keep {o : Op} (ho : ∀ id method ref amount, o ≠ .insertPayment id method ref amount)
    (c : Choice) (s : Db) : (exec o c s).2.premiums = s.premiums := by
  have hstep := exec_dbStep o c s
  generalize (exec o c s).2 = s' at hstep ⊢
  cases hstep with
  | keep => rfl
  | update t f => simp [Db.premiums]
  | insert => rfl
  | payment c id method ref method' ref' amount => exact absurd rfl (ho id method ref amount)
  | record => rfl

/-- An operation stores a payment if it is an `INSERT INTO payments` that succeeds, and none otherwise. -/
theorem exec_premiums (o : Op) (c : Choice) (s : Db) :
    (exec o c s).2.premiums = s.premiums ++ (Exchange.stored? ⟨o, (exec o c s).1⟩).toList := by
  by_cases ho : ∃ id method ref amount, o = .insertPayment id method ref amount
  · obtain ⟨id, method, ref, amount, rfl⟩ := ho
    cases hc : c.sqlError with
    | some err => simp [exec, hc, Exchange.stored?]
    | none =>
      simp only [exec, hc, statement_none, Db.insertPayment]
      split <;> simp [Exchange.stored?, Db.premiums]
  · have hkeep : ∀ id method ref amount, o ≠ .insertPayment id method ref amount :=
      fun id method ref amount h => ho ⟨id, method, ref, amount, h⟩
    have hnone : Exchange.stored? ⟨o, (exec o c s).1⟩ = none := by
      cases o with
      | insertPayment => exact absurd rfl (hkeep _ _ _ _)
      | _ => rfl
    rw [exec_premiums_keep hkeep, hnone, Option.toList_none, List.append_nil]

/-- What an exchange books to a policy. -/
def booked (i : Int) (x : Exchange) : Int := bookedTo i x.stored?.toList

/-- The ledger holds what the deliveries stored, and every payment belongs to a paid row.  A delivery that has read an
unissued row has read the id of the row of its transaction. -/
structure Books (w : BppWorld) : Prop where
  keyed : w.store.Keyed
  ledger : ∀ i, w.store.ledger i = traceSum (booked i) w.trace
  paidIfRead : PaidIfRead w
  read : ∀ d r (x : Exchange) i, w.request? d = some r → x ∈ w.exchanges d → x.unissued? = some i →
    w.store.HasID r.transaction i
  marked : ∀ d r t rid, w.request? d = some r → (Op.markPaid t rid).answered (.ok ()) ∈ w.exchanges d → w.store.Paid t
  payers : ∀ x ∈ w.store.premiums, ∃ t, w.store.Paid t ∧ w.store.HasID t x.1

/-- What is read of an unissued row is its id. -/
private theorem unissued_read {s : BecknService} {w : BppWorld} {d : Nat} {r : Request} {o : Op} {c : Choice} {i : Int}
    (ho : MayAsk s r (w.exchanges d) o) (hi : Exchange.unissued? ⟨o, (machine s).answer w o c⟩ = some i) :
    w.store.HasID r.transaction i := by
  generalize hh : w.exchanges d = hist at ho
  cases ho with
  | readPolicy req =>
    cases ha : (machine s).answer w (.selectForConfirm (transactionID req)) c with
    | error err => rw [ha] at hi; cases hi
    | ok row =>
      obtain ⟨p, hp, rfl⟩ := selectForConfirm_row ha.symm
      rw [ha] at hi
      simp only [Exchange.unissued?] at hi
      split at hi
      · exact ⟨p, hp, Option.some.inj hi⟩
      · cases hi
  | @readStatus r h t rid amount hn =>
    have ht : r.transaction = t := hn.transaction
    cases ha : (machine s).answer w (.selectStatus t) c with
    | error err => rw [ha] at hi; cases hi
    | ok row =>
      obtain ⟨p, hp, rfl⟩ := selectStatus_row ha.symm
      rw [ha] at hi
      simp only [Exchange.unissued?] at hi
      split at hi
      · cases hi
      · exact ⟨p, ht ▸ hp, Option.some.inj hi⟩
  | _ => cases hi

/-- A notification marks a row that it has read, and so the row is paid afterwards. -/
private theorem marked_paid {s : BecknService} {w : BppWorld} (hw : Books w) {d : Nat} {r : Request} {c : Choice}
    {t : String} {rid : Option String} (hr : w.request? d = some r) (ho : MayAsk s r (w.exchanges d) (.markPaid t rid))
    (ha : .ok () = (machine s).answer w (.markPaid t rid) c) :
    ((machine s).asked w d (.markPaid t rid) c).store.Paid t := by
  have hrow : ∃ i, w.store.HasID r.transaction i ∧ r.transaction = t := by
    generalize hh : w.exchanges d = hist at ho
    cases ho with
    | @markPaid r h t rid amount hn id' status hact =>
      refine ⟨id', hw.read d r ((Op.selectStatus t).answered (.ok (id', status))) id' hr ?_ ?_, ?_⟩
      · rw [hh]
        exact List.mem_cons_self
      · simp [Exchange.unissued?, hact]
      · exact hn.transaction
  obtain ⟨i, ⟨p, hp, -⟩, rfl⟩ := hrow
  refine ⟨p.markPaid rid, markPaid_row hp ha, ?_⟩
  cases rid <;> rfl

/-- A payment is stored for a paid row. -/
private theorem payer_of_mayAsk {s : BecknService} {w : BppWorld} (hw : Books w) {d : Nat} {r : Request} {i : Int}
    {method ref : String} {amount : Int} (hr : w.request? d = some r)
    (ho : MayAsk s r (w.exchanges d) (.insertPayment i method ref amount)) :
    ∃ t, w.store.Paid t ∧ w.store.HasID t i := by
  generalize hh : w.exchanges d = hist at ho
  cases ho with
  | recordConfirm req row hrow count now coverageStart =>
    have hx : readForConfirm req row ∈ w.exchanges d := by
      rw [hh]
      simp [numbered]
    refine ⟨transactionID req, hw.paidIfRead d req row hx hrow.paid, ?_⟩
    refine hw.read d (.confirm req) (readForConfirm req row) row.policyID hr hx ?_
    simp [Exchange.unissued?, hrow.unissued, hrow.paid]
  | @recordPayment r h t rid amount hn id' status hact =>
    have ht : r.transaction = t := hn.transaction
    refine ⟨t, hw.marked d r t (storedRequestID rid) hr ?_, ht ▸ ?_⟩
    · rw [hh]
      exact List.mem_cons_self
    · refine hw.read d r ((Op.selectStatus t).answered (.ok (i, status))) i hr ?_ ?_
      · rw [hh]
        exact List.mem_cons_of_mem _ List.mem_cons_self
      · simp [Exchange.unissued?, hact]

theorem Books.asked {s : BecknService} {w : BppWorld} (hw : Books w) {d : Nat} {r : Request} {o : Op} (c : Choice)
    (hr : w.request? d = some r) (ho : MayAsk s r (w.exchanges d) o) : Books ((machine s).asked w d o c) where
  keyed := hw.keyed.exec o c
  ledger i := by
    have hstore : ((machine s).asked w d o c).store.premiums = _ := exec_premiums o c w.store
    unfold Db.ledger
    rw [hstore, bookedTo_append, add_comm]
    exact congrArg (_ + ·) (hw.ledger i)
  paidIfRead := hw.paidIfRead.asked d o c
  read := by
    intro e r' x i hr' hx hi
    rcases Machine.mem_exchanges_asked hx with hold | ⟨rfl, rfl⟩
    · exact (hw.read e r' x i hr' hold hi).exec o c
    · obtain rfl := Option.some.inj (hr.symm.trans hr')
      exact (unissued_read ho hi).exec o c
  marked := by
    intro e r' t rid hr' hx
    rcases Machine.exchange_asked hx with hold | ⟨rfl, rfl, hans⟩
    · exact (hw.marked e r' t rid hr' hold).exec o c
    · exact marked_paid hw hr ho hans
  payers := by
    intro x hx
    have hstore : ((machine s).asked w d o c).store.premiums = _ := exec_premiums o c w.store
    rw [hstore, List.mem_append] at hx
    have hpayer : ∃ t, w.store.Paid t ∧ w.store.HasID t x.1 := by
      rcases hx with hold | hnew
      · exact hw.payers x hold
      · -- the payment that this step has stored
        have hs := Option.mem_toList.1 hnew
        unfold Exchange.stored? at hs
        split at hs
        · rename_i i method ref amount answer heq
          obtain ⟨rfl, -⟩ := Sigma.mk.inj_iff.1 heq
          obtain rfl := Option.some.inj hs
          exact payer_of_mayAsk hw hr ho
        · cases hs
    obtain ⟨t, hpaid, hid⟩ := hpayer
    exact ⟨t, hpaid.exec o c, hid.exec o c⟩

theorem Books.started {w : BppWorld} (hw : Books w) {d : Nat} (r : Request) (he : w.exchanges d = []) :
    Books (w.started d r) where
  keyed := hw.keyed
  ledger := hw.ledger
  paidIfRead := hw.paidIfRead
  read := by
    intro e r' x i hr' hx hi
    exact hw.read e r' x i (World.request?_of_asked he hr' hx) hx hi
  marked := by
    intro e r' t rid hr' hx
    exact hw.marked e r' t rid (World.request?_of_asked he hr' hx) hx
  payers := hw.payers

/-- How often a delivery took a payment: it read an unissued row, and none of its statements failed. -/
def History.taken (h : History) : Nat := if h.any Exchange.failed then 0 else (h.filterMap Exchange.unissued?).length

/-- The delivery notifies a payment. -/
def Request.notifies : Request → Bool
  | .paymentReceived .. | .simulatePayment _ => true
  | _ => false

/-- The sum over the deliveries of a run. -/
def tally (k : BppConfig) (f : Request → History → Int) : Int :=
  ∑ d ∈ Finset.range k.progs.length, ((k.world.request? d).map fun r => f r (k.world.exchanges d)).getD 0

/-- The notifications that found the policy not yet issued. -/
def notified (k : BppConfig) (t : String) : Int :=
  tally k fun r h => if r.notifies ∧ r.transaction = t then h.taken else 0

/-- What a confirm stores: the amount that its message names, if it issues the policy. -/
def History.named (h : History) : Request → Int
  | .confirm req => h.taken * (confirmInput req).amount
  | _ => 0

/-- The amounts that the issuing confirms name. -/
def named (k : BppConfig) (t : String) : Int := tally k fun r h => if r.transaction = t then h.named r else 0

end IonInsurance.Bpp
