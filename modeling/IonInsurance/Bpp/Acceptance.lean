import IonInsurance.Bpp.Contract

/-!
# Payments that are accepted

`HandleConfirm` issues a policy whose row is marked as paid, and a row is marked by a payment notification that finds
it unissued.  The amount of the notification is stored and is not looked at: a policy is issued on a notification of
any amount.
-/

namespace IonInsurance.Bpp

open Interleave

/-- A row is newly paid by a notification only, which has found an unpaid row. -/
theorem RowStep.newly_paid {t : String} {o : Op} {p p' : Option Policy} (h : RowStep t o p p')
    (hp : ∃ q, p' = some q ∧ q.paymentReceived = true) :
    (∃ q, p = some q ∧ q.paymentReceived = true) ∨
      ∃ rid q, o = .markPaid t rid ∧ p = some q ∧ q.paymentReceived = false := by
  obtain ⟨q, rfl, hq⟩ := hp
  cases h with
  | keep => exact .inl ⟨q, rfl, hq⟩
  | insert => cases hq
  | reinit p => exact .inl ⟨p, rfl, hq⟩
  | activate p => exact .inl ⟨p, rfl, hq⟩
  | paid p rid =>
    cases hpaid : p.paymentReceived with
    | true => exact .inl ⟨p, rfl, hpaid⟩
    | false => exact .inr ⟨rid, p, rfl, rfl, hpaid⟩
  | cancel p => exact .inl ⟨p, rfl, hq⟩
  | settle p => exact .inl ⟨p, rfl, hq⟩

/-- Delivery `d` has notified a payment of `amount` for `t`, and has marked the row `q` as paid. -/
structure Accepts (w : BppWorld) (d : Nat) (t : String) (q : Policy) (amount : ℚ) : Prop where
  notifies : ∃ r later earlier rid, w.request? d = some r ∧ w.exchanges d = later ++ earlier ∧
    Notifies r earlier t rid amount
  marked : ∃ db rid, .exec d db (.markPaid t rid) (.ok ()) ∈ w.trace ∧ db.policy t = some q

/-- A paid row was marked by an accepted notification that found it unpaid and insuring the same. -/
def PaidAccepted (w : BppWorld) : Prop :=
  ∀ t p, w.store.policy t = some p → p.paymentReceived = true →
    ∃ d q amount, Accepts w d t q amount ∧ q.paymentReceived = false ∧ q.insured = p.insured

section

variable {s : BecknService} {w : BppWorld} {d : Nat} {r : Request} {o : Op} {c : Choice}

theorem Accepts.started {t : String} {q : Policy} {amount : ℚ} {e : Nat} (h : Accepts w e t q amount) (r : Request)
    (hd : w.request? d = none) : Accepts (w.started d r) e t q amount := by
  obtain ⟨⟨r', later, earlier, rid, hr, hx, hn⟩, db, rid', hev, hq⟩ := h
  exact ⟨⟨r', later, earlier, rid, World.request?_stays hd hr, hx, hn⟩, db, rid', List.mem_cons_of_mem _ hev, hq⟩

theorem Accepts.asked {t : String} {q : Policy} {amount : ℚ} {e : Nat} (h : Accepts w e t q amount) (d : Nat) (o : Op)
    (c : Choice) : Accepts ((machine s).asked w d o c) e t q amount := by
  obtain ⟨⟨r', later, earlier, rid, hr, hx, hn⟩, db, rid', hev, hq⟩ := h
  refine ⟨?_, db, rid', List.mem_cons_of_mem _ hev, hq⟩
  by_cases hed : e = d
  · subst hed
    refine ⟨r', ⟨o, (machine s).answer w o c⟩ :: later, earlier, rid, hr, ?_, hn⟩
    rw [Machine.exchanges_asked_self, hx, List.cons_append]
  · refine ⟨r', later, earlier, rid, hr, ?_, hn⟩
    rw [Machine.exchanges_asked_ne _ _ hed]
    exact hx

/-- The notification that marks an unpaid row is accepted. -/
private theorem accepts_of_mayAsk {t : String} {rid : Option String} {q : Policy} (hr : w.request? d = some r)
    (ho : MayAsk s r (w.exchanges d) (.markPaid t rid)) (hq : w.store.policy t = some q)
    (hok : (exec (.markPaid t rid) c w.store).1 = .ok ()) :
    ∃ amount, Accepts ((machine s).asked w d (.markPaid t rid) c) d t q amount := by
  generalize hh : w.exchanges d = hist at ho
  cases ho with
  | @markPaid _ h _ rid amount hn id' status ha =>
    refine ⟨amount, ⟨r, [⟨.markPaid t (storedRequestID rid), (machine s).answer w _ c⟩,
      (Op.selectStatus t).answered (.ok (id', status))], h, rid, hr, ?_, hn⟩, w.store, storedRequestID rid, ?_, hq⟩
    · rw [Machine.exchanges_asked_self, hh]
      rfl
    · have hanswer : (machine s).answer w (.markPaid t (storedRequestID rid)) c = .ok () := hok
      rw [Machine.asked_trace, hanswer]
      exact List.mem_cons_self

theorem PaidAccepted.asked (hw : PaidAccepted w) (hr : w.request? d = some r) (ho : MayAsk s r (w.exchanges d) o) :
    PaidAccepted ((machine s).asked w d o c) := by
  intro t p hp hpaid
  have hrow := exec_rowStep o c w.store t
  change (exec o c w.store).2.policy t = some p at hp
  rw [hp] at hrow
  rcases hrow.newly_paid ⟨p, rfl, hpaid⟩ with ⟨q, hq, hqpaid⟩ | ⟨rid, q, rfl, hq, hunpaid⟩
  · obtain ⟨e, q', amount, hacc, hunpaid, hins⟩ := hw t q hq hqpaid
    rw [hq] at hrow
    exact ⟨e, q', amount, hacc.asked d o c, hunpaid, hins.trans (Option.some.inj hrow.insured).symm⟩
  · rw [hq] at hrow
    have hins : q.insured = p.insured := (Option.some.inj hrow.insured).symm
    rcases markPaid_cases w.store t rid c with ⟨⟨err, herr⟩, -⟩ | ⟨hok, -⟩
    · rw [herr, hq] at hp
      obtain rfl := Option.some.inj hp
      rw [hunpaid] at hpaid
      cases hpaid
    · obtain ⟨amount, hacc⟩ := accepts_of_mayAsk hr ho hq hok
      exact ⟨d, q, amount, hacc, hunpaid, hins⟩

theorem paidAccepted_keeps (s : BecknService) : (protocol s).Keeps Machine.anything PaidAccepted where
  start w d r hw _ hd _ := by
    intro t p hp hpaid
    obtain ⟨e, q, amount, hacc, hunpaid, hins⟩ := hw t p hp hpaid
    exact ⟨e, q, amount, hacc.started r hd, hunpaid, hins⟩
  exec _ _ _ _ _ hw _ hr ho := hw.asked hr ho

end

/-- In every reachable state, an `ACTIVE` policy has had an accepted payment notification: one that found its row
unpaid, for the same person, vehicle and insured value. -/
theorem active_notified (s : BecknService) (k : BppConfig) (h : Reachable s k) (t : String) (p : Policy)
    (hp : k.world.store.policy t = some p) (ha : p.status = .active) :
    ∃ d q amount, Accepts k.world d t q amount ∧ q.paymentReceived = false ∧ q.insured = p.insured := by
  have hinv : PaidAccepted k.world := by
    refine Protocol.invariant (paidAccepted_keeps s) (Protocol.Obeyed.init _) ?_ h
    intro t p hp
    cases hp
  exact hinv t p hp (reachable_activeComplete h t p hp ha).paid

theorem active_notified_issuedRun :
    ∃ p, (issuedRun "t").world.store.policy "t" = some p ∧ p.status = .active ∧
      ∃ d q amount, Accepts (issuedRun "t").world d "t" q amount ∧ q.paymentReceived = false ∧ q.insured = p.insured := by
  have h : ((issuedRun "t").world.store.policy "t").map Policy.status = some .active := by decide +kernel
  obtain ⟨p, hp, ha⟩ := Option.map_eq_some_iff.1 h
  exact ⟨p, hp, ha, active_notified {} _ (issuedRun_reachable "t") "t" p hp ha⟩

/-- A payment that this event notifies has the amount zero. -/
private def notifiesNothing : Event Db Request Op Op.Ans → Bool
  | .start _ (.paymentReceived _ _ amount) => amount = 0
  | .start _ (.simulatePayment _) => false
  | _ => true

/-- A vehicle worth 100 million rupiah is insured on a notification of nothing. -/
theorem issued_on_zero_payment :
    ¬∀ (s : BecknService) (k : BppConfig), Reachable s k → ∀ t p, k.world.store.policy t = some p →
      p.status = .active → ∃ d q amount, Accepts k.world d t q amount ∧
        (((comprehensiveZone3 p.idv).toOption.getD {}).totalIDR : ℚ) ≤ amount := by
  intro hall
  let k : BppConfig := (machine {}).serveAll start
    [(.init (kycMessage "t" "3175010101900001" "B1234XYZ" 100000000), fun _ => {}),
      (.paymentReceived "ins-t" "" 0, fun _ => {}), (.confirm (bareMessage "t"), fun _ => {})]
  have hissued : ((k.world.store.policy "t").any fun p =>
      p.status = .active ∧ 0 < ((comprehensiveZone3 p.idv).toOption.getD {}).totalIDR) = true := by decide +kernel
  have hnothing : k.world.trace.all notifiesNothing = true := by decide +kernel
  obtain ⟨p, hp, htest⟩ := (Option.any_eq_true _ _).1 hissued
  obtain ⟨ha, hpos⟩ := of_decide_eq_true htest
  obtain ⟨d, q, amount, ⟨⟨r, later, earlier, rid, hr, -, hn⟩, -⟩, hle⟩ :=
    hall {} k (Machine.serveAll_runs ..) "t" p hp ha
  have hevent := List.all_eq_true.1 hnothing _ (World.start_mem hr)
  cases hn with
  | received t rid amount =>
    have hzero : amount = 0 := of_decide_eq_true hevent
    rw [hzero] at hle
    have hneg : ((comprehensiveZone3 p.idv).toOption.getD {}).totalIDR ≤ 0 := by exact_mod_cast hle
    omega
  | simulated t idv => cases hevent

end IonInsurance.Bpp
