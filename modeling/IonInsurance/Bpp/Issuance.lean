import IonInsurance.Interleave.Serve
import IonInsurance.Bpp.Rows

/-!
# Issued policies are complete

`HandleConfirm` reads `payment_received` in one statement and activates in another.  In between it relies on the
payment not being taken back, and no operation does that, whatever the deliveries do and however they interleave.  So
an `ACTIVE` row is paid, and carries its number, its certificate and a period of cover.
-/

namespace IonInsurance.Bpp

open Interleave

/-- The service before its first delivery. -/
def start : BppConfig := Config.init {}

/-- Every interleaving of every sequence of deliveries, from the empty database. -/
def Reachable (s : BecknService) (k : BppConfig) : Prop := (machine s).Runs Machine.anything start k

/-- Everything that an issued policy must have. -/
structure Policy.Complete (p : Policy) : Prop where
  paid : p.paymentReceived = true
  number : ∃ n, p.policyNumber = some n
  certificate : ∃ url, p.certificateURL = some url
  coverage : ∃ a b, p.coverageStart = some a ∧ p.coverageEnd = some b ∧ a.Before b

/-- The transaction has a row whose payment has been received. -/
def Db.Paid (s : Db) (t : String) : Prop := ∃ p, s.policy t = some p ∧ p.paymentReceived = true

def Db.ActiveComplete (s : Db) : Prop := ∀ t p, s.policy t = some p → p.status = .active → p.Complete

theorem RowStep.paid_mono {t : String} {o : Op} {p p' : Option Policy} (h : RowStep t o p p')
    (hp : ∃ q, p = some q ∧ q.paymentReceived = true) : ∃ q, p' = some q ∧ q.paymentReceived = true := by
  obtain ⟨q, rfl, hq⟩ := hp
  cases h with
  | keep => exact ⟨q, rfl, hq⟩
  | reinit => exact ⟨_, rfl, hq⟩
  | activate => exact ⟨_, rfl, hq⟩
  | paid _ rid => cases rid <;> exact ⟨_, rfl, rfl⟩
  | cancel => exact ⟨_, rfl, hq⟩
  | settle => exact ⟨_, rfl, hq⟩

/-- No operation takes a payment back. -/
theorem Db.Paid.exec {s : Db} {t : String} (h : s.Paid t) (o : Op) (c : Choice) : (exec o c s).2.Paid t :=
  (exec_rowStep o c s t).paid_mono h

/-- An activation is complete if the row is paid and the cover ends after it starts. -/
def Op.Sound (s : Db) : Op → Prop
  | .activatePolicy _ _ a b t => s.Paid t ∧ a.toMicro.Before b.toMicro
  | _ => True

private theorem RowStep.complete {t : String} {o : Op} {s : Db} {q q' : Policy} (h : RowStep t o (some q) (some q'))
    (ho : o.Sound s) (hs : s.policy t = some q) (hq : q.status = .active → q.Complete) (ha : q'.status = .active) :
    q'.Complete := by
  cases h with
  | keep => exact hq ha
  | reinit => cases ha
  | activate _ n url a b =>
    obtain ⟨⟨p, hp, hpaid⟩, hab⟩ := ho
    obtain rfl := Option.some.inj (hs.symm.trans hp)
    exact ⟨hpaid, ⟨n, rfl⟩, ⟨url, rfl⟩, ⟨_, _, rfl, rfl, hab⟩⟩
  | paid _ rid =>
    have hc := hq (by cases rid <;> exact ha)
    cases rid <;> exact ⟨rfl, hc.number, hc.certificate, hc.coverage⟩
  | cancel => cases ha
  | settle => exact ⟨(hq ha).paid, (hq ha).number, (hq ha).certificate, (hq ha).coverage⟩

/-- A sound operation keeps active rows complete. -/
theorem Db.ActiveComplete.exec {s : Db} (h : s.ActiveComplete) {o : Op} (ho : o.Sound s) (c : Choice) :
    (exec o c s).2.ActiveComplete := by
  intro t p hp ha
  have hr := exec_rowStep o c s t
  rw [hp] at hr
  cases hq : s.policy t with
  | none =>
    rw [hq] at hr
    cases hr
    cases ha
  | some q =>
    rw [hq] at hr
    exact hr.complete ho hq (h t q hq) ha

/-- A confirm that has read a payment can rely on it. -/
def PaidIfRead (w : BppWorld) : Prop :=
  ∀ d req row, readForConfirm req row ∈ w.exchanges d → row.paymentReceived = true → w.store.Paid (transactionID req)

theorem PaidIfRead.asked {s : BecknService} {w : BppWorld} (h : PaidIfRead w) (d : Nat) (o : Op) (c : Choice) :
    PaidIfRead ((machine s).asked w d o c) := by
  intro e req row hx hp
  rcases Machine.exchange_asked hx with hx | ⟨-, rfl, ha⟩
  · exact (h e req row hx hp).exec o c
  · obtain ⟨p, hs, rfl⟩ := selectForConfirm_row ha
    exact Db.Paid.exec ⟨p, hs, hp⟩ _ c

/-- The protocol activates soundly: a confirm has read the payment, and the cover lasts a year. -/
theorem sound_of_mayAsk {s : BecknService} {w : BppWorld} (h : PaidIfRead w) {d : Nat} {r : Request} {o : Op}
    (ho : MayAsk s r (w.exchanges d) o) : o.Sound w.store := by
  generalize hh : w.exchanges d = hist at ho
  cases ho with
  | issue req row hrow count now coverageStart =>
    have hread : readForConfirm req row ∈ w.exchanges d := by rw [hh]; simp [numbered]
    exact ⟨h d req row hread hrow.paid, Time.toMicro_before_addYear coverageStart⟩
  | _ => trivial

private theorem issuance_keeps (s : BecknService) :
    (protocol s).Keeps Machine.anything fun w => w.store.ActiveComplete ∧ PaidIfRead w where
  start _ _ _ h _ _ _ := h
  exec _ _ _ _ c h _ _ ho := ⟨h.1.exec (sound_of_mayAsk h.2 ho) c, h.2.asked _ _ c⟩

/-- In every reachable state, active rows are complete. -/
theorem reachable_activeComplete {s : BecknService} {k : BppConfig} (h : Reachable s k) :
    k.world.store.ActiveComplete := by
  refine (Protocol.invariant (issuance_keeps s) (Protocol.Obeyed.init _) ⟨?_, ?_⟩ h).1
  · rintro t p hp
    cases hp
  · rintro d req row hx
    cases hx

/-- In every reachable state, an `ACTIVE` row is paid and has its number, certificate and cover. -/
theorem active_complete (s : BecknService) (k : BppConfig) (h : Reachable s k) (t : String) (p : Policy)
    (hp : k.world.store.policy t = some p) (ha : p.status = .active) : p.Complete :=
  reachable_activeComplete h t p hp ha

/-- The order of the sandbox: an init, a payment, a confirm, each served to completion. -/
def issuedRun (t : String) : BppConfig :=
  (machine {}).serveAll start
    [(.init (bareMessage t), fun _ => {}), (.simulatePayment t, fun _ => {}), (.confirm (bareMessage t), fun _ => {})]

theorem issuedRun_reachable (t : String) : Reachable {} (issuedRun t) := Machine.serveAll_runs ..

theorem active_complete_issuedRun :
    ∃ p, (issuedRun "t").world.store.policy "t" = some p ∧ p.status = .active ∧ p.Complete := by
  have h : ((issuedRun "t").world.store.policy "t").map Policy.status = some .active := by decide +kernel
  obtain ⟨p, hp, ha⟩ := Option.map_eq_some_iff.1 h
  exact ⟨p, hp, ha, active_complete {} _ (issuedRun_reachable "t") "t" p hp ha⟩

/-! ### Deliveries that are issuing a policy -/

/-- Delivery `d` has read an issuable row of `t` and has not asked for its update yet. -/
structure Issuing (w : BppWorld) (d : Nat) (t : String) : Prop where
  read : ∃ row : ConfirmRow, row.Issuable ∧ (Op.selectForConfirm t).answered (.ok row) ∈ w.exchanges d
  waiting : ∀ number url a b answer, (Op.activatePolicy number url a b t).answered answer ∉ w.exchanges d

/-- A confirm of `t` would read an issuable row. -/
def Db.Issuable (s : Db) (t : String) : Prop := ∃ p, s.policy t = some p ∧ p.confirmRow.Issuable

/-- Only the read of an issuable row starts an issue. -/
theorem issuing_asked {s : BecknService} {w : BppWorld} {d e : Nat} {o : Op} {c : Choice} {t : String}
    (h : Issuing ((machine s).asked w d o c) e t) :
    Issuing w e t ∨ e = d ∧ o = .selectForConfirm t ∧ c.sqlError = none ∧ w.store.Issuable t := by
  have hwait : ∀ number url a b answer, (Op.activatePolicy number url a b t).answered answer ∉ w.exchanges e :=
    fun number url a b answer hx => h.waiting number url a b answer (Machine.exchanges_subset _ _ d e o c hx)
  obtain ⟨row, hrow, hx⟩ := h.read
  rcases Machine.exchange_asked hx with hx | ⟨he, rfl, ha⟩
  · exact .inl ⟨⟨row, hrow, hx⟩, hwait⟩
  · obtain ⟨p, hp, rfl⟩ := selectForConfirm_row ha
    refine .inr ⟨he, rfl, ?_, p, hp, hrow⟩
    cases hc : c.sqlError with
    | none => rfl
    | some err =>
      simp only [Machine.answer, machine, exec, hc, statement_some] at ha
      cases ha

/-- Who may activate a policy is issuing it. -/
theorem issuing_of_mayAsk {s : BecknService} {w : BppWorld} {d : Nat} {t : String} {r : Request}
    {number url : String} {a b : Time}
    (ho : MayAsk s r (w.exchanges d) (.activatePolicy number url a b t)) : Issuing w d t := by
  obtain ⟨req, row, count, now, coverageStart, hrow, hh, hop⟩ := mayAsk_activate ho
  cases hop
  refine ⟨⟨row, hrow, by rw [hh]; simp [numbered]⟩, ?_⟩
  intro number url a b answer hx
  have hasked := List.mem_map_of_mem (f := Sigma.fst) hx
  rw [hh] at hasked
  simp [numbered] at hasked

end IonInsurance.Bpp
