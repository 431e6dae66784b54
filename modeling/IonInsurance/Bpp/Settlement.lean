import IonInsurance.Bpp.Issuance

/-!
# Settled policies

`HandleReconcile` marks a row as settled after it has called ION's release, whatever the answer: in the sandbox a
failed release is not fatal.  It does not look at the status of the policy or at its payment.
-/

namespace IonInsurance.Bpp

open Interleave

/-- The stage that `GetPaymentStatus` reports of a row. -/
def seamStage (p : Policy) : String :=
  if p.paymentReceived ∧ p.status ≠ .active then "Stage 2 — Funds Held at DOKU (awaiting confirm)"
  else if p.status = .active ∧ p.reconcileStatus ≠ "SETTLED" then "Stage 3+4 — Policy Active (reconcile pending)"
  else if p.reconcileStatus = "SETTLED" then "Stage 5 — Settled (funds released with splits)"
  else "Stage 1 — VA Created (awaiting payment)"

/-- What the frontend polls. -/
def getPaymentStatus (s : Db) (txnID : String) (c : Choice) : Except String Fields :=
  match (statement c.sqlError s (s.selectPolicy txnID id, s)).1 with
  | .error err => .error ("policy not found: " ++ err)
  | .ok p => .ok
    [("transaction_id", .str txnID),
     ("policy_status", .str p.status.text),
     ("payment_received", .bool p.paymentReceived),
     ("doku_invoice_number", .str (p.dokuInvoiceNumber.getD "")),
     ("doku_va_number", .str (p.dokuVANumber.getD "")),
     ("reconcile_status", .str p.reconcileStatus),
     ("seam_stage", .str (seamStage p))]

/-- For a reconcile of `t`, ION's release was called of a database with `P` and answered with `Q`. -/
def ReleaseCalled (w : BppWorld) (t : String) (P : Db → Prop) (Q : Reply → Prop) : Prop :=
  ∃ d req payload db reply, w.request? d = some (.reconcile req) ∧ transactionID req = t ∧
    .exec d db (.post .ionService "settlement/release" payload) reply ∈ w.trace ∧ P db ∧ Q reply

/-- The row is active and its payment has been received. -/
def Db.ActivePaid (s : Db) (t : String) : Prop :=
  ∃ p, s.policy t = some p ∧ p.status = .active ∧ p.paymentReceived = true

def Reply.success : Reply → Prop
  | .response status _ _ => status = 200
  | .failed _ => False

/-- Rows are settled after a release was called. -/
def SettledCalled (w : BppWorld) : Prop :=
  ∀ t p, w.store.policy t = some p → p.reconcileStatus = "SETTLED" →
    ReleaseCalled w t (fun _ => True) fun _ => True

theorem ReleaseCalled.asked {s : BecknService} {w : BppWorld} {t : String} {P : Db → Prop} {Q : Reply → Prop}
    (h : ReleaseCalled w t P Q) (d : Nat) (o : Op) (c : Choice) :
    ReleaseCalled ((machine s).asked w d o c) t P Q := by
  obtain ⟨e, req, payload, db, reply, hr, ht, hev, hP, hQ⟩ := h
  exact ⟨e, req, payload, db, reply, hr, ht, List.mem_cons_of_mem _ hev, hP, hQ⟩

/-- A row is newly settled by its own reconcile only. -/
private theorem RowStep.settled {t : String} {o : Op} {p : Option Policy} {q' : Policy} (h : RowStep t o p (some q'))
    (hs : q'.reconcileStatus = "SETTLED") :
    (∃ q, p = some q ∧ q.reconcileStatus = "SETTLED") ∨ o = .markSettled t := by
  cases h with
  | keep => exact .inl ⟨q', rfl, hs⟩
  | insert => exact absurd hs (by simp [newPolicy])
  | reinit p | activate p | cancel p => exact .inl ⟨p, rfl, hs⟩
  | paid p rid => exact .inl ⟨p, rfl, by cases rid <;> exact hs⟩
  | settle p => exact .inr rfl

private theorem settledCalled_keeps (s : BecknService) : (protocol s).Keeps Machine.anything SettledCalled where
  start w d r h _ hr _ := by
    intro t p hp hs
    obtain ⟨e, req, payload, db, reply, hr', ht, hev, -, -⟩ := h t p hp hs
    have hstays := World.request?_stays (r := r) hr hr'
    exact ⟨e, req, payload, db, reply, hstays, ht, List.mem_cons_of_mem _ hev, trivial, trivial⟩
  exec w d r o c h _ hr ho := by
    intro t p hp hs
    have hrow := exec_rowStep o c w.store t
    change (exec o c w.store).2.policy t = some p at hp
    rw [hp] at hrow
    rcases hrow.settled hs with ⟨q, hq, hqs⟩ | rfl
    · exact (h t q hq hqs).asked d o c
    · generalize hh : w.exchanges d = hist at ho
      cases ho with
      | settle req row reply =>
        have hx : (Op.post .ionService "settlement/release" (releaseFor s req row)).answered reply ∈ w.exchanges d := by
          rw [hh]
          exact List.mem_cons_self
        obtain ⟨db, hev⟩ := World.mem_exchanges.1 hx
        exact ReleaseCalled.asked ⟨d, req, _, db, reply, hr, rfl, hev, trivial, trivial⟩ d _ c

/-- In every reachable state, a settled row has had a reconcile which called ION's release and was answered. -/
theorem settled_release_called (s : BecknService) (k : BppConfig) (h : Reachable s k) (t : String) (p : Policy)
    (hp : k.world.store.policy t = some p) (hs : p.reconcileStatus = "SETTLED") :
    ReleaseCalled k.world t (fun _ => True) fun _ => True :=
  Protocol.invariant (settledCalled_keeps s) (Protocol.Obeyed.init _) (by rintro _ _ ⟨⟩) h t p hp hs

/-- A reconcile of `t` whose release is answered with `reply`. -/
def reconcileCall (t : String) (reply : Reply) : Request × (Nat → Choice) :=
  (.reconcile (bareMessage t), fun _ => { reply := reply })

theorem settled_release_called_issued :
    ∃ p, ((machine {}).serve (issuedRun "t") (reconcileCall "t" (.status 200)).1
        (reconcileCall "t" (.status 200)).2).world.store.policy "t" = some p ∧
      p.reconcileStatus = "SETTLED" ∧ ReleaseCalled ((machine {}).serve (issuedRun "t")
        (reconcileCall "t" (.status 200)).1 (reconcileCall "t" (.status 200)).2).world "t" (fun _ => True)
          fun _ => True := by
  have h : (((machine {}).serve (issuedRun "t") (reconcileCall "t" (.status 200)).1
      (reconcileCall "t" (.status 200)).2).world.store.policy "t").map Policy.reconcileStatus = some "SETTLED" := by
    decide +kernel
  obtain ⟨p, hp, hs⟩ := Option.map_eq_some_iff.1 h
  exact ⟨p, hp, hs, settled_release_called {} _ ((issuedRun_reachable "t").trans (Machine.serve_runs ..)) "t" p hp hs⟩

/-- No request to ION succeeds in this event. -/
private def releaseFails : Event Db Request Op Op.Ans → Bool
  | .exec _ _ (.post .ionService _ _) (.response status _ _) => status = 502
  | .exec _ _ (.post .ionService _ _) (.failed _) => false
  | _ => true

/-- The row of `t` is not active in this event. -/
private def unissuedIn (t : String) : Event Db Request Op Op.Ans → Bool
  | .exec _ db _ _ => !(db.policy t).any fun p => p.status = .active
  | _ => true

/-- A row is settled although the release failed, and a row is settled that was neither paid nor issued. -/
theorem settled_without_release :
    (¬∀ (s : BecknService) (k : BppConfig), Reachable s k → ∀ t p, k.world.store.policy t = some p →
      p.reconcileStatus = "SETTLED" → ReleaseCalled k.world t (fun _ => True) Reply.success) ∧
    ¬∀ (s : BecknService) (k : BppConfig), Reachable s k → ∀ t p, k.world.store.policy t = some p →
      p.reconcileStatus = "SETTLED" → ReleaseCalled k.world t (·.ActivePaid t) fun _ => True := by
  constructor
  · intro hall
    let k := (machine {}).serve (issuedRun "t") (reconcileCall "t" (.status 502)).1 (reconcileCall "t" (.status 502)).2
    have h : (k.world.store.policy "t").map Policy.reconcileStatus = some "SETTLED" := by decide +kernel
    have hfail : k.world.trace.all releaseFails = true := by decide +kernel
    obtain ⟨p, hp, hs⟩ := Option.map_eq_some_iff.1 h
    obtain ⟨d, req, payload, db, reply, -, -, hev, -, hok⟩ :=
      hall {} k ((issuedRun_reachable "t").trans (Machine.serve_runs ..)) "t" p hp hs
    have hr := List.all_eq_true.1 hfail _ hev
    cases reply with
    | failed err => cases hr
    | response status body json =>
      have h502 : status = 502 := of_decide_eq_true hr
      have h200 : status = 200 := hok
      omega
  · intro hall
    let k := (machine {}).serveAll start [(.init (bareMessage "t"), fun _ => {}), reconcileCall "t" (.status 200)]
    have h : (k.world.store.policy "t").map Policy.reconcileStatus = some "SETTLED" := by decide +kernel
    have hidle : k.world.trace.all (unissuedIn "t") = true := by decide +kernel
    obtain ⟨p, hp, hs⟩ := Option.map_eq_some_iff.1 h
    obtain ⟨d, req, payload, db, reply, -, -, hev, ⟨q, hq, ha, -⟩, -⟩ :=
      hall {} k (Machine.serveAll_runs ..) "t" p hp hs
    have hr := List.all_eq_true.1 hidle _ hev
    simp [unissuedIn, hq, ha] at hr

end IonInsurance.Bpp
