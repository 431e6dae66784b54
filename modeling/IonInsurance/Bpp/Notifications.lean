import IonInsurance.Bpp.Issuance

/-!
# Two notifications of one payment

A purchase is notified twice, by the webhook of DOKU with its Request-Id and by the BAP with the id of the checkout.
Each notification that names a request id writes it over the one that is there, and the settlement is released under
the last.
-/

namespace IonInsurance.Bpp

open Interleave

/-- The database carries out the statements that mark a row, and the request id fits its column. -/
def Marking (requestID : String) (cs : Nat → Choice) : Prop :=
  (cs 0).sqlError = none ∧ (cs 1).sqlError = none ∧ (requestID = "" ∨ fitsVarchar 255 requestID = true)

instance (requestID : String) (cs : Nat → Choice) : Decidable (Marking requestID cs) :=
  inferInstanceAs (Decidable (_ ∧ _ ∧ (_ ∨ _)))

/-- The row of a policy that is not active, after a notification. -/
def Policy.notified (p : Policy) (requestID : String) (cs : Nat → Choice) : Policy :=
  if Marking requestID cs then p.markPaid (storedRequestID requestID) else p

theorem Policy.notified_of_marking {p : Policy} {requestID : String} {cs : Nat → Choice} (h : Marking requestID cs) :
    p.notified requestID cs = p.markPaid (storedRequestID requestID) :=
  if_pos h

theorem Policy.notified_of_not {p : Policy} {requestID : String} {cs : Nat → Choice} (h : ¬Marking requestID cs) :
    p.notified requestID cs = p :=
  if_neg h

/-- The row is paid if it was paid before, or if it is marked. -/
theorem Policy.notified_paid_iff (p : Policy) (requestID : String) (cs : Nat → Choice) :
    (p.notified requestID cs).paymentReceived = true ↔ p.paymentReceived = true ∨ Marking requestID cs := by
  by_cases hmark : Marking requestID cs
  · rw [Policy.notified_of_marking hmark]
    exact ⟨fun _ => .inr hmark, fun _ => by cases storedRequestID requestID <;> rfl⟩
  · rw [Policy.notified_of_not hmark]
    exact ⟨.inl, fun h => h.resolve_right hmark⟩

/-- Only a request id that is not empty has to fit its column. -/
private theorem all_storedRequestID (requestID : String) :
    (storedRequestID requestID).all (fitsVarchar 255) = true ↔ requestID = "" ∨ fitsVarchar 255 requestID = true := by
  unfold storedRequestID
  by_cases hempty : requestID = ""
  · rw [if_pos hempty]
    exact ⟨fun _ => .inl hempty, fun _ => rfl⟩
  · rw [if_neg hempty]
    exact ⟨.inr, fun h => h.resolve_left hempty⟩

section

variable {s : BecknService} {w : BppWorld} {d : Nat} {t : String} {p : Policy}

/-- The environment makes the reading of the row fail. -/
private theorem answer_selectStatus_error {err : String} {c : Choice} (h : c.sqlError = some err) :
    (machine s).answer w (.selectStatus t) c = .error err := by
  simp only [Machine.answer, machine, exec, h, statement_some]
  rfl

/-- The row is read. -/
private theorem answer_selectStatus_ok {c : Choice} (h : c.sqlError = none) (hp : w.store.policy t = some p) :
    (machine s).answer w (.selectStatus t) c = .ok (p.id, p.status) := by
  simp only [Machine.answer, machine, exec, h, statement_none, Db.selectPolicy, hp]
  rfl

/-- A notification for a policy that is not active, run to its end. -/
theorem finish_paymentReceived {requestID : String} {amount : ℚ} {cs : Nat → Choice}
    (hp : w.store.policy t = some p) (ha : p.status ≠ .active) :
    ((machine s).finish d (handlePaymentReceived ("ins-" ++ t) requestID amount) cs w).2.store.policy t =
      some (p.notified requestID cs) := by
  unfold handlePaymentReceived
  rw [hasPrefix_append, if_pos rfl]
  dsimp only
  rw [trimPrefix_append, Machine.finish_call]
  have hstore : ((machine s).asked w d (.selectStatus t) (cs 0)).store = w.store := statement_read ..
  cases h₀ : (cs 0).sqlError with
  | some err =>
    have hnot : ¬Marking requestID cs := by
      intro h
      rw [h.1] at h₀
      cases h₀
    rw [answer_selectStatus_error h₀, Policy.notified_of_not hnot]
    change ((machine s).asked w d (.selectStatus t) (cs 0)).store.policy t = _
    rw [hstore, hp]
  | none =>
    rw [answer_selectStatus_ok h₀ hp]
    dsimp only
    rw [if_neg ha, Machine.finish_call]
    generalize hw₁ : (machine s).asked w d (.selectStatus t) (cs 0) = w₁ at hstore ⊢
    have hp₁ : w₁.store.policy t = some p := by rw [hstore, hp]
    rcases markPaid_cases w₁.store t (storedRequestID requestID) (cs 1) with ⟨⟨err, hexec⟩, hnot⟩ | ⟨hanswer, h₁, hfit⟩
    · -- the update fails, and the delivery ends there
      have herror : (machine s).answer w₁ (.markPaid t (storedRequestID requestID)) (cs 1) = .error err :=
        congrArg Prod.fst hexec
      have hend : ((machine s).asked w₁ d (.markPaid t (storedRequestID requestID)) (cs 1)).store = w₁.store :=
        congrArg Prod.snd hexec
      rw [Policy.notified_of_not fun h => hnot ⟨h.2.1, (all_storedRequestID requestID).2 h.2.2⟩]
      unfold storedRequestID at herror hend
      rw [herror]
      change ((machine s).asked w₁ d _ (cs 1)).store.policy t = _
      rw [hend, hp₁]
    · -- the row is marked, and the payment is inserted after it
      have hok : (machine s).answer w₁ (.markPaid t (storedRequestID requestID)) (cs 1) = .ok () := hanswer
      have hrow := markPaid_row hp₁ hanswer.symm
      rw [Policy.notified_of_marking ⟨h₀, h₁, (all_storedRequestID requestID).1 hfit⟩]
      unfold storedRequestID at hok hrow ⊢
      rw [hok]
      dsimp only
      rw [Machine.finish_call]
      have hinsert := exec_rowStep (.insertPayment p.id "DOKU_VA" ("ins-" ++ t) (int64 amount)) (cs 2)
        ((machine s).asked w₁ d (.markPaid t (if requestID = "" then none else some requestID)) (cs 1)).store t
      generalize hrow₂ : (exec (.insertPayment p.id "DOKU_VA" ("ins-" ++ t) (int64 amount)) (cs 2)
        ((machine s).asked w₁ d (.markPaid t (if requestID = "" then none else some requestID)) (cs 1)).store).2.policy t
          = row at hinsert
      cases hinsert with
      | keep => exact hrow₂.trans hrow

end

/-! ### The rows after a notification -/

section

variable {s : BecknService} {w : BppWorld} {d : Nat} {t : String}

/-- What a notification asks: the row of its transaction, to mark it, and to store the payment. -/
private theorem handlePaymentReceived_asks {A : Op → Prop} {invoice requestID : String} {amount : ℚ}
    (hselect : ∀ u, A (.selectStatus u)) (hmark : ∀ u rid, invoice = "ins-" ++ u → A (.markPaid u rid))
    (hinsert : ∀ id method ref amount, A (.insertPayment id method ref amount)) :
    (handlePaymentReceived invoice requestID amount).Asks A := by
  unfold handlePaymentReceived
  split
  · rename_i hprefix
    refine ⟨hselect _, fun row => ?_⟩
    change Except String (Int × PolicyStatus) at row
    cases row with
    | error err => trivial
    | ok row =>
      obtain ⟨policyID, currentStatus⟩ := row
      change Prog.Asks A (if currentStatus = .active then _ else _)
      split
      · trivial
      · refine ⟨hmark _ _ (eq_append_of_hasPrefix hprefix), fun marked => ?_⟩
        change Except String Unit at marked
        cases marked with
        | error err => trivial
        | ok _ => exact ⟨hinsert _ _ _ _, fun _ => trivial⟩
  · trivial

/-- A notification for another invoice leaves the row alone. -/
private theorem finish_otherInvoice {invoice requestID : String} {amount : ℚ} (h : invoice ≠ "ins-" ++ t)
    (cs : Nat → Choice) :
    ((machine s).finish d (handlePaymentReceived invoice requestID amount) cs w).2.store.policy t =
      w.store.policy t := by
  have hasks : (handlePaymentReceived invoice requestID amount).Asks fun o => ∀ p p', RowStep t o p p' → p' = p := by
    refine handlePaymentReceived_asks (fun u p p' hs => ?_) (fun u rid hu p p' hs => ?_) fun _ _ _ _ p p' hs => ?_
    · cases hs with
      | keep => rfl
    · cases hs with
      | keep => rfl
      | paid => exact absurd hu h
    · cases hs with
      | keep => rfl
  exact Machine.ends_of_asks (P := fun db : Db => db.policy t = w.store.policy t) hasks
    (fun o c db ho hdb => (ho _ _ (exec_rowStep o c db t)).trans hdb) rfl cs

/-- No row is made. -/
private theorem finish_unknown {invoice requestID : String} {amount : ℚ} (h : w.store.policy t = none)
    (cs : Nat → Choice) :
    ((machine s).finish d (handlePaymentReceived invoice requestID amount) cs w).2.store.policy t = none := by
  have hasks : (handlePaymentReceived invoice requestID amount).Asks fun o => ∀ p', RowStep t o none p' → p' = none := by
    refine handlePaymentReceived_asks (fun u p' hs => ?_) (fun u rid hu p' hs => ?_) fun _ _ _ _ p' hs => ?_
    all_goals
      cases hs with
      | keep => rfl
  exact Machine.ends_of_asks (P := fun db : Db => db.policy t = none) hasks
    (fun o c db ho hdb => ho _ (hdb ▸ exec_rowStep o c db t)) h cs

/-- A notification for an active policy ends with the reading of its row. -/
private theorem finish_active {requestID : String} {amount : ℚ} {p : Policy} (hp : w.store.policy t = some p)
    (ha : p.status = .active) (cs : Nat → Choice) :
    ((machine s).finish d (handlePaymentReceived ("ins-" ++ t) requestID amount) cs w).2.store.policy t = some p := by
  unfold handlePaymentReceived
  rw [hasPrefix_append, if_pos rfl]
  dsimp only
  rw [trimPrefix_append, Machine.finish_call]
  have hstore : ((machine s).asked w d (.selectStatus t) (cs 0)).store = w.store := statement_read ..
  have hend : ((machine s).asked w d (.selectStatus t) (cs 0)).store.policy t = some p := by rw [hstore, hp]
  cases h₀ : (cs 0).sqlError with
  | some err =>
    rw [answer_selectStatus_error h₀]
    exact hend
  | none =>
    rw [answer_selectStatus_ok h₀ hp]
    dsimp only
    rw [if_pos ha]
    exact hend

/-- The rows after a notification that has been served. -/
theorem policy_serve_paymentReceived (k : BppConfig) (invoice requestID : String) (amount : ℚ) (cs : Nat → Choice)
    (t : String) : ((machine s).serve k (.paymentReceived invoice requestID amount) cs).world.store.policy t =
      if invoice = "ins-" ++ t then
        (k.world.store.policy t).map fun p => if p.status = .active then p else p.notified requestID cs
      else k.world.store.policy t := by
  let w := k.world.started k.progs.length (.paymentReceived invoice requestID amount)
  by_cases hinvoice : invoice = "ins-" ++ t
  · rw [if_pos hinvoice]
    subst hinvoice
    cases hp : k.world.store.policy t with
    | none => exact finish_unknown (w := w) hp cs
    | some p =>
      rw [Option.map_some]
      by_cases ha : p.status = .active
      · rw [if_pos ha]
        exact finish_active (w := w) hp ha cs
      · rw [if_neg ha]
        exact finish_paymentReceived (w := w) hp ha
  · rw [if_neg hinvoice]
    exact finish_otherInvoice (w := w) hinvoice cs

end

/-! ### In either order -/

/-- A notification for an invoice, and what the environment does while it is handled. -/
structure Notification where
  requestID : String
  amount : ℚ
  choices : Nat → Choice

/-- The notification for the invoice of `t`. -/
def Notification.call (n : Notification) (t : String) : Request × (Nat → Choice) :=
  (.paymentReceived ("ins-" ++ t) n.requestID n.amount, n.choices)

/-- The notification writes its request id into the row. -/
def Notification.Names (n : Notification) : Prop := n.requestID ≠ "" ∧ Marking n.requestID n.choices

instance (n : Notification) : Decidable n.Names := inferInstanceAs (Decidable (_ ∧ _))

/-- Handled in either order, one to its end before the other, the notifications leave the same row, and a reconcile
asks for the same release. -/
structure Commute (s : BecknService) (k : BppConfig) (t : String) (m n : Notification) : Prop where
  row : ((machine s).serveAll k [m.call t, n.call t]).world.store.policy t =
    ((machine s).serveAll k [n.call t, m.call t]).world.store.policy t
  release : ∀ req c, transactionID req = t →
    releaseFor s req (exec (.selectForRelease t) c ((machine s).serveAll k [m.call t, n.call t]).world.store).1 =
      releaseFor s req (exec (.selectForRelease t) c ((machine s).serveAll k [n.call t, m.call t]).world.store).1

theorem Policy.notified_status (p : Policy) (requestID : String) (cs : Nat → Choice) :
    (p.notified requestID cs).status = p.status := by
  unfold Policy.notified
  split
  · unfold storedRequestID
    split <;> rfl
  · rfl

/-- The row after two notifications. -/
theorem serveAll_notified {s : BecknService} {k : BppConfig} {t : String} {p : Policy}
    (hp : k.world.store.policy t = some p) (ha : p.status ≠ .active) (m n : Notification) :
    ((machine s).serveAll k [m.call t, n.call t]).world.store.policy t =
      some ((p.notified m.requestID m.choices).notified n.requestID n.choices) := by
  have hfirst : ((machine s).serve k (m.call t).1 (m.call t).2).world.store.policy t =
      some (p.notified m.requestID m.choices) :=
    finish_paymentReceived (w := k.world.started _ _) hp ha
  have hstill : (p.notified m.requestID m.choices).status ≠ .active := by
    rw [Policy.notified_status]
    exact ha
  rw [Machine.serveAll_cons, Machine.serveAll_cons, Machine.serveAll_nil]
  exact finish_paymentReceived (w := World.started _ _ _) hfirst hstill

/-- A notification that names a request id stores it. -/
private theorem notified_of_names {n : Notification} (h : n.Names) (p : Policy) :
    p.notified n.requestID n.choices = { p with paymentReceived := true, dokuRequestID := some n.requestID } := by
  rw [Policy.notified_of_marking h.2]
  unfold storedRequestID
  rw [if_neg h.1]
  rfl

/-- Any other notification at most marks the row as paid. -/
private theorem notified_of_not_names {n : Notification} (h : ¬n.Names) :
    (∀ p : Policy, p.notified n.requestID n.choices = p) ∨
      ∀ p : Policy, p.notified n.requestID n.choices = { p with paymentReceived := true } := by
  by_cases hmark : Marking n.requestID n.choices
  · have hempty : n.requestID = "" := by_contra fun hne => h ⟨hne, hmark⟩
    right
    intro p
    rw [Policy.notified_of_marking hmark]
    unfold storedRequestID
    rw [if_pos hempty]
    rfl
  · left
    intro p
    exact Policy.notified_of_not hmark

/-- A notification that names no request id commutes with every other. -/
private theorem notified_comm {m n : Notification} (h : ¬n.Names) (p : Policy) :
    (p.notified m.requestID m.choices).notified n.requestID n.choices =
      (p.notified n.requestID n.choices).notified m.requestID m.choices := by
  rcases notified_of_not_names h with hkeep | hpaid
  · rw [hkeep, hkeep]
  · rw [hpaid, hpaid]
    by_cases hm : m.Names
    · rw [notified_of_names hm, notified_of_names hm]
    · rcases notified_of_not_names hm with hkeep | hpaid'
      · rw [hkeep, hkeep]
      · rw [hpaid', hpaid']

/-- Two notifications of one payment commute exactly if they name the same request id, or one of them writes none. -/
theorem notifications_commute_iff (s : BecknService) (k : BppConfig) (t : String) (p : Policy) (m n : Notification)
    (hp : k.world.store.policy t = some p) (hpend : p.status = .pendingIssuance) :
    Commute s k t m n ↔ m.requestID = n.requestID ∨ ¬m.Names ∨ ¬n.Names := by
  have ha : p.status ≠ .active := by
    rw [hpend]
    decide
  have hmn := serveAll_notified (s := s) hp ha m n
  have hnm := serveAll_notified (s := s) hp ha n m
  constructor
  · intro h
    by_cases hm : m.Names
    · by_cases hn : n.Names
      · -- both ids are stored, and the second stays
        have hrow := h.row
        rw [hmn, hnm, notified_of_names hm, notified_of_names hn, notified_of_names hn, notified_of_names hm] at hrow
        have hid := congrArg Policy.dokuRequestID (Option.some.inj hrow)
        exact .inl (Option.some.inj hid).symm
      · exact .inr (.inr hn)
    · exact .inr (.inl hm)
  · intro h
    have heq : (p.notified m.requestID m.choices).notified n.requestID n.choices =
        (p.notified n.requestID n.choices).notified m.requestID m.choices := by
      by_cases hn : n.Names
      · by_cases hm : m.Names
        · have hid : m.requestID = n.requestID := by
            rcases h with hid | hm' | hn'
            · exact hid
            · exact absurd hm hm'
            · exact absurd hn hn'
          rw [notified_of_names hm, notified_of_names hn, notified_of_names hn, notified_of_names hm, hid]
        · exact (notified_comm hm p).symm
      · exact notified_comm hn p
    have hrow : ((machine s).serveAll k [m.call t, n.call t]).world.store.policy t =
        ((machine s).serveAll k [n.call t, m.call t]).world.store.policy t := by rw [hmn, hnm, heq]
    refine ⟨hrow, fun req c _ => ?_⟩
    have hread : (exec (.selectForRelease t) c ((machine s).serveAll k [m.call t, n.call t]).world.store).1 =
        (exec (.selectForRelease t) c ((machine s).serveAll k [n.call t, m.call t]).world.store).1 := by
      simp only [exec]
      cases c.sqlError with
      | some err => rfl
      | none =>
        simp only [statement_none, Db.selectPolicy]
        rw [hrow]
    rw [hread]

/-- The configuration after the init of `t`. -/
private def pendingRun (t : String) : BppConfig := (machine {}).serve start (.init (bareMessage t)) fun _ => {}

/-- The webhook of DOKU names its own Request-Id. -/
private def webhookNotification : Notification := ⟨"doku-request-1", 160000, fun _ => {}⟩

/-- The BAP names the id of the checkout. -/
private def checkoutNotification : Notification := ⟨"checkout-1", 160000, fun _ => {}⟩

private theorem pendingRun_row :
    ∃ p, (pendingRun "t").world.store.policy "t" = some p ∧ p.status = .pendingIssuance := by
  have h : ((pendingRun "t").world.store.policy "t").map Policy.status = some .pendingIssuance := by decide +kernel
  exact Option.map_eq_some_iff.1 h

theorem notifications_commute_iff_pending :
    Commute {} (pendingRun "t") "t" webhookNotification ⟨"", 160000, fun _ => {}⟩ := by
  obtain ⟨p, hp, hpend⟩ := pendingRun_row
  refine (notifications_commute_iff {} (pendingRun "t") "t" p webhookNotification ⟨"", 160000, fun _ => {}⟩ hp hpend).2 ?_
  exact .inr (.inr fun h => h.1 rfl)

/-- The webhook and the notification of the BAP name different ids, and the release is asked for under the last. -/
theorem last_notification_wins :
    ¬∀ (s : BecknService) (k : BppConfig) (t : String) (p : Policy) (m n : Notification), Reachable s k →
      k.world.store.policy t = some p → p.status = .pendingIssuance → Commute s k t m n := by
  intro hall
  obtain ⟨p, hp, hpend⟩ := pendingRun_row
  have hcommute := hall {} (pendingRun "t") "t" p webhookNotification checkoutNotification (Machine.serve_runs ..) hp hpend
  have hrow := congrArg (Option.map Policy.dokuRequestID) hcommute.row
  revert hrow
  decide +kernel

end IonInsurance.Bpp
