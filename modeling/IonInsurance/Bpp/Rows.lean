import IonInsurance.Bpp.Protocol

/-!
# What an operation does to a row

`RowStep t o` relates the row of transaction `t` before and after the operation `o`: there are six ways to change a
row (`exec_rowStep`).  `DbStep` says what an operation does to all tables, and what follows about single tables is read
off from it.  The last lemmas say what a statement that succeeds has done.
-/

namespace IonInsurance.Bpp

open Interleave

/-- The row that `HandleInit` inserts. -/
def newPolicy (id : Int) (x : PolicyTexts) (idv : Int) : Policy where
  id := id
  bapID := x.bapID
  bppID := x.bppID
  status := .pendingIssuance
  policyholderNIK := x.nik
  vehicleVIN := x.vin
  idv := idv
  dokuInvoiceNumber := some x.invoice

/-- The conflict branch of the upsert of `HandleInit`. -/
def Policy.reinit (p : Policy) (invoice : String) : Policy :=
  { p with status := .pendingIssuance, dokuInvoiceNumber := some invoice }

def Policy.activate (p : Policy) (policyNumber certURL : String) (coverageStart coverageEnd : Time) : Policy :=
  { p with
    status := .active
    policyNumber := some policyNumber
    certificateURL := some certURL
    coverageStart := some coverageStart.toMicro
    coverageEnd := some coverageEnd.toMicro }

def Policy.markPaid (p : Policy) : Option String → Policy
  | some rid => { p with paymentReceived := true, dokuRequestID := some rid }
  | none => { p with paymentReceived := true }

def Policy.cancel (p : Policy) : Policy := { p with status := .cancelled }

def Policy.settle (p : Policy) : Policy := { p with reconcileStatus := "SETTLED" }

inductive RowStep (t : String) : Op → Option Policy → Option Policy → Prop where
  | keep (o : Op) (p : Option Policy) : RowStep t o p p
  | insert (id : Int) {txnID bapID bppID nik vin : String} (idv : Int) {invoice : String} {x : PolicyTexts}
      (hx : policyTexts txnID bapID bppID nik vin invoice = some x) (ht : x.txnID = t) :
      RowStep t (.insertPolicy txnID bapID bppID nik vin idv invoice) none (some (newPolicy id x idv))
  | reinit (p : Policy) {txnID bapID bppID nik vin : String} (idv : Int) {invoice : String} {x : PolicyTexts}
      (hx : policyTexts txnID bapID bppID nik vin invoice = some x) (ht : x.txnID = t) :
      RowStep t (.insertPolicy txnID bapID bppID nik vin idv invoice) (some p) (some (p.reinit x.invoice))
  | activate (p : Policy) (number url : String) (coverageStart coverageEnd : Time) :
      RowStep t (.activatePolicy number url coverageStart coverageEnd t) (some p)
        (some (p.activate number url coverageStart coverageEnd))
  | paid (p : Policy) (rid : Option String) : RowStep t (.markPaid t rid) (some p) (some (p.markPaid rid))
  | cancel (p : Policy) (h : p.status = .pendingIssuance) :
      RowStep t (.cancelPending t) (some p) (some p.cancel)
  | settle (p : Policy) : RowStep t (.markSettled t) (some p) (some p.settle)

/-- The operation is the upsert of an init, and its row is that of `t`. -/
def Op.Inits (t : String) : Op → Prop
  | .insertPolicy txnID bapID bppID nik vin _ invoice =>
    ∃ x, policyTexts txnID bapID bppID nik vin invoice = some x ∧ x.txnID = t
  | _ => False

/-- The row of `t` has that status. -/
def Db.HasStatus (s : Db) (t : String) (status : PolicyStatus) : Prop := ∃ p, s.policy t = some p ∧ p.status = status

instance (s : Db) (t : String) (status : PolicyStatus) : Decidable (s.HasStatus t status) :=
  decidable_of_iff ((s.policy t).any fun p => p.status = status) (by simp [Db.HasStatus, Option.any_eq_true])

theorem Db.HasStatus.unique {s : Db} {t : String} {status status' : PolicyStatus} (h : s.HasStatus t status)
    (h' : s.HasStatus t status') : status = status' := by
  obtain ⟨p, hp, rfl⟩ := h
  obtain ⟨q, hq, rfl⟩ := h'
  rw [hp] at hq
  rw [Option.some.inj hq]

/-- A row is newly cancelled by a cancel of a pending row only. -/
theorem RowStep.cancelled {t : String} {o : Op} {p p' : Option Policy} (h : RowStep t o p p')
    (hp : ∃ q, p' = some q ∧ q.status = .cancelled) :
    (∃ q, p = some q ∧ q.status = .cancelled) ∨
      o = .cancelPending t ∧ ∃ q, p = some q ∧ q.status = .pendingIssuance := by
  obtain ⟨q, rfl, hq⟩ := hp
  cases h with
  | keep => exact .inl ⟨q, rfl, hq⟩
  | insert | reinit | activate => cases hq
  | paid p rid => exact .inl ⟨p, rfl, by cases rid <;> exact hq⟩
  | cancel p hp => exact .inr ⟨rfl, p, rfl, hp⟩
  | settle p => exact .inl ⟨p, rfl, hq⟩

/-- A row is newly active by the update of a confirm only. -/
theorem RowStep.active {t : String} {o : Op} {p p' : Option Policy} (h : RowStep t o p p')
    (hp : ∃ q, p' = some q ∧ q.status = .active) :
    (∃ q, p = some q ∧ q.status = .active) ∨ ∃ number url a b, o = .activatePolicy number url a b t := by
  obtain ⟨q, rfl, hq⟩ := hp
  cases h with
  | keep => exact .inl ⟨q, rfl, hq⟩
  | insert | reinit | cancel => cases hq
  | activate => exact .inr ⟨_, _, _, _, rfl⟩
  | paid p rid => exact .inl ⟨p, rfl, by cases rid <;> exact hq⟩
  | settle p => exact .inl ⟨p, rfl, hq⟩

/-- What an operation does to the tables: it updates a row, inserts one, stores a payment, adds to the ratings or the
tickets, or leaves them alone. -/
inductive DbStep (s : Db) : Op → Choice → Db → Prop where
  | keep (o : Op) (c : Choice) : DbStep s o c s
  | update {o : Op} {c : Choice} (t : String) (f : Policy → Policy) (hc : c.sqlError = none)
      (hf : ∀ p, RowStep t o (some p) (some (f p))) : DbStep s o c (s.updatePolicy t f)
  | insert (c : Choice) {txnID bapID bppID nik vin : String} (idv : Int) {invoice : String} {x : PolicyTexts}
      (hx : policyTexts txnID bapID bppID nik vin invoice = some x) (hnew : s.policy x.txnID = none) :
      DbStep s (.insertPolicy txnID bapID bppID nik vin idv invoice) c
        { s with
          policies := s.policies.insert x.txnID (newPolicy s.nextPolicyID x idv)
          nextPolicyID := s.nextPolicyID + 1 }
  | payment (c : Choice) (id : Int) (method ref method' ref' : String) (amount : Int) :
      DbStep s (.insertPayment id method ref amount) c
        { s with payments := s.payments ++ [⟨id, method', ref', amount, c.now.toMicro⟩] }
  | record (o : Op) (c : Choice) (ratings : List Rating) (tickets : List SupportTicket) :
      DbStep s o c { s with ratings := ratings, supportTickets := tickets }

/-- Every operation changes the tables in one of these ways. -/
theorem exec_dbStep (o : Op) (c : Choice) (s : Db) : DbStep s o c (exec o c s).2 := by
  have hstatement : ∀ {α : Type} (run : Except String α × Db), (c.sqlError = none → DbStep s o c run.2) →
      DbStep s o c (statement c.sqlError s run).2 := by
    intro α run h
    cases hc : c.sqlError with
    | none => exact h hc
    | some err => exact .keep ..
  cases o with
  | insertPolicy t bapID bppID nik vin idv invoice =>
    refine hstatement _ fun hc => ?_
    unfold Db.insertPolicy
    split
    · rename_i x hx
      split
      · exact .update x.txnID _ hc fun p => .reinit p idv hx rfl
      · rename_i hnew
        exact .insert c idv hx hnew
    · exact .keep ..
  | activatePolicy number url a b t =>
    refine hstatement _ fun hc => ?_
    unfold Db.activatePolicy
    split
    · exact .update t _ hc fun p => .activate ..
    · exact .keep ..
  | markPaid t rid =>
    refine hstatement _ fun hc => ?_
    unfold Db.markPaid
    cases rid with
    | none => exact .update t _ hc fun p => .paid p none
    | some rid =>
      dsimp only
      split
      · exact .update t _ hc fun p => .paid p (some rid)
      · exact .keep ..
  | cancelPending t =>
    refine hstatement _ fun hc => .update t _ hc fun p => ?_
    split
    · rename_i hp
      exact .cancel p hp
    · exact .keep ..
  | markSettled t => exact hstatement _ fun hc => .update t _ hc fun p => .settle p
  | insertPayment id method ref amount =>
    refine hstatement _ fun _ => ?_
    unfold Db.insertPayment
    split
    · exact .payment ..
    · exact .keep ..
  | insertRating id score feedback =>
    refine hstatement _ fun _ => ?_
    unfold Db.insertRating
    split
    · split
      · exact .record ..
      · exact .keep ..
    · exact .keep ..
  | insertTicket id description =>
    refine hstatement _ fun _ => ?_
    unfold Db.insertTicket
    split
    · exact .record ..
    · exact .keep ..
  | now => exact .keep ..
  | post => exact .keep ..
  | _ => exact hstatement _ fun _ => .keep ..

/-- Every operation changes a row in one of the ways above. -/
theorem exec_rowStep (o : Op) (c : Choice) (s : Db) (t : String) :
    RowStep t o (s.policy t) ((exec o c s).2.policy t) := by
  have hstep := exec_dbStep o c s
  generalize (exec o c s).2 = s' at hstep ⊢
  cases hstep with
  | keep => exact .keep ..
  | update u f hc hf =>
    rw [Db.policy_updatePolicy]
    split
    · rename_i htu
      subst htu
      cases s.policy t with
      | none => exact .keep ..
      | some p => exact hf p
    · exact .keep ..
  | @insert _ _ _ _ _ _ idv _ x hx hnew =>
    by_cases htx : t = x.txnID
    · -- the row of `t` is the one inserted
      subst htx
      have hrow : (s.policies.insert x.txnID (newPolicy s.nextPolicyID x idv)).lookup x.txnID =
          some (newPolicy s.nextPolicyID x idv) := AList.lookup_insert _
      rw [hnew]
      show RowStep x.txnID _ none ((s.policies.insert x.txnID _).lookup x.txnID)
      rw [hrow]
      exact .insert _ idv hx rfl
    · have hrow : (s.policies.insert x.txnID (newPolicy s.nextPolicyID x idv)).lookup t = s.policy t :=
        AList.lookup_insert_ne htx
      show RowStep t _ _ ((s.policies.insert x.txnID _).lookup t)
      rw [hrow]
      exact .keep ..
  | payment => exact .keep ..
  | record => exact .keep ..

/-- The update of a confirm fails, or it activates its row. -/
theorem activatePolicy_cases (number url : String) (a b : Time) (t : String) (c : Choice) (s : Db) :
    (∃ err, exec (.activatePolicy number url a b t) c s = (.error err, s)) ∨
      c.sqlError = none ∧ exec (.activatePolicy number url a b t) c s =
        (.ok (), s.updatePolicy t (·.activate number url a b)) := by
  simp only [exec]
  cases he : c.sqlError with
  | some err => exact .inl ⟨err, rfl⟩
  | none =>
    rw [statement_none]
    unfold Db.activatePolicy
    split
    · exact .inr ⟨rfl, rfl⟩
    · exact .inl ⟨_, rfl⟩

/-! ### The number of active rows -/

/-- A change of a row that neither activates it nor takes it back keeps it active or not. -/
private theorem RowStep.active_iff {t : String} {o : Op} {p q : Policy} (h : RowStep t o (some p) (some q))
    (hact : ∀ number url a b t, o ≠ .activatePolicy number url a b t)
    (hinit : o.Inits t → p.status ≠ .active) : q.status = .active ↔ p.status = .active := by
  cases h with
  | keep => exact Iff.rfl
  | reinit _ idv hx ht => exact ⟨fun h => (by cases h), fun h => absurd h (hinit ⟨_, hx, ht⟩)⟩
  | activate _ number url a b => exact absurd rfl (hact number url a b t)
  | paid _ rid => cases rid <;> exact Iff.rfl
  | cancel _ hp => simp [Policy.cancel, hp]
  | settle => exact Iff.rfl

/-- An operation that neither activates a policy nor takes back an active one keeps the number of active rows. -/
theorem activeCount_exec {s : Db} {o : Op} {c : Choice} (hact : ∀ number url a b t, o ≠ .activatePolicy number url a b t)
    (hinit : ∀ t, o.Inits t → c.sqlError = none → ¬s.HasStatus t .active) :
    (exec o c s).2.activeCount = s.activeCount := by
  have hstep := exec_dbStep o c s
  generalize (exec o c s).2 = s' at hstep ⊢
  cases hstep with
  | keep => rfl
  | update t f hc hf =>
    exact Db.activeCount_updatePolicy_keep fun p hp => (hf p).active_iff hact fun ho ha => hinit t ho hc ⟨p, hp, ha⟩
  | @insert _ _ _ _ _ _ idv _ x hx hnew =>
    have hmem : x.txnID ∉ s.policies := AList.lookup_eq_none.1 hnew
    show List.countP _ (s.policies.insert x.txnID _).entries = List.countP _ s.policies.entries
    rw [AList.entries_insert_of_notMem hmem, List.countP_cons]
    simp [newPolicy]
  | payment => rfl
  | record => rfl

/-! ### What a query has read -/

private theorem statement_ok {σ α : Type} {e : Option String} {s : σ} {run : Except String α × σ} {a : α}
    (h : .ok a = (statement e s run).1) : statement e s run = run := by
  cases e with
  | none => rfl
  | some err => cases h

private theorem selectPolicy_ok {α : Type} {s : Db} {t : String} {f : Policy → α} {e : Option String} {a : α}
    (h : .ok a = (statement e s (s.selectPolicy t f, s)).1) : ∃ p, s.policy t = some p ∧ a = f p := by
  rw [statement_ok h] at h
  unfold Db.selectPolicy at h
  cases hp : s.policy t with
  | none =>
    rw [hp] at h
    cases h
  | some p =>
    rw [hp] at h
    exact ⟨p, rfl, Except.ok.inj h⟩

theorem selectForConfirm_row {s : BecknService} {w : BppWorld} {t : String} {c : Choice}
    {row : ConfirmRow} (h : .ok row = (machine s).answer w (.selectForConfirm t) c) :
    ∃ p, w.store.policy t = some p ∧ row = p.confirmRow :=
  selectPolicy_ok h

theorem selectStatus_row {s : BecknService} {w : BppWorld} {t : String} {c : Choice}
    {a : Int × PolicyStatus} (h : .ok a = (machine s).answer w (.selectStatus t) c) :
    ∃ p, w.store.policy t = some p ∧ a = (p.id, p.status) :=
  selectPolicy_ok h

/-- The update of a notification fails and changes nothing, or the database carries it out and the request id fits its
column. -/
theorem markPaid_cases (s : Db) (t : String) (rid : Option String) (c : Choice) :
    (∃ err, exec (.markPaid t rid) c s = (.error err, s)) ∧
        ¬(c.sqlError = none ∧ rid.all (fitsVarchar 255) = true) ∨
      (exec (.markPaid t rid) c s).1 = .ok () ∧ c.sqlError = none ∧ rid.all (fitsVarchar 255) = true := by
  simp only [exec]
  cases hc : c.sqlError with
  | some err =>
    refine .inl ⟨⟨err, rfl⟩, ?_⟩
    intro h
    cases h.1
  | none =>
    rw [statement_none]
    unfold Db.markPaid
    cases rid with
    | none => exact .inr ⟨rfl, rfl, rfl⟩
    | some rid =>
      dsimp only
      by_cases hfit : fitsVarchar 255 rid = true
      · rw [if_pos hfit]
        exact .inr ⟨rfl, rfl, hfit⟩
      · rw [if_neg hfit]
        exact .inl ⟨⟨_, rfl⟩, fun h => hfit h.2⟩

/-- A notification that is recorded marks its row. -/
theorem markPaid_row {s : Db} {t : String} {rid : Option String} {c : Choice} {p : Policy} (hp : s.policy t = some p)
    (h : .ok () = (exec (.markPaid t rid) c s).1) : (exec (.markPaid t rid) c s).2.policy t = some (p.markPaid rid) := by
  have hrun : exec (.markPaid t rid) c s = s.markPaid t rid := statement_ok h
  rw [hrun] at h ⊢
  unfold Db.markPaid at h ⊢
  cases rid with
  | none => simp [hp, Policy.markPaid]
  | some rid =>
    dsimp only at h ⊢
    by_cases hfit : fitsVarchar 255 rid = true
    · simp [hfit, hp, Policy.markPaid]
    · rw [if_neg hfit] at h
      cases h

end IonInsurance.Bpp
