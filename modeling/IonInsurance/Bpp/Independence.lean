import IonInsurance.Interleave.Project
import IonInsurance.Bpp.Feedback

/-!
# Transactions apart

A delivery names its transaction, and the ids that it goes on with are those of the row of this transaction.  So whatever
the deliveries of one transaction do among all others, they do in a run in which there are no others; all that they learn
of these is the number of active policies, which goes into the policy number, and the id of a new row.  An init counts for
the transaction under whose id the column stores it: a longer id is cut if what is cut off is blanks.
-/

namespace IonInsurance.Bpp

open Interleave

/-! ### A database of one transaction -/

/-- The row of `t`, and what belongs to it. -/
def Db.of (s : Db) (t : String) : Db :=
  match s.policy t with
  | none => {}
  | some p =>
    { policies := AList.singleton t p
      payments := s.payments.filter fun x => x.policyID = p.id
      ratings := s.ratings.filter fun x => x.policyID = p.id
      supportTickets := s.supportTickets.filter fun x => x.policyID = some p.id }

/-- What the environment decides for a BPP that knows of one transaction only. -/
structure LoneChoice extends Choice where
  active : Nat := 0
  nextPolicyID : Int := 1

/-- The operations of a BPP that knows of the transaction `t` only. -/
def execAlone (t : String) : (o : Op) → LoneChoice → Db → o.Ans × Db
  | .countActive, c, s => statement c.sqlError s (.ok c.active, s)
  | o, c, s =>
    let (answer, s') := exec o c.toChoice { s with nextPolicyID := c.nextPolicyID }
    (answer, s'.of t)

def alone (s : BecknService) (t : String) : Machine Db LoneChoice Request Op Op.Ans (Except String Unit) where
  exec := execAlone t
  handler := handler s

/-! ### What an operation is about -/

/-- The transaction whose row a delivery is about. -/
def Request.row (s : BecknService) : Request → String
  | .init req => ((initTexts s req).map PolicyTexts.txnID).getD (transactionID req)
  | r => r.transaction

/-- An init is about the row of its transaction, unless its id is too long for the column. -/
theorem Request.row_eq_transaction (s : BecknService) {r : Request} (h : r.transaction.toList.length ≤ 255) :
    r.row s = r.transaction := by
  cases r with
  | init req =>
    change ((initTexts s req).map PolicyTexts.txnID).getD (transactionID req) = transactionID req
    cases hx : initTexts s req with
    | none => rfl
    | some x => exact (varchar_eq_self_iff (policyTexts_some hx).1).2 h
  | _ => rfl

/-- The transaction whose row an operation names. -/
def Op.txnID? : Op → Option String
  | insertPolicy txnID bapID bppID nik vin _ invoice =>
    some (((policyTexts txnID bapID bppID nik vin invoice).map PolicyTexts.txnID).getD txnID)
  | selectForConfirm t | activatePolicy _ _ _ _ t | selectStatus t | markPaid t _ | selectIDV t
  | selectForRelease t | markSettled t | cancelPending t | selectForStatus t | selectID t => some t
  | _ => none

/-- The policy that an operation names. -/
def Op.policyID? : Op → Option Int
  | selectPayment id | insertPayment id .. | insertRating id .. => some id
  | insertTicket id _ => id
  | _ => none

/-- The policy id that has been read. -/
def Exchange.policyID? : Exchange → Option Int
  | ⟨.selectForConfirm _, .ok row⟩ => some row.policyID
  | ⟨.selectStatus _, .ok (id, _)⟩ => some id
  | ⟨.selectID _, .ok id⟩ => some id
  | _ => none

section

variable {s : BecknService} {r : Request} {h : History} {o : Op}

private theorem Notifies.row {t rid : String} {amount : ℚ} (hn : Notifies r h t rid amount) : r.row s = t := by
  cases hn with
  | received => exact trimPrefix_append "ins-" t
  | simulated => rfl

/-- A delivery names no row but its own. -/
theorem MayAsk.txnID {t : String} (ho : MayAsk s r h o) (ht : o.txnID? = some t) : r.row s = t := by
  cases ho with
  | upsert | readPolicy | issue | readForRelease | settle | readForStatus | cancel | readRated | readSupported =>
    exact Option.some.inj ht
  | readIDV t => exact Option.some.inj ht
  | readStatus hn => exact hn.row.trans (Option.some.inj ht)
  | markPaid hn => exact hn.row.trans (Option.some.inj ht)
  | _ => cases ht

/-- An id that a delivery names has been read, or it is that of no policy. -/
theorem MayAsk.policyID {i : Int} (ho : MayAsk s r h o) (hi : o.policyID? = some i) :
    (∃ x ∈ h, x.policyID? = some i) ∨ i = 0 ∧ ∀ id, o ≠ .selectPayment id := by
  cases ho with
  | readPayment req row =>
    obtain rfl := Option.some.inj hi
    exact .inl ⟨_, List.mem_cons_self, rfl⟩
  | recordConfirm req row =>
    obtain rfl := Option.some.inj hi
    exact .inl ⟨readForConfirm req row, by simp [numbered], rfl⟩
  | recordPayment hn id status =>
    obtain rfl := Option.some.inj hi
    exact .inl ⟨_, List.mem_cons_of_mem _ List.mem_cons_self, rfl⟩
  | rate req id =>
    obtain rfl := Option.some.inj hi
    cases id with
    | error err => exact .inr ⟨rfl, by rintro _ ⟨⟩⟩
    | ok id => exact .inl ⟨_, List.mem_cons_self, rfl⟩
  | openTicket req id =>
    obtain ⟨hid, -⟩ := Option.filter_eq_some_iff.1 hi
    cases id with
    | error err => cases hid
    | ok id =>
      obtain rfl := Option.some.inj hid
      exact .inl ⟨_, List.mem_cons_self, rfl⟩
  | _ => cases hi

end

/-! ### Two databases that agree on a transaction -/

/-- The id of the row of `t`, or the one that it would get. -/
def Db.idFor (s : Db) (t : String) : Int := ((s.policy t).map Policy.id).getD s.nextPolicyID

theorem Db.idFor_of_row {s : Db} {t : String} {p : Policy} (hp : s.policy t = some p) : s.idFor t = p.id := by
  rw [idFor, hp]
  rfl

/-- `s` and `s'` have the same row of `t`, with the same payments, ratings and tickets. -/
structure SameOf (t : String) (s s' : Db) : Prop where
  policy : s'.policy t = s.policy t
  next : s'.nextPolicyID = s.nextPolicyID
  payments : s'.payments.filter (fun x => x.policyID = s.idFor t) = s.payments.filter fun x => x.policyID = s.idFor t
  ratings : s'.ratings.filter (fun x => x.policyID = s.idFor t) = s.ratings.filter fun x => x.policyID = s.idFor t
  tickets : s'.supportTickets.filter (fun x => x.policyID = some (s.idFor t)) =
    s.supportTickets.filter fun x => x.policyID = some (s.idFor t)

namespace SameOf

variable {t : String} {s s' : Db}

theorem idFor (h : SameOf t s s') : s'.idFor t = s.idFor t := by
  rw [Db.idFor, Db.idFor, h.policy, h.next]

theorem of (h : SameOf t s s') : s'.of t = s.of t := by
  unfold Db.of
  rw [h.policy]
  cases hp : s.policy t with
  | none => rfl
  | some p =>
    have hpayments := h.payments
    have hratings := h.ratings
    have htickets := h.tickets
    rw [Db.idFor_of_row hp] at hpayments hratings htickets
    dsimp only
    rw [hpayments, hratings, htickets]

/-- An update that keeps the id. -/
theorem update (h : SameOf t s s') {f : Policy → Policy} (hf : ∀ p, (f p).id = p.id) :
    SameOf t (s.updatePolicy t f) (s'.updatePolicy t f) := by
  have hid : (s.updatePolicy t f).idFor t = s.idFor t := by
    rw [Db.idFor, Db.idFor, Db.policy_updatePolicy_self, nextPolicyID_updatePolicy]
    cases s.policy t with
    | none => rfl
    | some p => exact hf p
  have hother : ∀ s : Db, (s.updatePolicy t f).ratings = s.ratings ∧
      (s.updatePolicy t f).supportTickets = s.supportTickets := by
    intro s
    unfold Db.updatePolicy
    split <;> exact ⟨rfl, rfl⟩
  constructor
  · rw [Db.policy_updatePolicy_self, Db.policy_updatePolicy_self, h.policy]
  · rw [nextPolicyID_updatePolicy, nextPolicyID_updatePolicy, h.next]
  · rw [hid, Db.payments_updatePolicy, Db.payments_updatePolicy]
    exact h.payments
  · rw [hid, (hother s).1, (hother s').1]
    exact h.ratings
  · rw [hid, (hother s).2, (hother s').2]
    exact h.tickets

/-- The row of `t` is inserted. -/
theorem insert (h : SameOf t s s') (hnew : s.policy t = none) (p : Policy) (hp : p.id = s.nextPolicyID) :
    SameOf t { s with policies := s.policies.insert t p, nextPolicyID := s.nextPolicyID + 1 }
      { s' with policies := s'.policies.insert t p, nextPolicyID := s.nextPolicyID + 1 } := by
  have hrow : ∀ s : Db, ∀ next : Int,
      Db.policy { s with policies := s.policies.insert t p, nextPolicyID := next } t = some p :=
    fun s _ => AList.lookup_insert _
  have hid : s.idFor t = s.nextPolicyID := by
    rw [Db.idFor, hnew]
    rfl
  have hid' : Db.idFor { s with policies := s.policies.insert t p, nextPolicyID := s.nextPolicyID + 1 } t =
      s.idFor t := by
    rw [Db.idFor_of_row (hrow s _), hp, hid]
  constructor
  · rw [hrow, hrow]
  · rfl
  · rw [hid']
    exact h.payments
  · rw [hid']
    exact h.ratings
  · rw [hid']
    exact h.tickets

theorem payment (h : SameOf t s s') (x : Payment) :
    SameOf t { s with payments := s.payments ++ [x] } { s' with payments := s'.payments ++ [x] } := by
  refine ⟨h.policy, h.next, ?_, h.ratings, h.tickets⟩
  change (s'.payments ++ [x]).filter (fun y => y.policyID = s.idFor t) =
    (s.payments ++ [x]).filter fun y => y.policyID = s.idFor t
  rw [List.filter_append, List.filter_append, h.payments]

theorem rating (h : SameOf t s s') (x : Rating) :
    SameOf t { s with ratings := s.ratings ++ [x] } { s' with ratings := s'.ratings ++ [x] } := by
  refine ⟨h.policy, h.next, h.payments, ?_, h.tickets⟩
  change (s'.ratings ++ [x]).filter (fun y => y.policyID = s.idFor t) =
    (s.ratings ++ [x]).filter fun y => y.policyID = s.idFor t
  rw [List.filter_append, List.filter_append, h.ratings]

theorem ticket (h : SameOf t s s') (x : SupportTicket) :
    SameOf t { s with supportTickets := s.supportTickets ++ [x] }
      { s' with supportTickets := s'.supportTickets ++ [x] } := by
  refine ⟨h.policy, h.next, h.payments, h.ratings, ?_⟩
  change (s'.supportTickets ++ [x]).filter (fun y => y.policyID = some (s.idFor t)) =
    (s.supportTickets ++ [x]).filter fun y => y.policyID = some (s.idFor t)
  rw [List.filter_append, List.filter_append, h.tickets]

end SameOf

/-- A statement fails on both sides, or it runs on both sides. -/
private theorem sameOf_statement {t : String} {s s' : Db} {α : Type} {e : Option String} {run run' : Except String α × Db}
    (h : SameOf t s s') (hrun : run'.1 = run.1 ∧ SameOf t run.2 run'.2) :
    (statement e s' run').1 = (statement e s run).1 ∧ SameOf t (statement e s run).2 (statement e s' run').2 := by
  cases e with
  | some err => exact ⟨rfl, h⟩
  | none => exact hrun

theorem selectPolicy_same {t : String} {s s' : Db} (h : SameOf t s s') {α : Type} (f : Policy → α) :
    s'.selectPolicy t f = s.selectPolicy t f := by
  rw [Db.selectPolicy, Db.selectPolicy, h.policy]

/-- An operation that is about `t` is answered alike, and keeps the databases alike. -/
theorem exec_same {t : String} {s s' : Db} {o : Op} (h : SameOf t s s') (hcount : o ≠ .countActive)
    (ht : ∀ u, o.txnID? = some u → u = t) (hread : ∀ i, o = .selectPayment i → i = s.idFor t) (c : Choice) :
    (exec o c s').1 = (exec o c s).1 ∧ SameOf t (exec o c s).2 (exec o c s').2 := by
  cases o with
  | countActive => exact absurd rfl hcount
  | now | post => exact ⟨rfl, h⟩
  | queryMatchingResources => exact sameOf_statement h ⟨rfl, h⟩
  | insertPolicy u bapID bppID nik vin idv invoice =>
    have hrow := ht _ rfl
    refine sameOf_statement h ?_
    unfold Db.insertPolicy
    cases hx : policyTexts u bapID bppID nik vin invoice with
    | none => exact ⟨rfl, h⟩
    | some x =>
      rw [hx, Option.map_some, Option.getD_some] at hrow
      subst hrow
      dsimp only
      rw [h.policy]
      cases hp : s.policy x.txnID with
      | some p => exact ⟨rfl, h.update fun _ => rfl⟩
      | none =>
        dsimp only
        rw [h.next]
        exact ⟨rfl, h.insert hp _ rfl⟩
  | selectForConfirm u | selectStatus u | selectIDV u | selectForRelease u | selectForStatus u | selectID u =>
    obtain rfl := ht u rfl
    exact sameOf_statement h ⟨selectPolicy_same h _, h⟩
  | selectPayment i =>
    obtain rfl := hread i rfl
    refine sameOf_statement h ⟨?_, h⟩
    unfold Db.latestPayment
    rw [h.payments]
  | activatePolicy number url a b u =>
    obtain rfl := ht u rfl
    refine sameOf_statement h ?_
    unfold Db.activatePolicy
    split
    · exact ⟨rfl, h.update fun _ => rfl⟩
    · exact ⟨rfl, h⟩
  | insertPayment i method ref amount =>
    refine sameOf_statement h ?_
    unfold Db.insertPayment
    split
    · exact ⟨rfl, h.payment _⟩
    · exact ⟨rfl, h⟩
  | markPaid u rid =>
    obtain rfl := ht u rfl
    refine sameOf_statement h ?_
    cases rid with
    | none => exact ⟨rfl, h.update fun _ => rfl⟩
    | some rid =>
      unfold Db.markPaid
      dsimp only
      split
      · exact ⟨rfl, h.update fun _ => rfl⟩
      · exact ⟨rfl, h⟩
  | markSettled u =>
    obtain rfl := ht u rfl
    exact sameOf_statement h ⟨rfl, h.update fun _ => rfl⟩
  | cancelPending u =>
    obtain rfl := ht u rfl
    refine sameOf_statement h ⟨rfl, h.update fun p => ?_⟩
    split <;> rfl
  | insertRating i score feedback =>
    refine sameOf_statement h ?_
    unfold Db.insertRating
    split
    · split
      · exact ⟨rfl, h.rating _⟩
      · exact ⟨rfl, h⟩
    · exact ⟨rfl, h⟩
  | insertTicket i description =>
    refine sameOf_statement h ?_
    unfold Db.insertTicket
    split
    · exact ⟨rfl, h.ticket _⟩
    · exact ⟨rfl, h⟩

/-- What belongs to `t` is given by its row and by what has its id. -/
theorem of_eq {t : String} {s s' : Db} (hp : s'.policy t = s.policy t)
    (hrest : ∀ p, s.policy t = some p →
      s'.payments.filter (fun x => x.policyID = p.id) = s.payments.filter (fun x => x.policyID = p.id) ∧
      s'.ratings.filter (fun x => x.policyID = p.id) = s.ratings.filter (fun x => x.policyID = p.id) ∧
      s'.supportTickets.filter (fun x => x.policyID = some p.id) =
        s.supportTickets.filter fun x => x.policyID = some p.id) : s'.of t = s.of t := by
  unfold Db.of
  rw [hp]
  cases hrow : s.policy t with
  | none => rfl
  | some p =>
    obtain ⟨hpayments, hratings, htickets⟩ := hrest p hrow
    dsimp only
    rw [hpayments, hratings, htickets]

theorem of_updatePolicy {t u : String} (h : t ≠ u) (s : Db) (f : Policy → Policy) : (s.updatePolicy u f).of t = s.of t := by
  refine of_eq (Db.policy_updatePolicy_ne h f) fun p _ => ?_
  unfold Db.updatePolicy
  split <;> exact ⟨rfl, rfl, rfl⟩

private theorem filter_append_ne {α : Type} {q : α → Bool} {x : α} (l : List α) (hx : q x = false) :
    (l ++ [x]).filter q = l.filter q := by
  rw [List.filter_append, List.filter_singleton, hx, cond_false, List.append_nil]

/-- An operation that is about other transactions leaves what belongs to `t` alone. -/
theorem of_exec {t : String} {s : Db} {o : Op} (ht : o.txnID? ≠ some t) (hid : ∀ i, o.policyID? = some i → ¬s.HasID t i)
    (c : Choice) : (exec o c s).2.of t = s.of t := by
  have hstatement : ∀ {α : Type} {run : Except String α × Db}, run.2.of t = s.of t →
      (statement c.sqlError s run).2.of t = s.of t :=
    fun hrun => statement_keeps c.sqlError (P := fun s' : Db => s'.of t = s.of t) rfl hrun
  have hne : ∀ {u}, o.txnID? = some u → t ≠ u := fun hu h => ht (h ▸ hu)
  cases o with
  | now | post => rfl
  | queryMatchingResources | selectForConfirm | selectPayment | countActive | selectStatus | selectIDV | selectForRelease
  | selectForStatus | selectID => exact hstatement rfl
  | insertPolicy u bapID bppID nik vin idv invoice =>
    have hrow := hne rfl
    refine hstatement ?_
    unfold Db.insertPolicy
    cases hx : policyTexts u bapID bppID nik vin invoice with
    | none => rfl
    | some x =>
      rw [hx, Option.map_some, Option.getD_some] at hrow
      dsimp only
      split
      · exact of_updatePolicy hrow s _
      · exact of_eq (AList.lookup_insert_ne hrow) fun _ _ => ⟨rfl, rfl, rfl⟩
  | activatePolicy number url a b u =>
    refine hstatement ?_
    unfold Db.activatePolicy
    split
    · exact of_updatePolicy (hne rfl) s _
    · rfl
  | markPaid u rid =>
    refine hstatement ?_
    cases rid with
    | none => exact of_updatePolicy (hne rfl) s _
    | some rid =>
      unfold Db.markPaid
      dsimp only
      split
      · exact of_updatePolicy (hne rfl) s _
      · rfl
  | markSettled u => exact hstatement (of_updatePolicy (hne rfl) s _)
  | cancelPending u => exact hstatement (of_updatePolicy (hne rfl) s _)
  | insertPayment i method ref amount =>
    refine hstatement ?_
    unfold Db.insertPayment
    split
    · refine of_eq rfl fun p hp => ⟨filter_append_ne _ ?_, rfl, rfl⟩
      exact decide_eq_false fun h => hid i rfl ⟨p, hp, h.symm⟩
    · rfl
  | insertRating i score feedback =>
    refine hstatement ?_
    unfold Db.insertRating
    split
    · split
      · refine of_eq rfl fun p hp => ⟨rfl, filter_append_ne _ ?_, rfl⟩
        exact decide_eq_false fun h => hid i rfl ⟨p, hp, h.symm⟩
      · rfl
    · rfl
  | insertTicket i description =>
    refine hstatement ?_
    unfold Db.insertTicket
    split
    · refine of_eq rfl fun p hp => ⟨rfl, rfl, filter_append_ne _ ?_⟩
      exact decide_eq_false fun h => hid p.id h ⟨p, hp, rfl⟩
    · rfl

/-! ### What a delivery goes on with -/

/-- What is new in a table belongs to the policy that the operation names. -/
theorem mem_exec (o : Op) (c : Choice) (s : Db) :
    (∀ x ∈ (exec o c s).2.payments, x ∈ s.payments ∨ o.policyID? = some x.policyID) ∧
    (∀ x ∈ (exec o c s).2.ratings, x ∈ s.ratings ∨ o.policyID? = some x.policyID) ∧
    ∀ x ∈ (exec o c s).2.supportTickets, x ∈ s.supportTickets ∨ o.policyID? = x.policyID := by
  let New (s' : Db) : Prop := (∀ x ∈ s'.payments, x ∈ s.payments ∨ o.policyID? = some x.policyID) ∧
    (∀ x ∈ s'.ratings, x ∈ s.ratings ∨ o.policyID? = some x.policyID) ∧
    ∀ x ∈ s'.supportTickets, x ∈ s.supportTickets ∨ o.policyID? = x.policyID
  have hsame : ∀ {s' : Db}, s'.payments = s.payments → s'.ratings = s.ratings → s'.supportTickets = s.supportTickets →
      New s' := by
    intro s' hpayments hratings htickets
    exact ⟨fun x hx => .inl (hpayments ▸ hx), fun x hx => .inl (hratings ▸ hx), fun x hx => .inl (htickets ▸ hx)⟩
  have hupdate : ∀ t f, New (s.updatePolicy t f) := by
    intro t f
    unfold Db.updatePolicy
    split <;> exact hsame rfl rfl rfl
  have hstatement : ∀ {α : Type} {run : Except String α × Db}, New run.2 → New (statement c.sqlError s run).2 :=
    fun hrun => statement_keeps c.sqlError (hsame rfl rfl rfl) hrun
  change New (exec o c s).2
  cases o with
  | now | post => exact hsame rfl rfl rfl
  | queryMatchingResources | selectForConfirm | selectPayment | countActive | selectStatus | selectIDV | selectForRelease
  | selectForStatus | selectID => exact hstatement (hsame rfl rfl rfl)
  | insertPolicy u bapID bppID nik vin idv invoice =>
    refine hstatement ?_
    unfold Db.insertPolicy
    split
    · split
      · exact hupdate ..
      · exact hsame rfl rfl rfl
    · exact hsame rfl rfl rfl
  | activatePolicy number url a b u =>
    refine hstatement ?_
    unfold Db.activatePolicy
    split
    · exact hupdate ..
    · exact hsame rfl rfl rfl
  | markPaid u rid =>
    refine hstatement ?_
    cases rid with
    | none => exact hupdate ..
    | some rid =>
      unfold Db.markPaid
      dsimp only
      split
      · exact hupdate ..
      · exact hsame rfl rfl rfl
  | markSettled u => exact hstatement (hupdate ..)
  | cancelPending u => exact hstatement (hupdate ..)
  | insertPayment i method ref amount =>
    refine hstatement ?_
    unfold Db.insertPayment
    split
    · refine ⟨fun x hx => ?_, fun x hx => .inl hx, fun x hx => .inl hx⟩
      rcases List.mem_append.1 hx with hold | hnew
      · exact .inl hold
      · exact .inr (by rw [List.mem_singleton.1 hnew]; rfl)
    · exact hsame rfl rfl rfl
  | insertRating i score feedback =>
    refine hstatement ?_
    unfold Db.insertRating
    split
    · split
      · refine ⟨fun x hx => .inl hx, fun x hx => ?_, fun x hx => .inl hx⟩
        rcases List.mem_append.1 hx with hold | hnew
        · exact .inl hold
        · exact .inr (by rw [List.mem_singleton.1 hnew]; rfl)
      · exact hsame rfl rfl rfl
    · exact hsame rfl rfl rfl
  | insertTicket i description =>
    refine hstatement ?_
    unfold Db.insertTicket
    split
    · refine ⟨fun x hx => .inl hx, fun x hx => .inl hx, fun x hx => ?_⟩
      rcases List.mem_append.1 hx with hold | hnew
      · exact .inl hold
      · exact .inr (by rw [List.mem_singleton.1 hnew]; rfl)
    · exact hsame rfl rfl rfl

/-- Ids are those of rows, and a delivery has read that of its own row only. -/
structure Filed (s : BecknService) (w : BppWorld) : Prop where
  keyed : w.store.Keyed
  positive : w.store.PositiveIDs
  read : ∀ d r (x : Exchange) i, w.request? d = some r → x ∈ w.exchanges d → x.policyID? = some i →
    w.store.HasID (r.row s) i
  payments : ∀ x ∈ w.store.payments, x.policyID < w.store.nextPolicyID
  ratings : ∀ x ∈ w.store.ratings, x.policyID < w.store.nextPolicyID
  tickets : ∀ x ∈ w.store.supportTickets, ∀ i, x.policyID = some i → i < w.store.nextPolicyID

section

variable {s : BecknService} {w : BppWorld} {r : Request} {d : Nat} {o : Op} {t : String}

/-- What a delivery reads of a row is the id of its own. -/
private theorem policyID_read {c : Choice} {i : Int} (ho : MayAsk s r (w.exchanges d) o)
    (hi : Exchange.policyID? ⟨o, (machine s).answer w o c⟩ = some i) : w.store.HasID (r.row s) i := by
  cases o with
  | selectForConfirm u =>
    rw [ho.txnID rfl]
    cases ha : (machine s).answer w (.selectForConfirm u) c with
    | error err => rw [ha] at hi; cases hi
    | ok row =>
      obtain ⟨p, hp, rfl⟩ := selectForConfirm_row ha.symm
      rw [ha] at hi
      exact ⟨p, hp, Option.some.inj hi⟩
  | selectStatus u =>
    rw [ho.txnID rfl]
    cases ha : (machine s).answer w (.selectStatus u) c with
    | error err => rw [ha] at hi; cases hi
    | ok row =>
      obtain ⟨p, hp, rfl⟩ := selectStatus_row ha.symm
      rw [ha] at hi
      exact ⟨p, hp, Option.some.inj hi⟩
  | selectID u =>
    rw [ho.txnID rfl]
    cases ha : (machine s).answer w (.selectID u) c with
    | error err => rw [ha] at hi; cases hi
    | ok i' =>
      rw [ha] at hi
      obtain rfl := Option.some.inj hi
      exact selectID_row ha.symm
  | _ => cases hi

/-- An id that a delivery names is that of its row, or of no policy. -/
theorem Filed.named (hw : Filed s w) (hr : w.request? d = some r) (ho : MayAsk s r (w.exchanges d) o) {i : Int}
    (hi : o.policyID? = some i) : w.store.HasID (r.row s) i ∨ i = 0 ∧ ∀ id, o ≠ .selectPayment id := by
  rcases ho.policyID hi with ⟨x, hx, hread⟩ | hzero
  · exact .inl (hw.read d r x i hr hx hread)
  · exact .inr hzero

theorem Filed.below (hw : Filed s w) {i : Int} (hi : w.store.HasID t i) : i < w.store.nextPolicyID := by
  obtain ⟨p, hp, rfl⟩ := hi
  exact hw.keyed.below t p hp

theorem filed_keeps (s : BecknService) : (protocol s).Keeps Machine.anything (Filed s) where
  start w d r h _ hr he := by
    refine ⟨h.keyed, h.positive, ?_, h.payments, h.ratings, h.tickets⟩
    intro e r' x i hr' hx hi
    exact h.read e r' x i (World.request?_of_asked he hr' hx) hx hi
  exec w d r o c h _ hr ho := by
    have hnext : w.store.nextPolicyID ≤ (exec o c w.store).2.nextPolicyID := by
      rcases exec_ids o c w.store with ⟨hsame, -⟩ | ⟨hmore, -⟩ <;> omega
    have hnamed : ∀ i, o.policyID? = some i → i < (exec o c w.store).2.nextPolicyID := by
      intro i hi
      rcases h.named hr ho hi with hid | ⟨rfl, -⟩
      · have hbelow := h.below hid
        omega
      · have hpositive := h.positive.next
        omega
    obtain ⟨hpayments, hratings, htickets⟩ := mem_exec o c w.store
    refine ⟨h.keyed.exec o c, h.positive.exec o c, ?_, ?_, ?_, ?_⟩
    · intro e r' x i hr' hx hi
      rcases Machine.mem_exchanges_asked hx with hold | ⟨rfl, rfl⟩
      · exact (h.read e r' x i hr' hold hi).exec o c
      · obtain rfl := Option.some.inj (hr.symm.trans hr')
        exact (policyID_read ho hi).exec o c
    · intro x hx
      rcases hpayments x hx with hold | hnew
      · have hbelow := h.payments x hold
        change x.policyID < (exec o c w.store).2.nextPolicyID
        omega
      · exact hnamed _ hnew
    · intro x hx
      rcases hratings x hx with hold | hnew
      · have hbelow := h.ratings x hold
        change x.policyID < (exec o c w.store).2.nextPolicyID
        omega
      · exact hnamed _ hnew
    · intro x hx i hi
      rcases htickets x hx with hold | hnew
      · have hbelow := h.tickets x hold i hi
        change i < (exec o c w.store).2.nextPolicyID
        omega
      · exact hnamed _ (hnew.trans hi)

/-! ### The transactions are apart -/

/-- The database of `t` alone agrees with the whole one on `t`. -/
theorem Filed.sameOf (hw : Filed s w) (t : String) :
    SameOf t w.store { w.store.of t with nextPolicyID := w.store.nextPolicyID } := by
  unfold Db.of
  cases hp : w.store.policy t with
  | none =>
    -- what has an id has a smaller one than the row of `t` would get
    have hid : w.store.idFor t = w.store.nextPolicyID := by
      rw [Db.idFor, hp]
      rfl
    have hpayments : w.store.payments.filter (fun x => x.policyID = w.store.nextPolicyID) = [] := by
      refine List.filter_eq_nil_iff.2 fun x hx h => ?_
      exact (hw.payments x hx).ne (of_decide_eq_true h)
    have hratings : w.store.ratings.filter (fun x => x.policyID = w.store.nextPolicyID) = [] := by
      refine List.filter_eq_nil_iff.2 fun x hx h => ?_
      exact (hw.ratings x hx).ne (of_decide_eq_true h)
    have htickets : w.store.supportTickets.filter (fun x => x.policyID = some w.store.nextPolicyID) = [] := by
      refine List.filter_eq_nil_iff.2 fun x hx h => ?_
      exact Int.lt_irrefl _ (hw.tickets x hx _ (of_decide_eq_true h))
    refine ⟨hp.symm, rfl, ?_, ?_, ?_⟩
    · rw [hid, hpayments]
      rfl
    · rw [hid, hratings]
      rfl
    · rw [hid, htickets]
      rfl
  | some p =>
    have hid := Db.idFor_of_row hp
    refine ⟨?_, rfl, ?_, ?_, ?_⟩
    · rw [hp]
      exact List.dlookup_cons_eq ..
    · rw [hid]
      exact List.filter_filter.trans (by simp only [Bool.and_self])
    · rw [hid]
      exact List.filter_filter.trans (by simp only [Bool.and_self])
    · rw [hid]
      exact List.filter_filter.trans (by simp only [Bool.and_self])

theorem execAlone_eq (ho : o ≠ .countActive) (c : LoneChoice) (db : Db) :
    execAlone t o c db = ((exec o c.toChoice { db with nextPolicyID := c.nextPolicyID }).1,
      (exec o c.toChoice { db with nextPolicyID := c.nextPolicyID }).2.of t) := by
  cases o with
  | countActive => exact absurd rfl ho
  | _ => rfl

theorem separates (s : BecknService) (t : String) :
    Separates (protocol s) (Filed s) (alone s t) (fun r => r.row s = t) fun db => db.of t where
  handler _ _ := rfl
  other w d r o c hw hr hother ho := by
    refine of_exec (fun ht => hother (MayAsk.txnID ho ht)) (fun i hi hid => ?_) c
    rcases hw.named hr ho hi with ⟨p, hp, rfl⟩ | ⟨rfl, -⟩
    · obtain ⟨q, hq, heq⟩ := hid
      exact hother (hw.keyed.distinct _ _ p q hp hq heq.symm)
    · obtain ⟨q, hq, hzero⟩ := hid
      have hpositive := hw.positive.rows t q hq
      omega
  own w d r o c hw hr hmine ho := by
    refine ⟨⟨c, w.store.activeCount, w.store.nextPolicyID⟩, ?_⟩
    by_cases hcount : o = .countActive
    · subst hcount
      change statement c.sqlError (w.store.of t) _ =
        ((statement c.sqlError w.store _).1, (statement c.sqlError w.store _).2.of t)
      cases c.sqlError <;> rfl
    · have hname : ∀ u, o.txnID? = some u → u = t := fun u hu => (MayAsk.txnID ho hu).symm.trans hmine
      have hread : ∀ i, o = .selectPayment i → i = w.store.idFor t := by
        rintro i rfl
        rcases hw.named hr ho rfl with ⟨p, hp, rfl⟩ | ⟨-, hne⟩
        · rw [hmine] at hp
          exact (Db.idFor_of_row hp).symm
        · exact absurd rfl (hne i)
      obtain ⟨hanswer, hsame⟩ := exec_same (hw.sameOf t) hcount hname hread c
      change execAlone t o _ _ = _
      rw [execAlone_eq hcount, hanswer, hsame.of]
      rfl

end

/-- Transactions do not touch each other: what the deliveries about the row of `t` ask, are answered and send in a run, and
all that the database has of `t` after it, are those of a run of a BPP that serves these alone, which learns the number of
active policies and the id of its row from its environment. -/
theorem transaction_alone (s : BecknService) (t : String) {k : BppConfig} (h : Reachable s k) :
    ∃ (k' : BppConfig) (f : Nat → Nat),
      (alone s t).Runs (Machine.starting fun r => r.row s = t) start k' ∧
        Projects (fun r : Request => r.row s = t) (fun db : Db => db.of t) f k k' := by
  refine (separates s t).run (filed_keeps s) ?_ h
  refine ⟨⟨?_, ?_⟩, ⟨by decide, ?_⟩, ?_, ?_, ?_, ?_⟩
  · intro t p hp
    cases hp
  · intro t u p q hp
    cases hp
  · intro t p hp
    cases hp
  · intro d r x i hr
    cases hr
  all_goals
    intro x hx
    cases hx

/-- A policy of `t` is issued while `u` is applied for. -/
def twoTransactions (t u : String) : BppConfig :=
  (machine {}).serveAll start
    [(.init (bareMessage t), fun _ => {}), (.init (bareMessage u), fun _ => {}), (.simulatePayment t, fun _ => {}),
      (.confirm (bareMessage t), fun _ => {})]

theorem transaction_alone_issued : ∃ (k' : BppConfig) (f : Nat → Nat),
    (alone {} "t").Runs (Machine.starting fun r => r.row {} = "t") start k' ∧
      k'.world.store.activeCount = 1 ∧ (∃ e < k'.progs.length, f e = 0) ∧ ∃ e < k'.progs.length, f e = 3 := by
  obtain ⟨k', f, hk', hprojects⟩ := transaction_alone {} "t" (k := twoTransactions "t" "u") (Machine.serveAll_runs ..)
  have hstore : ((twoTransactions "t" "u").world.store.of "t").activeCount = 1 := by decide +kernel
  have hinit : (twoTransactions "t" "u").world.request? 0 = some (.init (bareMessage "t")) := rfl
  have hconfirm : (twoTransactions "t" "u").world.request? 3 = some (.confirm (bareMessage "t")) := by
    exact Machine.serve_request? ..
  refine ⟨k', f, hk', ?_, (hprojects.mine 0 _ hinit).1 ?_, (hprojects.mine 3 _ hconfirm).1 rfl⟩
  · rw [hprojects.store, hstore]
  · exact Request.row_eq_transaction {} (r := .init (bareMessage "t")) (by decide)

end IonInsurance.Bpp
