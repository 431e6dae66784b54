import Mathlib.Data.List.AList
import IonInsurance.Clock
import IonInsurance.Environment

/-!
# The database of the BPP

The tables that the Beckn handlers read or write, and each of their statements.  `policies` has one row for a
transaction id (`UNIQUE`), kept as an association list without repeated keys.  The message log, which no handler
reads, is left out.
-/

namespace IonInsurance.Bpp

inductive PolicyStatus : Type where
  | pendingIssuance
  | active
  | cancelled
  | expired
  | totalLoss
  deriving DecidableEq

/-- `status::text`. -/
def PolicyStatus.text : PolicyStatus → String
  | pendingIssuance => "PENDING_ISSUANCE"
  | active => "ACTIVE"
  | cancelled => "CANCELLED"
  | expired => "EXPIRED"
  | totalLoss => "TOTAL_LOSS"

/-- A row of `policies`, without its transaction id.  `none` is NULL. -/
structure Policy where
  id : Int
  bapID : String
  bppID : String
  status : PolicyStatus
  policyholderNIK : String
  vehicleVIN : String
  idv : Int
  policyNumber : Option String := none
  certificateURL : Option String := none
  coverageStart : Option Time := none
  coverageEnd : Option Time := none
  dokuInvoiceNumber : Option String := none
  dokuRequestID : Option String := none
  dokuVANumber : Option String := none
  paymentReceived : Bool := false
  reconcileStatus : String := "PENDING"

structure Payment where
  policyID : Int
  method : String
  paymentRef : String
  amountIDR : Int
  paidAt : Time

structure Rating where
  policyID : Int
  score : Int
  feedback : String

structure SupportTicket where
  policyID : Option Int
  description : String

structure ResourceRow where
  id : Int
  productType : String
  vehicleType : String
  ojkProductCode : String
  resourceAttributes : Fields
  tariffZone : String
  premiumRateMin : ℚ
  premiumRateMax : ℚ

/-- `nextPolicyID` is the sequence behind `policies.id`. -/
structure Db where
  policies : AList (fun _ : String => Policy) := ∅
  nextPolicyID : Int := 1
  payments : List Payment := []
  ratings : List Rating := []
  supportTickets : List SupportTicket := []

namespace Db

/-- The row of a transaction. -/
def policy (s : Db) (txnID : String) : Option Policy := s.policies.lookup txnID

/-- `UPDATE policies SET … WHERE transaction_id = txnID`. -/
def updatePolicy (s : Db) (txnID : String) (f : Policy → Policy) : Db :=
  match s.policy txnID with
  | some p => { s with policies := s.policies.insert txnID (f p) }
  | none => s

/-- `SELECT COUNT(*) FROM policies WHERE status = 'ACTIVE'`. -/
def activeCount (s : Db) : Nat := s.policies.entries.countP fun e => e.2.status = .active

@[simp] theorem policy_updatePolicy_self (s : Db) (t : String) (f : Policy → Policy) :
    (s.updatePolicy t f).policy t = (s.policy t).map f := by
  unfold updatePolicy
  cases h : s.policy t with
  | none => exact h
  | some p => exact AList.lookup_insert _

@[simp] theorem policy_updatePolicy_ne {s : Db} {t u : String} (h : u ≠ t) (f : Policy → Policy) :
    (s.updatePolicy t f).policy u = s.policy u := by
  unfold updatePolicy
  cases s.policy t with
  | none => rfl
  | some p => exact AList.lookup_insert_ne h

theorem policy_updatePolicy (s : Db) (t u : String) (f : Policy → Policy) :
    (s.updatePolicy t f).policy u = if u = t then (s.policy u).map f else s.policy u := by
  split
  · rename_i h
    rw [h, policy_updatePolicy_self]
  · rename_i h
    exact policy_updatePolicy_ne h f

private theorem countP_kerase {t : String} {p : Policy} {l : List (Sigma fun _ : String => Policy)} (hl : l.NodupKeys)
    (hp : ⟨t, p⟩ ∈ l) (q : (Sigma fun _ : String => Policy) → Bool) :
    l.countP q = (l.kerase t).countP q + if q ⟨t, p⟩ then 1 else 0 := by
  obtain ⟨p', l₁, l₂, -, hsplit, herase⟩ := List.exists_of_kerase (List.mem_keys_of_mem hp)
  have hp' : p' = p := hl.eq_of_mk_mem (by simp [hsplit]) hp
  subst hp'
  rw [herase, hsplit, List.countP_append, List.countP_append, List.countP_cons, Nat.add_assoc]

/-- An update changes the count by its own row only. -/
theorem activeCount_updatePolicy {s : Db} {t : String} {p : Policy} (hp : s.policy t = some p) (f : Policy → Policy) :
    (s.updatePolicy t f).activeCount + (if p.status = .active then 1 else 0) =
      s.activeCount + if (f p).status = .active then 1 else 0 := by
  have hmem : (⟨t, p⟩ : Sigma fun _ : String => Policy) ∈ s.policies.entries :=
    List.of_mem_dlookup (Option.mem_def.2 hp)
  have hcount := countP_kerase s.policies.nodupKeys hmem fun e => e.2.status = .active
  unfold updatePolicy activeCount
  rw [hp]
  dsimp only
  rw [AList.entries_insert, List.countP_cons, hcount]
  simp only [decide_eq_true_eq]
  omega

theorem activeCount_updatePolicy_keep {s : Db} {t : String} {f : Policy → Policy}
    (h : ∀ p, s.policy t = some p → ((f p).status = .active ↔ p.status = .active)) :
    (s.updatePolicy t f).activeCount = s.activeCount := by
  cases hp : s.policy t with
  | none => simp only [updatePolicy, hp]
  | some p =>
    have hc := activeCount_updatePolicy hp f
    simp only [h p hp] at hc
    omega

@[simp] theorem payments_updatePolicy (s : Db) (t : String) (f : Policy → Policy) :
    (s.updatePolicy t f).payments = s.payments := by
  unfold updatePolicy
  split <;> rfl

end Db

/-! ### Statements -/

/-- The peers that the BPP posts to. -/
inductive Peer : Type where
  | onixBPPCaller
  | ionService
  | bapWebhook
  deriving DecidableEq

/-- What `HandleConfirm` loads of a policy, with NULL replaced as its `SELECT` does. -/
structure ConfirmRow where
  policyID : Int
  status : PolicyStatus
  dokuInvoiceNumber : String
  dokuRequestID : String
  policyNumber : String
  certURL : String
  coverageStart : Option Time
  coverageEnd : Option Time
  idv : Int
  paymentReceived : Bool

def Policy.confirmRow (p : Policy) : ConfirmRow where
  policyID := p.id
  status := p.status
  dokuInvoiceNumber := p.dokuInvoiceNumber.getD ""
  dokuRequestID := p.dokuRequestID.getD ""
  policyNumber := p.policyNumber.getD ""
  certURL := p.certificateURL.getD ""
  coverageStart := p.coverageStart
  coverageEnd := p.coverageEnd
  idv := p.idv
  paymentReceived := p.paymentReceived

/-- One SQL statement, one request to a peer, or one reading of the clock. -/
inductive Op : Type where
  | now
  | post (peer : Peer) (path : String) (payload : Fields)
  | queryMatchingResources
  | insertPolicy (txnID bapID bppID nik vin : String) (idvIDR : Int) (invoice : String)
  | selectForConfirm (txnID : String)
  | selectPayment (policyID : Int)
  | countActive
  | activatePolicy (policyNumber certURL : String) (coverageStart coverageEnd : Time) (txnID : String)
  | insertPayment (policyID : Int) (method paymentRef : String) (amountIDR : Int)
  | selectStatus (txnID : String)
  | markPaid (txnID : String) (requestID : Option String)
  | selectIDV (txnID : String)
  | selectForRelease (txnID : String)
  | markSettled (txnID : String)
  | cancelPending (txnID : String)
  | selectForStatus (txnID : String)
  | selectID (txnID : String)
  | insertRating (policyID score : Int) (feedback : String)
  | insertTicket (policyID : Option Int) (description : String)
  deriving DecidableEq

/-- The columns that `HandleStatus` loads. -/
structure StatusRow where
  status : PolicyStatus
  policyNumber : String
  certURL : String

def Op.Ans : Op → Type
  | now => Time
  | post .. => Reply
  | queryMatchingResources => Except String (List ResourceRow)
  | insertPolicy .. => Except String Int
  | selectForConfirm _ => Except String ConfirmRow
  | selectPayment _ => Except String (String × String × Int)
  | countActive => Except String Nat
  | activatePolicy .. => Except String Unit
  | insertPayment .. => Except String Unit
  | selectStatus _ => Except String (Int × PolicyStatus)
  | markPaid .. => Except String Unit
  | selectIDV _ => Except String Int
  | selectForRelease _ => Except String (String × Int)
  | markSettled _ => Except String Unit
  | cancelPending _ => Except String Unit
  | selectForStatus _ => Except String StatusRow
  | selectID _ => Except String Int
  | insertRating .. => Except String Unit
  | insertTicket .. => Except String Unit

/-- What the environment decides about one operation: whether the statement fails, which reads the clock shows, what
the peer replies, and the inventory that the catalogue handlers have written. -/
structure Choice where
  sqlError : Option String := none
  now : Time := Time.zero
  reply : Reply := .status 200
  resources : List ResourceRow := []

/-- The texts of a row of `policies`, as the columns store them. -/
structure PolicyTexts where
  txnID : String
  bapID : String
  bppID : String
  nik : String
  vin : String
  invoice : String

/-- The texts of a new row, if the columns take them. -/
def policyTexts (txnID bapID bppID nik vin invoice : String) : Option PolicyTexts := do
  return {
    txnID := ← varchar 255 txnID
    bapID := ← varchar 255 bapID
    bppID := ← varchar 255 bppID
    nik := ← varchar 16 nik
    vin := ← varchar 50 vin
    invoice := ← varchar 255 invoice }

/-- Each column has taken its text. -/
theorem policyTexts_some {txnID bapID bppID nik vin invoice : String} {x : PolicyTexts}
    (h : policyTexts txnID bapID bppID nik vin invoice = some x) :
    varchar 255 txnID = some x.txnID ∧ varchar 16 nik = some x.nik ∧ varchar 50 vin = some x.vin ∧
      varchar 255 invoice = some x.invoice := by
  unfold policyTexts at h
  simp only [Option.bind_eq_bind, Option.bind_eq_some_iff, Option.pure_def, Option.some.injEq] at h
  obtain ⟨_, htxn, _, -, _, -, _, hnik, _, hvin, _, hinvoice, rfl⟩ := h
  exact ⟨htxn, hnik, hvin, hinvoice⟩

namespace Db

/-- `INSERT INTO policies … ON CONFLICT (transaction_id) DO UPDATE SET status, doku_invoice_number`. -/
def insertPolicy (s : Db) (txnID bapID bppID nik vin : String) (idvIDR : Int) (invoice : String) :
    Except String Int × Db :=
  match policyTexts txnID bapID bppID nik vin invoice with
  | some x =>
    match s.policy x.txnID with
    | some p =>
      (.ok p.id, s.updatePolicy x.txnID fun p =>
        { p with status := .pendingIssuance, dokuInvoiceNumber := some x.invoice })
    | none =>
      (.ok s.nextPolicyID, { s with
        policies := s.policies.insert x.txnID {
          id := s.nextPolicyID
          bapID := x.bapID
          bppID := x.bppID
          status := .pendingIssuance
          policyholderNIK := x.nik
          vehicleVIN := x.vin
          idv := idvIDR
          dokuInvoiceNumber := some x.invoice }
        nextPolicyID := s.nextPolicyID + 1 })
  | none => (.error valueTooLong, s)

/-- `UPDATE policies SET status = 'ACTIVE', policy_number, certificate_url, coverage_start, coverage_end`.  The number and
the URL have no blanks that a column could cut off. -/
def activatePolicy (s : Db) (policyNumber certURL : String) (coverageStart coverageEnd : Time) (txnID : String) :
    Except String Unit × Db :=
  if fitsVarchar 100 policyNumber && fitsVarchar 500 certURL then
    (.ok (), s.updatePolicy txnID fun p =>
      { p with
        status := .active
        policyNumber := some policyNumber
        certificateURL := some certURL
        coverageStart := some coverageStart.toMicro
        coverageEnd := some coverageEnd.toMicro })
  else (.error valueTooLong, s)

/-- `UPDATE policies SET payment_received = true`, with the request id if there is one: it comes from a header, which
is trimmed, or from a column of the same width, so that there are no blanks to cut off. -/
def markPaid (s : Db) (txnID : String) (requestID : Option String) : Except String Unit × Db :=
  match requestID with
  | some rid =>
    if fitsVarchar 255 rid then
      (.ok (), s.updatePolicy txnID fun p => { p with paymentReceived := true, dokuRequestID := some rid })
    else (.error valueTooLong, s)
  | none => (.ok (), s.updatePolicy txnID fun p => { p with paymentReceived := true })

/-- `INSERT INTO payments`.  Its foreign key holds: the id comes from a row, and no row is ever deleted. -/
def insertPayment (s : Db) (policyID : Int) (method paymentRef : String) (amountIDR : Int) (now : Time) :
    Except String Unit × Db :=
  match varchar 50 method, varchar 255 paymentRef with
  | some method, some paymentRef =>
    (.ok (), { s with payments := s.payments ++ [⟨policyID, method, paymentRef, amountIDR, now.toMicro⟩] })
  | _, _ => (.error valueTooLong, s)

/-- `UPDATE policies SET status = 'CANCELLED' WHERE … AND status = 'PENDING_ISSUANCE'`. -/
def cancelPending (s : Db) (txnID : String) : Except String Unit × Db :=
  (.ok (), s.updatePolicy txnID fun p =>
    if p.status = .pendingIssuance then { p with status := .cancelled } else p)

/-- `UPDATE policies SET reconcile_status = 'SETTLED'`. -/
def markSettled (s : Db) (txnID : String) : Except String Unit × Db :=
  (.ok (), s.updatePolicy txnID fun p => { p with reconcileStatus := "SETTLED" })

/-- `SELECT … FROM payments WHERE policy_id ORDER BY paid_at DESC LIMIT 1`; among equal times, the row stored last. -/
def latestPayment (s : Db) (policyID : Int) : Option Payment :=
  (s.payments.filter (·.policyID = policyID)).foldl
    (fun best p => match best with
      | some b => if p.paidAt.Before b.paidAt then some b else some p
      | none => some p)
    none

/-- The row of a transaction, or the error of a query that finds none. -/
def selectPolicy {α : Type} (s : Db) (txnID : String) (f : Policy → α) : Except String α :=
  match s.policy txnID with
  | some p => .ok (f p)
  | none => .error noRows

/-- `INSERT INTO ratings`, whose `score` is checked to lie between 1 and 5. -/
def insertRating (s : Db) (policyID score : Int) (feedback : String) : Except String Unit × Db :=
  if fitsText feedback then
    if 1 ≤ score ∧ score ≤ 5 then (.ok (), { s with ratings := s.ratings ++ [⟨policyID, score, feedback⟩] })
    else (.error "new row violates check constraint ratings_score_check", s)
  else (.error valueTooLong, s)

def insertTicket (s : Db) (policyID : Option Int) (description : String) : Except String Unit × Db :=
  if fitsText description then
    (.ok (), { s with supportTickets := s.supportTickets ++ [⟨policyID, description⟩] })
  else (.error valueTooLong, s)

end Db

def exec : (o : Op) → Choice → Db → o.Ans × Db
  | .now, c, s => (c.now, s)
  | .post .., c, s => (c.reply, s)
  | .queryMatchingResources, c, s => statement c.sqlError s (.ok c.resources, s)
  | .insertPolicy txnID bapID bppID nik vin idvIDR invoice, c, s =>
    statement c.sqlError s (s.insertPolicy txnID bapID bppID nik vin idvIDR invoice)
  | .selectForConfirm txnID, c, s => statement c.sqlError s (s.selectPolicy txnID Policy.confirmRow, s)
  | .selectPayment policyID, c, s =>
    statement c.sqlError s (match s.latestPayment policyID with
      | some p => .ok (p.method, p.paymentRef, p.amountIDR)
      | none => .error noRows, s)
  | .countActive, c, s => statement c.sqlError s (.ok s.activeCount, s)
  | .activatePolicy policyNumber certURL coverageStart coverageEnd txnID, c, s =>
    statement c.sqlError s (s.activatePolicy policyNumber certURL coverageStart coverageEnd txnID)
  | .insertPayment policyID method paymentRef amountIDR, c, s =>
    statement c.sqlError s (s.insertPayment policyID method paymentRef amountIDR c.now)
  | .selectStatus txnID, c, s => statement c.sqlError s (s.selectPolicy txnID fun p => (p.id, p.status), s)
  | .markPaid txnID requestID, c, s => statement c.sqlError s (s.markPaid txnID requestID)
  | .selectIDV txnID, c, s => statement c.sqlError s (s.selectPolicy txnID Policy.idv, s)
  | .selectForRelease txnID, c, s =>
    statement c.sqlError s (s.selectPolicy txnID fun p => (p.dokuRequestID.getD "", p.idv), s)
  | .markSettled txnID, c, s => statement c.sqlError s (s.markSettled txnID)
  | .cancelPending txnID, c, s => statement c.sqlError s (s.cancelPending txnID)
  | .selectForStatus txnID, c, s =>
    statement c.sqlError s (s.selectPolicy txnID fun p => ⟨p.status, p.policyNumber.getD "", p.certificateURL.getD ""⟩, s)
  | .selectID txnID, c, s => statement c.sqlError s (s.selectPolicy txnID Policy.id, s)
  | .insertRating policyID score feedback, c, s => statement c.sqlError s (s.insertRating policyID score feedback)
  | .insertTicket policyID description, c, s => statement c.sqlError s (s.insertTicket policyID description)

end IonInsurance.Bpp
