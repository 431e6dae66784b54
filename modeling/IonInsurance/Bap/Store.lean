import Mathlib.Data.List.AList
import IonInsurance.Clock
import IonInsurance.Environment

/-!
# The stores of the BAP

The tables that `ClientService` reads or writes, with their statements, and what `CallbackManager` keeps in Redis:
the pending keys and the subscriptions.  The message log, which no handler reads, is left out.
-/

namespace IonInsurance.Bap

/-- A row of `transactions`, without its transaction id.  `none` is NULL. -/
structure Transaction where
  action : String
  status : String
  createdAt : Time
  dokuInvoiceNumber : Option String := none
  dokuVANumber : Option String := none
  paymentAmount : Option Int := none
  dokuCheckoutRequestID : Option String := none

/-- A row of `contract_snapshots`. -/
structure Snapshot where
  transactionID : String
  onAction : String
  payload : Fields
  receivedAt : Time

/-- A subscription to a Redis channel, with the messages that have arrived. -/
structure Subscription where
  channel : String
  inbox : List Fields := []
  active : Bool := true

structure Db where
  transactions : AList (fun _ : String => Transaction) := ∅
  snapshots : List Snapshot := []
  pending : List String := []
  subscriptions : List Subscription := []

namespace Db

/-- The row of a transaction. -/
def transaction (s : Db) (txnID : String) : Option Transaction := s.transactions.lookup txnID

def putTransaction (s : Db) (txnID : String) (p : Transaction) : Db :=
  { s with transactions := s.transactions.insert txnID p }

/-- `UPDATE transactions SET … WHERE transaction_id = txnID`. -/
def updateTransaction (s : Db) (txnID : String) (f : Transaction → Transaction) : Db :=
  match s.transaction txnID with
  | some p => s.putTransaction txnID (f p)
  | none => s

theorem transaction_putTransaction (s : Db) (t u : String) (p : Transaction) :
    (s.putTransaction t p).transaction u = if u = t then some p else s.transaction u := by
  unfold putTransaction transaction
  split
  · rename_i hut
    subst hut
    exact AList.lookup_insert _
  · rename_i hut
    exact AList.lookup_insert_ne hut

theorem transaction_updateTransaction (s : Db) (t u : String) (f : Transaction → Transaction) :
    (s.updateTransaction t f).transaction u = if u = t then (s.transaction u).map f else s.transaction u := by
  unfold updateTransaction
  by_cases hut : u = t
  · subst hut
    cases hp : s.transaction u with
    | none => rw [if_pos rfl, hp, Option.map_none]
    | some p => rw [transaction_putTransaction, if_pos rfl, if_pos rfl, Option.map_some]
  · cases hp : s.transaction t with
    | none => rw [if_neg hut]
    | some p => rw [transaction_putTransaction, if_neg hut, if_neg hut]

end Db

/-! ### Operations -/

/-- The peers that the BAP posts to. -/
inductive Peer : Type where
  | onixBAPCaller
  | ionService
  | bppWebhook
  deriving DecidableEq

/-- One SQL statement, one command to Redis, one request to a peer, one reading of the clock, one fresh id, or the
start of a goroutine. -/
inductive Op : Type where
  | now
  | newUUID
  | post (peer : Peer) (path : String) (payload : Fields)
  | goSendReconcile (txnID : String)
  | upsertTransaction (txnID action status : String)
  | saveSnapshot (txnID onAction : String) (payload : Fields)
  | setCheckoutRequestID (txnID requestID : String)
  | setCheckout (txnID : String) (invoiceNumber checkoutURL : Json) (totalIDR : Int)
  | selectForReconcile (txnID : String)
  | selectForNotify (txnID : String)
  | selectOnInit (txnID : String)
  | setPending (key : String)
  | subscribe (channel : String)
  | receive (subscription : Nat)
  | close (subscription : Nat)
  | existsPending (key : String)
  | publish (channel : String) (body : Fields)
  | deletePending (key : String)
  deriving DecidableEq

def Op.Ans : Op → Type
  | now => Time
  | newUUID => String
  | post .. => Reply
  | goSendReconcile _ => Unit
  | upsertTransaction .. => Except String Unit
  | saveSnapshot .. => Except String Unit
  | setCheckoutRequestID .. => Except String Unit
  | setCheckout .. => Except String Unit
  | selectForReconcile _ => Except String (String × Int)
  | selectForNotify _ => Except String (String × Int × String)
  | selectOnInit _ => Except String Fields
  | setPending _ => Except String Unit
  | subscribe _ => Nat
  | receive _ => Option Fields
  | close _ => Unit
  | existsPending _ => Except String Bool
  | publish .. => Except String Nat
  | deletePending _ => Except String Unit

/-- What the environment decides about one operation: whether a statement or a command fails, the clock and the fresh
id, what a peer replies, and whether a key has expired or a wait has run out of time. -/
structure Choice where
  sqlError : Option String := none
  redisError : Option String := none
  now : Time := Time.zero
  uuid : String := ""
  reply : Reply := .status 200
  expired : Bool := false
  timeout : Bool := false

/-! ### Statements -/

mutual

/-- `JSONB` stores no NUL character. -/
def fitsJsonb : Json → Bool
  | .str s => fitsText s
  | .arr xs => fitsJsonbItems xs
  | .obj m => fitsJsonbFields m
  | _ => true

def fitsJsonbItems : List Json → Bool
  | [] => true
  | x :: xs => fitsJsonb x && fitsJsonbItems xs

def fitsJsonbFields : List (String × Json) → Bool
  | [] => true
  | (k, v) :: m => fitsText k && fitsJsonb v && fitsJsonbFields m

end

/-- A JSON value as a parameter for a `VARCHAR(n)` column. -/
def varcharParam (n : Nat) : Json → Except String (Option String)
  | .null => .ok none
  | .str s => if fitsVarchar n s then .ok (some s) else .error valueTooLong
  | _ => .error "unable to encode into text format for varchar"

namespace Db

/-- `INSERT INTO transactions … ON CONFLICT (transaction_id) DO UPDATE SET status`. -/
def upsertTransaction (s : Db) (txnID action status : String) (now : Time) : Except String Unit × Db :=
  if fitsVarchar 255 txnID && fitsVarchar 50 action && fitsVarchar 50 status then
    match s.transaction txnID with
    | some _ => (.ok (), s.updateTransaction txnID fun p => { p with status := status })
    | none =>
      (.ok (), s.putTransaction txnID { action := action, status := status, createdAt := now.toMicro })
  else (.error valueTooLong, s)

/-- `INSERT INTO contract_snapshots`, whose transaction must have a row. -/
def saveSnapshot (s : Db) (txnID onAction : String) (payload : Fields) (now : Time) : Except String Unit × Db :=
  let answer : Except String Unit :=
    if (s.transaction txnID).isNone then .error "insert violates foreign key constraint"
    else if fitsVarchar 50 onAction && fitsJsonbFields payload then .ok ()
    else .error valueTooLong
  (answer, { s with snapshots := match answer with
    | .ok _ => s.snapshots ++ [⟨txnID, onAction, payload, now.toMicro⟩]
    | .error _ => s.snapshots })

/-- `UPDATE transactions SET doku_checkout_request_id`. -/
def setCheckoutRequestID (s : Db) (txnID requestID : String) : Except String Unit × Db :=
  if fitsVarchar 255 requestID then
    (.ok (), s.updateTransaction txnID fun p => { p with dokuCheckoutRequestID := some requestID })
  else (.error valueTooLong, s)

/-- `UPDATE transactions SET doku_invoice_number, doku_va_number, payment_amount`. -/
def setCheckout (s : Db) (txnID : String) (invoiceNumber checkoutURL : Json) (totalIDR : Int) :
    Except String Unit × Db :=
  match varcharParam 255 invoiceNumber, varcharParam 50 checkoutURL with
  | .ok invoice, .ok url =>
    (.ok (), s.updateTransaction txnID fun p =>
      { p with dokuInvoiceNumber := invoice, dokuVANumber := url, paymentAmount := some totalIDR })
  | .error err, _ => (.error err, s)
  | _, .error err => (.error err, s)

/-- The row of a transaction, or the error of a query that finds none. -/
def selectTransaction {α : Type} (s : Db) (txnID : String) (f : Transaction → α) : Except String α :=
  match s.transaction txnID with
  | some p => .ok (f p)
  | none => .error noRows

/-- The latest snapshot of a transaction for an action; among equal times, the one stored last. -/
def latestSnapshot (s : Db) (txnID onAction : String) : Option Snapshot :=
  (s.snapshots.filter fun x => x.transactionID = txnID ∧ x.onAction = onAction).foldl
    (fun best x => match best with
      | some b => if x.receivedAt.Before b.receivedAt then some b else some x
      | none => some x)
    none

/-! ### Redis -/

/-- `SET key`. -/
def setPending (s : Db) (key : String) : Db := { s with pending := key :: s.pending.filter (· ≠ key) }

/-- `DEL key`. -/
def deletePending (s : Db) (key : String) : Db := { s with pending := s.pending.filter (· ≠ key) }

/-- `PUBLISH channel body` to those who subscribe to the channel now. -/
def publish (s : Db) (channel : String) (body : Fields) : Nat × Db :=
  (s.subscriptions.countP fun x => x.active && x.channel = channel,
    { s with subscriptions := s.subscriptions.map fun x =>
        if x.active && x.channel = channel then { x with inbox := x.inbox ++ [body] } else x })

/-- The first message of a subscription. -/
def receive (s : Db) (subscription : Nat) : Option Fields × Db :=
  match s.subscriptions[subscription]? with
  | some { channel, inbox := body :: inbox, active } =>
    (some body, { s with subscriptions := s.subscriptions.set subscription ⟨channel, inbox, active⟩ })
  | _ => (none, s)

def close (s : Db) (subscription : Nat) : Db :=
  { s with subscriptions := s.subscriptions.modify subscription fun x => { x with active := false } }

end Db

def exec : (o : Op) → Choice → Db → o.Ans × Db
  | .now, c, s => (c.now, s)
  | .newUUID, c, s => (c.uuid, s)
  | .post .., c, s => (c.reply, s)
  | .goSendReconcile _, _, s => ((), s)
  | .upsertTransaction txnID action status, c, s => statement c.sqlError s (s.upsertTransaction txnID action status c.now)
  | .saveSnapshot txnID onAction payload, c, s => statement c.sqlError s (s.saveSnapshot txnID onAction payload c.now)
  | .setCheckoutRequestID txnID requestID, c, s => statement c.sqlError s (s.setCheckoutRequestID txnID requestID)
  | .setCheckout txnID invoiceNumber checkoutURL totalIDR, c, s =>
    statement c.sqlError s (s.setCheckout txnID invoiceNumber checkoutURL totalIDR)
  | .selectForReconcile txnID, c, s => statement c.sqlError s
      (s.selectTransaction txnID fun p => (p.dokuInvoiceNumber.getD "", p.paymentAmount.getD 0), s)
  | .selectForNotify txnID, c, s => statement c.sqlError s
      (s.selectTransaction txnID fun p =>
        (p.dokuInvoiceNumber.getD "", p.paymentAmount.getD 0, p.dokuCheckoutRequestID.getD ""), s)
  | .selectOnInit txnID, c, s => statement c.sqlError s
      (match s.latestSnapshot txnID "on_init" with
        | some x => .ok x.payload
        | none => .error noRows, s)
  | .setPending key, c, s => statement c.redisError s (.ok (), s.setPending key)
  | .subscribe channel, c, s =>
    (s.subscriptions.length, { s with subscriptions := s.subscriptions ++
      [{ channel := channel, active := c.redisError.isNone }] })
  | .receive subscription, c, s => if c.timeout then (none, s) else s.receive subscription
  | .close subscription, _, s => ((), s.close subscription)
  | .existsPending key, c, s =>
    let s := if c.expired then s.deletePending key else s
    statement c.redisError s (.ok (s.pending.contains key), s)
  | .publish channel body, c, s =>
    let (n, s') := s.publish channel body
    statement c.redisError s (.ok n, s')
  | .deletePending key, c, s => statement c.redisError s (.ok (), s.deletePending key)

end IonInsurance.Bap
