import IonInsurance.Interleave.Machine
import IonInsurance.Bpp.Messages

/-!
# The handlers of the BPP

One program for each handler of `BecknService`: its SQL statements, its requests to peers and its readings of the
clock, in the order of the source.  The webhooks start a handler in a goroutine of its own, so the operations of
several handlers interleave.
-/

namespace IonInsurance.Bpp

open Interleave

/-- A program of the service. -/
abbrev Task := Prog Op Op.Ans

abbrev call (o : Op) : Task o.Ans := Prog.call o

def callOnixCaller (action : String) (payload : Fields) : Task (Except String Unit) := do
  match ← call (.post .onixBPPCaller action payload) with
  | .failed err => return .error ("call onix-bpp caller " ++ action ++ ": " ++ err)
  | .response .. => return .ok ()

def buildResponseContext (s : BecknService) (reqCtx : Fields) (action : String) : Task Fields := do
  let t₁ ← call .now
  let t₂ ← call .now
  return responseContext s reqCtx action t₁ t₂

/-- Builds the response to `req` in its context and hands it to the network. -/
def respond (s : BecknService) (req : Fields) (action : String) (response : Fields → Fields) :
    Task (Except String Unit) := do
  let context ← buildResponseContext s (contextOf req) action
  callOnixCaller action (response context)

def handleSearch (s : BecknService) (req : Fields) : Task (Except String Unit) := do
  let resources ← call .queryMatchingResources
  respond s req "on_discover" fun context => buildOnSearchResponse s context (resources.toOption.getD [])

/-- `HandleSelect`, with a premium whose numbers are rounded by `fl`. -/
def handleSelectWith (fl : ℚ → ℚ) (s : BecknService) (req : Fields) : Task (Except String Unit) := do
  let input := selectInput req
  let breakup := (calcPremiumWith fl input.productType input.zone input.idvIDR).toOption.getD
    (fallbackPremium input.idvIDR 3)
  let now ← call .now
  let quoteValidUntil := now.addDays 2
  respond s req "on_select" fun context => onSelect context (transactionID req) input breakup quoteValidUntil

def handleSelect (s : BecknService) (req : Fields) : Task (Except String Unit) :=
  handleSelectWith Arith.binary64 s req

/-- Validates KYC and creates a `PENDING_ISSUANCE` policy. -/
def handleInit (s : BecknService) (req : Fields) : Task (Except String Unit) := do
  let txnID := transactionID req
  let input := initInput req
  if input.nik ≠ "" ∧ ¬nikRegex input.nik then
    return .error "invalid NIK format: must be 16 digits"
  else
    let breakup := (comprehensiveZone3 input.idvIDR).toOption.getD (fallbackPremium input.idvIDR 0)
    match ← call (.insertPolicy txnID ((contextOf req).get "bap_id").text s.bppID input.nik input.vin input.idvIDR
        ("ins-" ++ txnID)) with
    | .error err => return .error ("create policy: " ++ err)
    | .ok _ => respond s req "on_init" fun context => onInit context txnID breakup

/-- `on_confirm` for an issued policy. -/
def sendOnConfirm (s : BecknService) (req : Fields) (idv : Int) (issued : Issued) (payment : PaymentProof) :
    Task (Except String Unit) :=
  respond s req "on_confirm" fun context =>
    onConfirm context (transactionID req) issued payment ((comprehensiveZone3 idv).toOption.getD {})

/-- What `on_confirm` reports of a row that has been issued already. -/
def ConfirmRow.issued (row : ConfirmRow) : Issued :=
  ⟨row.policyNumber, row.certURL, row.coverageStart.getD Time.zero, row.coverageEnd.getD Time.zero⟩

/-- The payment on record, or else the one that the message names. -/
def recordedPayment (req : Fields) : Except String (String × String × Int) → PaymentProof
  | .ok (method, ref, amount) => ⟨method, ref, amount⟩
  | .error _ => confirmInput req

/-- The policy has been issued already: send `on_confirm` again. -/
def resendConfirm (s : BecknService) (req : Fields) (row : ConfirmRow) : Task (Except String Unit) := do
  let paid ← call (.selectPayment row.policyID)
  sendOnConfirm s req row.idv row.issued (recordedPayment req paid)

def policyNumber (year seqNum : Nat) : String := "POL-INS-" ++ toString year ++ "-" ++ pad 5 seqNum

def certURL (policyNumber : String) : String :=
  "https://certificates.insurance.iontest.local/" ++ policyNumber ++ ".pdf"

/-- The policy issued after `count` others; a count that failed is zero. -/
def newlyIssued (count : Except String Nat) (now coverageStart : Time) : Issued :=
  let policyNumber := policyNumber now.year (count.toOption.getD 0 + 1)
  ⟨policyNumber, certURL policyNumber, coverageStart, coverageStart.addYear⟩

/-- The payment that an issuing confirm stores: its amount is the one that the message names. -/
def confirmPayment (req : Fields) (row : ConfirmRow) : PaymentProof :=
  ⟨"DOKU_VA", row.dokuInvoiceNumber, (confirmInput req).amount⟩

/-- SEAM Stage 3: the payment has been received; number and activate the policy. -/
def issuePolicy (s : BecknService) (req : Fields) (row : ConfirmRow) : Task (Except String Unit) := do
  let payment := confirmPayment req row
  let count ← call .countActive
  let now ← call .now
  let coverageStart ← call .now
  let issued := newlyIssued count now coverageStart
  match ← call (.activatePolicy issued.policyNumber issued.certURL issued.coverageStart issued.coverageEnd
      (transactionID req)) with
  | .error err => return .error ("update policy: " ++ err)
  | .ok _ =>
    let _ ← call (.insertPayment row.policyID payment.method payment.ref payment.amount)
    sendOnConfirm s req row.idv issued payment

/-- Issues the policy of a paid transaction. -/
def handleConfirm (s : BecknService) (req : Fields) : Task (Except String Unit) := do
  let txnID := transactionID req
  match ← call (.selectForConfirm txnID) with
  | .error err => return .error ("policy not found for txn " ++ txnID ++ ": " ++ err)
  | .ok row =>
    if row.status = .active then
      resendConfirm s req row
    else if row.paymentReceived then
      issuePolicy s req row
    else
      respond s req "on_confirm" paymentNotReceived

/-- Records that the payment of an invoice `ins-{transactionID}` has been received. -/
def handlePaymentReceived (invoiceNumber paymentRequestID : String) (amount : ℚ) : Task (Except String Unit) := do
  if hasPrefix invoiceNumber "ins-" then
    let txnID := trimPrefix invoiceNumber "ins-"
    match ← call (.selectStatus txnID) with
    | .error err => return .error ("policy not found for txn " ++ txnID ++ ": " ++ err)
    | .ok (policyID, currentStatus) =>
      if currentStatus = .active then
        return .ok ()
      else
        match ← call (.markPaid txnID (if paymentRequestID = "" then none else some paymentRequestID)) with
        | .error err => return .error ("mark payment received: " ++ err)
        | .ok _ =>
          let _ ← call (.insertPayment policyID "DOKU_VA" invoiceNumber (int64 amount))
          return .ok ()
  else
    return .error ("unexpected invoice_number format: " ++ invoiceNumber)

/-- The amount that the sandbox pays for an insured value. -/
def simulatedAmount (idv : Int) : ℚ :=
  match comprehensiveZone3 idv with
  | .ok breakup => breakup.totalIDR
  | .error _ => 500000

/-- Sandbox only: marks the payment as received without DOKU. -/
def simulatePayment (txnID : String) : Task (Except String Unit) := do
  let idv ← call (.selectIDV txnID)
  handlePaymentReceived ("ins-" ++ txnID) "" (simulatedAmount (idv.toOption.getD 0))

def callIONRelease (payload : Fields) : Task (Except String Unit) := do
  match ← call (.post .ionService "settlement/release" payload) with
  | .failed err => return .error ("call ION release: " ++ err)
  | .response status body _ =>
    if status = 200 then return .ok ()
    else return .error ("ION release HTTP " ++ toString status ++ ": " ++ body)

/-- The amount to release: the premium of the stored insured value where the message names none. -/
def releaseAmount (totalAmount idv : Int) : Int :=
  if totalAmount = 0 ∧ idv > 0 then
    match comprehensiveZone3 idv with
    | .ok breakup => breakup.totalIDR
    | .error _ => totalAmount
  else totalAmount

/-- The release that `HandleReconcile` asks for; a row that was not found has no request id and no insured value. -/
def releaseFor (s : BecknService) (req : Fields) (row : Except String (String × Int)) : Fields :=
  let (dokuRequestID, idv) := row.toOption.getD ("", 0)
  releasePayload s (reconcileInput req).invoiceNumber dokuRequestID (releaseAmount (reconcileInput req).totalAmount idv)

/-- Releases the held funds through ION and answers `on_reconcile` to the BAP. -/
def handleReconcile (s : BecknService) (req : Fields) : Task (Except String Unit) := do
  let txnID := transactionID req
  let row ← call (.selectForRelease txnID)
  -- a failed release is only logged: non-fatal in the sandbox
  let _ ← callIONRelease (releaseFor s req row)
  let _ ← call (.markSettled txnID)
  let context ← buildResponseContext s (contextOf req) "on_reconcile"
  let reply ← call (.post .bapWebhook "on_reconcile" (onReconcile context (reconcileInput req).invoiceNumber))
  return reply.direct (s.bapWebhookURL ++ "/on_reconcile")

def handleStatus (s : BecknService) (req : Fields) : Task (Except String Unit) := do
  let txnID := transactionID req
  let row ← call (.selectForStatus txnID)
  let (orderStatus, policyNumber, certURL) := match row with
    | .ok row => (row.status.text, row.policyNumber, row.certURL)
    | .error _ => ("UNKNOWN", "", "")
  respond s req "on_status" fun context => onStatus context txnID orderStatus policyNumber certURL

/-- Cancels a policy that has not been issued. -/
def handleCancel (s : BecknService) (req : Fields) : Task (Except String Unit) := do
  let txnID := transactionID req
  let _ ← call (.cancelPending txnID)
  respond s req "on_cancel" fun context => onCancel context txnID

def handleRate (s : BecknService) (req : Fields) : Task (Except String Unit) := do
  let txnID := transactionID req
  let input := rateInput req
  let policyID := (← call (.selectID txnID)).toOption.getD 0
  if policyID > 0 then
    let _ ← call (.insertRating policyID input.score input.feedback)
    respond s req "on_rate" fun context => onRate context txnID
  else
    respond s req "on_rate" fun context => onRate context txnID

def handleSupport (s : BecknService) (req : Fields) : Task (Except String Unit) := do
  let txnID := transactionID req
  let pid ← call (.selectID txnID)
  let policyID := pid.toOption.filter fun id => id > 0
  let _ ← call (.insertTicket policyID (supportInput req))
  respond s req "on_support" fun context => onSupport context txnID

/-! ### The service as a machine -/

/-- A delivery to the BPP: a Beckn message, a payment notification, or a call of the sandbox. -/
inductive Request : Type where
  | search (req : Fields)
  | select (req : Fields)
  | init (req : Fields)
  | confirm (req : Fields)
  | status (req : Fields)
  | cancel (req : Fields)
  | rate (req : Fields)
  | support (req : Fields)
  | reconcile (req : Fields)
  | paymentReceived (invoiceNumber paymentRequestID : String) (amount : ℚ)
  | simulatePayment (txnID : String)
  deriving DecidableEq

def handler (s : BecknService) : Request → Task (Except String Unit)
  | .search req => handleSearch s req
  | .select req => handleSelect s req
  | .init req => handleInit s req
  | .confirm req => handleConfirm s req
  | .status req => handleStatus s req
  | .cancel req => handleCancel s req
  | .rate req => handleRate s req
  | .support req => handleSupport s req
  | .reconcile req => handleReconcile s req
  | .paymentReceived invoiceNumber paymentRequestID amount =>
    handlePaymentReceived invoiceNumber paymentRequestID amount
  | .simulatePayment txnID => Bpp.simulatePayment txnID

def machine (s : BecknService) : Machine Db Choice Request Op Op.Ans (Except String Unit) where
  exec := exec
  handler := handler s

end IonInsurance.Bpp
