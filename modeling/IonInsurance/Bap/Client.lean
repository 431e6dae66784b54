import IonInsurance.Interleave.Machine
import IonInsurance.Bap.Messages
import IonInsurance.Bap.Store

/-!
# ClientService and CallbackManager

One program for each method that a route of the BAP calls, and one for the goroutine `sendReconcile`: their SQL
statements, their commands to Redis and their requests to peers, in the order of the source.
-/

namespace IonInsurance.Bap

open Interleave

/-- The configuration of the service. -/
structure ClientService where
  onixBAPCallerURL : String := "http://onix-bap:8081/bap/caller"
  ionServiceURL : String := "http://ion:8090"
  bapFrontendURL : String := "http://localhost:3000"

/-- A program of the service. -/
abbrev Task := Prog Op Op.Ans

abbrev call (o : Op) : Task o.Ans := Prog.call o

def buildContext (action txnID msgID : String) : Task Json := do
  let now ← call .now
  return requestContext action txnID msgID now

/-! ### CallbackManager -/

def pendingKey (route txnID : String) : String := "Sync#" ++ route ++ "#" ++ txnID

def callbackChannel (route txnID : String) : String := "Callback#" ++ route ++ "#" ++ txnID

/-- Marks a request as pending. -/
def register (route txnID : String) : Task (Except String Unit) := call (.setPending (pendingKey route txnID))

/-- Waits for a callback, or for the timeout. -/
def wait (route txnID : String) : Task (Except String Fields) := do
  let channel := callbackChannel route txnID
  let subscription ← call (.subscribe channel)
  let msg ← call (.receive subscription)
  let _ ← call (.close subscription)
  match (msg : Option Fields) with
  | some body => return .ok body
  | none => return .error ("timeout waiting for callback on channel " ++ channel)

/-- Delivers `body` to the waiting request, if its key is still pending. -/
def publish (route txnID : String) (body : Fields) : Task (Except String Unit) := do
  let key := pendingKey route txnID
  match ← call (.existsPending key) with
  | .error err => return .error ("checking pending key: " ++ err)
  | .ok false => return .error ("no pending request found for key " ++ key)
  | .ok true =>
    let channel := callbackChannel route txnID
    match ← call (.publish channel body) with
    | .error err => return .error ("publish to channel " ++ channel ++ ": " ++ err)
    | .ok _ =>
      let _ ← call (.deletePending key)
      return .ok ()

/-! ### Requests to the network -/

def callOnixCaller (s : ClientService) (action : String) (payload : Fields) : Task (Except String Unit) := do
  match ← call (.post .onixBAPCaller action payload) with
  | .failed err => return .error ("POST " ++ s.onixBAPCallerURL ++ "/" ++ action ++ ": " ++ err)
  | .response status body _ =>
    if status ≥ 400 then return .error ("onix-bap returned " ++ toString status ++ ": " ++ body)
    else return .ok ()

/-- Hands the request to the network and waits for its callback. -/
def forwardAndWait (s : ClientService) (action : String) (payload : Fields) : Task (Except String Fields) := do
  let txnID := transactionID payload
  match ← register action txnID with
  | .error err => return .error ("register callback: " ++ err)
  | .ok _ =>
    match ← callOnixCaller s action payload with
    | .error err => return .error ("call onix-bap/" ++ action ++ ": " ++ err)
    | .ok _ =>
      match ← wait action txnID with
      | .error err => return .error ("wait for on_" ++ action ++ ": " ++ err)
      | .ok body => return .ok body

/-- A request that is recorded in `transactions` with `status` before it is forwarded. -/
def recordAndForward (s : ClientService) (txnID action status : String) (payload : Fields) :
    Task (Except String Fields) := do
  let _ ← call (.upsertTransaction txnID action status)
  forwardAndWait s action payload

def search (s : ClientService) (query : String) : Task (Except String Fields) := do
  let txnID ← call .newUUID
  let msgID ← call .newUUID
  let context ← buildContext "discover" txnID msgID
  recordAndForward s txnID "discover" "INITIATED" (discoverPayload context query)

/-- The transaction id and the message id of a form. -/
def extractOrNew (req : Fields) : Task (String × String) := do
  if formTransactionID req = "" then
    let txnID ← call .newUUID
    let msgID ← call .newUUID
    return (txnID, msgID)
  else
    let msgID ← call .newUUID
    return (formTransactionID req, msgID)

def select (s : ClientService) (req : Fields) : Task (Except String Fields) := do
  let (txnID, msgID) ← extractOrNew req
  let context ← buildContext "select" txnID msgID
  recordAndForward s txnID "select" "SELECT_SENT" (selectPayload context req)

def init (s : ClientService) (req : Fields) : Task (Except String Fields) := do
  let (txnID, msgID) ← extractOrNew req
  let context ← buildContext "init" txnID msgID
  recordAndForward s txnID "init" "INIT_SENT" (initPayload context txnID req)

/-- The answer to a confirm: an `on_confirm` with an error is an error of the method. -/
def confirmResult (result : Fields) : Except String Fields :=
  match (result.get "error").fields? with
  | some errField =>
    let msg := (errField.get "message").text
    .error (if msg = "" then "confirm rejected by BPP" else msg)
  | none => .ok result

def confirm (s : ClientService) (req : Fields) : Task (Except String Fields) := do
  let (txnID, msgID) ← extractOrNew req
  -- txnId[:8] panics on a shorter id
  if txnID.utf8ByteSize < 8 then
    return .error "runtime error: slice bounds out of range"
  else
    let context ← buildContext "confirm" txnID msgID
    match ← recordAndForward s txnID "confirm" "CONFIRM_SENT" (confirmPayload context txnID req) with
    | .error err => return .error err
    | .ok result => return confirmResult result

def requestStatus (s : ClientService) (txnID : String) : Task (Except String Fields) := do
  let msgID ← call .newUUID
  let context ← buildContext "status" txnID msgID
  forwardAndWait s "status" (contractWithStatus context txnID "ACTIVE")

def cancel (s : ClientService) (txnID : String) : Task (Except String Fields) := do
  let msgID ← call .newUUID
  let context ← buildContext "cancel" txnID msgID
  recordAndForward s txnID "cancel" "CANCEL_SENT" (contractWithStatus context txnID "CLOSED")

def rate (s : ClientService) (req : Fields) : Task (Except String Fields) := do
  let (txnID, msgID) ← extractOrNew req
  let context ← buildContext "rate" txnID msgID
  forwardAndWait s "rate" (ratePayload context txnID req)

def support (s : ClientService) (req : Fields) : Task (Except String Fields) := do
  let (txnID, msgID) ← extractOrNew req
  let context ← buildContext "support" txnID msgID
  forwardAndWait s "support" (supportPayload context txnID req)

/-! ### ION -/

/-- Creates a DOKU Checkout session and stores its request id. -/
def callIONCreateCheckout (s : ClientService) (invoiceNumber : String) (amountIDR : Int) (txnID : String) :
    Task (Except String Fields) := do
  if s.ionServiceURL = "" then
    return .error "ION_SERVICE_URL not configured"
  else
    let callbackURL := s.bapFrontendURL ++ "/policy/" ++ txnID ++ "?payment=done"
    match ← call (.post .ionService "payment/create-checkout" (checkoutPayload invoiceNumber callbackURL amountIDR)) with
    | .failed err => return .error err
    | .response status body json =>
      if status ≠ 200 then
        return .error ("ION create-checkout HTTP " ++ toString status ++ ": " ++ body)
      else
        let result := json.fields
        let rid := (result.get "payment_request_id").text
        if rid ≠ "" then
          let _ ← call (.setCheckoutRequestID txnID rid)
          return .ok result
        else
          return .ok result

/-- Tells ION that the customer has paid. -/
def notifyPaymentReceived (txnID : String) : Task (Except String Fields) := do
  let row ← call (.selectForNotify txnID)
  let (invoiceNumber, amount, checkoutReqID) := row.toOption.getD ("", 0, "")
  let invoiceNumber := if invoiceNumber = "" then "ins-" ++ txnID else invoiceNumber
  match ← call (.post .ionService "payment/notify-direct" (notifyPayload invoiceNumber checkoutReqID amount)) with
  | .failed err => return .error err
  | .response status body _ =>
    if status ≠ 200 then return .error ("notify-direct HTTP " ++ toString status ++ ": " ++ body)
    else return .ok []

/-! ### Callbacks -/

/-- SEAM Stage 1: on `on_init`, create a checkout and put it into the payload. -/
def enrich (s : ClientService) (payload : Fields) : Task Fields := do
  let txnID := transactionID payload
  let _ ← call (.upsertTransaction txnID "init" "INIT_RECEIVED")
  let totalIDR := extractTotalIDRFromOnInit payload
  match ← callIONCreateCheckout s ("ins-" ++ txnID) totalIDR txnID with
  | .ok co =>
    let _ ← call (.setCheckout txnID (co.get "invoice_number") (co.get "checkout_url") totalIDR)
    return injectIntoConsiderationAttributes payload
      [("checkoutUrl", co.get "checkout_url"), ("invoiceNumber", co.get "invoice_number")]
  | .error _ => return payload

/-- The action and the status that a callback records, if it records one. -/
def callbackStatus (onAction : String) (payload : Fields) : Option (String × String) :=
  match onAction with
  | "on_select" => some ("select", "QUOTE_RECEIVED")
  | "on_init" => some ("init", "INIT_RECEIVED")
  | "on_confirm" => if payload.has "error" then none else some ("confirm", "CONFIRMED")
  | "on_reconcile" => some ("reconcile", "SETTLED")
  | "on_cancel" => some ("cancel", "CANCELLED")
  | _ => none

/-- The callback reports an issued policy, which starts the reconcile. -/
def reportsIssued (onAction : String) (payload : Fields) : Bool :=
  onAction = "on_confirm" && !payload.has "error" && extractPolicyStateFromOnConfirm payload = "ACTIVE"

/-- Updates the status for a callback. -/
def updateStatus (onAction : String) (payload : Fields) : Task Unit := do
  let txnID := transactionID payload
  match callbackStatus onAction payload with
  | some (action, status) =>
    let _ ← call (.upsertTransaction txnID action status)
    if reportsIssued onAction payload then
      let _ ← call (.goSendReconcile txnID)
      return ()
    else return ()
  | none => return ()

/-- Stores the snapshot, if the callback names a transaction. -/
def saveCallback (onAction : String) (payload : Fields) : Task Unit := do
  if transactionID payload ≠ "" then
    let _ ← call (.saveSnapshot (transactionID payload) onAction payload)
    return ()
  else return ()

def handleCallback (s : ClientService) (onAction : String) (payload : Fields) : Task (Except String Fields) := do
  let payload ← if onAction = "on_init" ∧ transactionID payload ≠ "" then enrich s payload else pure payload
  saveCallback onAction payload
  updateStatus onAction payload
  -- an error of the publication is only logged
  let _ ← publish (trimPrefix onAction "on_") (transactionID payload) payload
  return .ok []

/-- The amount to pay, from the latest `on_init`. -/
def getPaymentAmountFromSnapshot (txnID : String) : Task Int := do
  match ← call (.selectOnInit txnID) with
  | .ok snap => return extractTotalIDRFromOnInit snap
  | .error _ => return 500000

/-- The amount to reconcile: the stored one, unless it is zero. -/
def reconcileAmount (txnID : String) (amount : Int) : Task Int :=
  if amount = 0 then getPaymentAmountFromSnapshot txnID else return amount

/-- The goroutine that an issued policy starts. -/
def sendReconcile (txnID : String) : Task (Except String Fields) := do
  let row ← call (.selectForReconcile txnID)
  let (invoiceNumber, amount) := row.toOption.getD ("", 0)
  let invoiceNumber := if invoiceNumber = "" then "ins-" ++ txnID else invoiceNumber
  let amount ← reconcileAmount txnID amount
  let msgID ← call .newUUID
  let context ← buildContext "reconcile" txnID msgID
  let _ ← call (.upsertTransaction txnID "reconcile" "RECONCILING")
  -- a failed post is only logged
  let _ ← call (.post .bppWebhook "reconcile" (reconcilePayload context invoiceNumber amount))
  return .ok []

/-! ### The service as a machine -/

/-- A call of the frontend, a callback of the network, or a goroutine. -/
inductive Request : Type where
  | search (query : String)
  | select (req : Fields)
  | init (req : Fields)
  | confirm (req : Fields)
  | requestStatus (txnID : String)
  | cancel (txnID : String)
  | rate (req : Fields)
  | support (req : Fields)
  | paymentReceived (txnID : String)
  | callback (onAction : String) (payload : Fields)
  | sendReconcile (txnID : String)
  deriving DecidableEq

def handler (s : ClientService) : Request → Task (Except String Fields)
  | .search query => search s query
  | .select req => select s req
  | .init req => init s req
  | .confirm req => confirm s req
  | .requestStatus txnID => Bap.requestStatus s txnID
  | .cancel txnID => cancel s txnID
  | .rate req => rate s req
  | .support req => support s req
  | .paymentReceived txnID => notifyPaymentReceived txnID
  | .callback onAction payload => handleCallback s onAction payload
  | .sendReconcile txnID => Bap.sendReconcile txnID

def machine (s : ClientService) : Machine Db Choice Request Op Op.Ans (Except String Fields) where
  exec := exec
  handler := handler s

end IonInsurance.Bap
