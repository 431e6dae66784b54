import IonInsurance.Ion.Webhook

/-!
# The payment instruments of ION

`handleCreateVA`, `handleCreateCheckout` and `handleCreateQRIS` take an invoice number, ask DOKU for an instrument and
answer what DOKU says.  A QRIS code is created under an invoice number of its own.  What DOKU answers, and the access
token of its SNAP API, come from the environment.
-/

namespace IonInsurance.Ion

/-- The configuration behind the instruments; without an RSA key the SNAP API is not used. -/
structure Merchant extends IonService where
  clientID : String := ""
  callbackURL : String := ""
  bapFrontendURL : String := "http://localhost:3000"
  bppBankAccountID : String := ""
  bapBankAccountID : String := ""
  ionBankAccountID : String := ""
  snapClientID : String := clientID
  snapPrivKey : Bool := false

/-- What ION sees of DOKU: its answers, what `json.Unmarshal` makes of a body, the id of a request, and the token of
the SNAP API. -/
structure Doku where
  reply : (path : String) → Fields → Reply
  decode : Json → Except String Fields
  requestID : String
  b2bToken : Except String String

/-- The decoded body of a request for an instrument; only a checkout names a callback. -/
structure CreateRequest where
  invoiceNumber : String
  customerName : String
  amountIDR : Int
  callbackURL : String := ""

/-- The path and the payload of a request to DOKU. -/
abbrev DokuRequest := String × Fields

/-- The result of a call to DOKU, and the requests that it made. -/
abbrev DokuCall := Except String Fields × List DokuRequest

/-- Sends one request, and reads the decoded body of a successful answer. -/
def doRequest (doku : Doku) (name path : String) (payload : Fields) (read : Fields → Except String Fields) : DokuCall :=
  (match doku.reply path payload with
    | .failed err => .error ("DOKU " ++ name ++ " request: " ++ err)
    | .response status body json =>
      if status ≠ 200 ∧ status ≠ 201 then .error ("DOKU " ++ name ++ " HTTP " ++ toString status ++ ": " ++ body)
      else
        match doku.decode json with
        | .error err => .error ("DOKU " ++ name ++ " decode: " ++ err)
        | .ok resp => read resp,
    [(path, payload)])

/-- The `code` and the `message` of an answer without an instrument. -/
def codeAndMessage (resp : Fields) : String :=
  let response := (resp.get "response").fields
  " (code=" ++ (response.get "code").text ++ " msg=" ++ (response.get "message").text ++ ")"

def createVA (s : Merchant) (doku : Doku) (invoiceNumber customerName : String) (amount : Int) : DokuCall :=
  doRequest doku "VA" "/doku-virtual-account/v2/payment-code"
    [("client", .obj [("id", .str s.clientID)]),
     ("order", .obj
       [("invoice_number", .str invoiceNumber),
        ("amount", .int amount),
        ("currency", .str "IDR"),
        ("callback_url", .str s.callbackURL)]),
     ("customer", .obj [("name", .str customerName)]),
     ("virtual_account_info", .obj
       [("billing_type", .str "FIX_BILL"), ("expired_time", .int 1440), ("reusable_status", .bool false)]),
     ("additional_info", .obj [("channel", .str "VIRTUAL_ACCOUNT_BNI"), ("hold_settlement", .bool true)])]
    fun resp =>
      let info := (resp.get "virtual_account_info").fields
      let number := (info.get "virtual_account_number").text
      let bankCode := (info.get "bank_code").text
      if number = "" then .error ("DOKU VA empty number" ++ codeAndMessage resp)
      else .ok
        [("va_number", .str number),
         ("bank_code", .str (if bankCode = "" then "BNI" else bankCode)),
         ("how_to_pay_page", .str (info.get "how_to_pay_page").text),
         ("invoice_number", .str invoiceNumber)]

/-- The shares of a settlement: those parties whose bank account is configured. -/
def settlementShares (s : Merchant) : List Json :=
  [(s.bppBankAccountID, (97 : ℚ)), (s.bapBankAccountID, 2), (s.ionBankAccountID, 1)].filterMap
    fun (account, value) =>
      if account = "" then none
      else some (.obj [("bank_account_settlement_id", .str account), ("value", .num value), ("type", .str "PERCENTAGE")])

def createCheckout (s : Merchant) (doku : Doku) (invoiceNumber customerName : String) (amount : Int)
    (callbackURL : String) : DokuCall :=
  let settlement := settlementShares s
  let additionalInfo := [("hold_settlement", Json.bool true)] ++
    if settlement ≠ [] then [("settlement", .arr settlement)] else []
  doRequest doku "checkout" "/checkout/v1/payment"
    [("order", .obj
       [("amount", .int amount),
        ("invoice_number", .str invoiceNumber),
        ("currency", .str "IDR"),
        ("session_id", .str invoiceNumber),
        ("callback_url", .str (if callbackURL = "" then s.bapFrontendURL else callbackURL)),
        ("line_items", .arr [.obj
          [("name", .str "Insurance Premium"), ("price", .int amount), ("quantity", .int 1)]])]),
     ("payment", .obj [("payment_due_date", .int 60)]),
     ("customer", .obj
       [("name", .str customerName),
        ("email", .str "customer@ion.insure"),
        ("phone", .str "+628000000000"),
        ("address", .str "Jakarta"),
        ("country", .str "ID")]),
     ("additional_info", .obj additionalInfo)]
    fun resp =>
      let url := ((((resp.get "response").fields).get "payment").fields.get "url").text
      let messages := (resp.get "message").items.map Json.text
      if url = "" then
        .error ("DOKU checkout: empty checkout URL (messages=[" ++ " ".intercalate messages ++ "])")
      else .ok
        [("checkout_url", .str url),
         ("invoice_number", .str invoiceNumber),
         ("payment_request_id", .str doku.requestID)]

/-- The non-SNAP endpoint. -/
def createQRISLegacy (s : Merchant) (doku : Doku) (invoiceNumber customerName : String) (amount : Int) : DokuCall :=
  doRequest doku "QRIS" "/qris-pg/v2/payment-code"
    [("client", .obj [("id", .str s.clientID)]),
     ("order", .obj
       [("invoice_number", .str invoiceNumber),
        ("amount", .int amount),
        ("currency", .str "IDR"),
        ("callback_url", .str s.callbackURL)]),
     ("customer", .obj [("name", .str customerName)])]
    fun resp =>
      let content := (((resp.get "qr").fields).get "content").text
      if content = "" then .error ("DOKU QRIS empty content" ++ codeAndMessage resp)
      else .ok [("qr_string", .str content)]

/-- The SNAP endpoint, for which a token is fetched first. -/
def createQRISSnap (s : Merchant) (doku : Doku) (partnerReferenceNo : String) (amount : Int) : DokuCall :=
  match doku.b2bToken with
  | .error err => (.error ("B2B token: " ++ err), [])
  | .ok _ =>
    let path := "/snap-adapter/b2b/v1.0/qr/qr-mpm-generate"
    let payload : Fields :=
      [("partnerReferenceNo", .str partnerReferenceNo),
       ("amount", .obj [("value", .str (toString amount ++ ".00")), ("currency", .str "IDR")]),
       ("merchantId", .str s.snapClientID),
       ("terminalId", .str "ION-001"),
       ("additionalInfo", .obj [("postalCode", .str "12190"), ("feeType", .str "OUR")])]
    (match doku.reply path payload with
      | .failed err => .error ("SNAP QRIS request: " ++ err)
      | .response status body json =>
        if status ≠ 200 ∧ status ≠ 201 then .error ("SNAP QRIS HTTP " ++ toString status ++ ": " ++ body)
        else
          match doku.decode json with
          | .error err => .error ("SNAP QRIS decode: " ++ err)
          | .ok resp =>
            if (resp.get "qrContent").text = "" then
              .error ("SNAP QRIS empty qrContent (code=" ++ (resp.get "responseCode").text ++ " msg=" ++
                (resp.get "responseMessage").text ++ ")")
            else .ok [("qr_string", resp.get "qrContent")],
      [(path, payload)])

/-! ### The handlers -/

/-- The response of a handler, and its requests to DOKU. -/
structure Created where
  status : Nat
  body : Json
  requests : List DokuRequest := []

/-- `jsonError`. -/
def jsonError (msg : String) (status : Nat) : Created := { status := status, body := .obj [("error", .str msg)] }

/-- What the three handlers share: their checks, the default name of the customer, and their errors. -/
def handleCreate (defaultName failure : String) (create : CreateRequest → DokuCall) (method : String)
    (decoded : Except String CreateRequest) : Created :=
  if method ≠ "POST" then { status := 405, body := .str "method not allowed\n" }
  else
    match decoded with
    | .error err => jsonError ("bad request: " ++ err) 400
    | .ok req =>
      if req.invoiceNumber = "" ∨ req.amountIDR ≤ 0 then jsonError "invoice_number and amount_idr required" 400
      else
        let (result, requests) := create
          { req with customerName := if req.customerName = "" then defaultName else req.customerName }
        match result with
        | .error err => { jsonError (failure ++ err) 502 with requests := requests }
        | .ok body => { status := 200, body := .obj body, requests := requests }

def handleCreateVA (s : Merchant) (doku : Doku) : String → Except String CreateRequest → Created :=
  handleCreate "ION Insurance" "doku VA creation failed: " fun req =>
    createVA s doku req.invoiceNumber req.customerName req.amountIDR

def handleCreateCheckout (s : Merchant) (doku : Doku) : String → Except String CreateRequest → Created :=
  handleCreate "ION Insurance Customer" "doku checkout creation failed: " fun req =>
    createCheckout s doku req.invoiceNumber req.customerName req.amountIDR req.callbackURL

def handleCreateQRIS (s : Merchant) (doku : Doku) : String → Except String CreateRequest → Created :=
  handleCreate "ION Insurance" "doku QRIS creation failed: " fun req =>
    -- a suffix avoids the collision with the invoice of the virtual account
    let qrisInvoice := req.invoiceNumber ++ "-qris"
    let (qr, requests) :=
      if s.snapPrivKey then createQRISSnap s doku qrisInvoice req.amountIDR
      else createQRISLegacy s doku qrisInvoice req.customerName req.amountIDR
    (qr.map fun qr => qr ++ [("invoice_number", .str qrisInvoice)], requests)

/-! ### The invoice at DOKU -/

inductive Instrument : Type where
  | virtualAccount
  | checkout
  | qris
  deriving DecidableEq

def Instrument.create (s : Merchant) (doku : Doku) : Instrument → String → Except String CreateRequest → Created
  | virtualAccount => handleCreateVA s doku
  | checkout => handleCreateCheckout s doku
  | qris => handleCreateQRIS s doku

/-- What an instrument adds to the invoice number. -/
def Instrument.suffix : Instrument → String
  | qris => "-qris"
  | _ => ""

/-- The invoice number under which DOKU knows an instrument: SNAP calls it the partner's reference. -/
def invoiceOf (payload : Fields) : String :=
  let partnerReferenceNo := (payload.get "partnerReferenceNo").text
  if partnerReferenceNo ≠ "" then partnerReferenceNo else ((payload.get "order").fields.get "invoice_number").text

/-- A handler asks DOKU nothing that its call does not ask for the request, named or not. -/
private theorem requests_handleCreate {defaultName failure method : String} {create : CreateRequest → DokuCall}
    {req : CreateRequest} {x : DokuRequest}
    (h : x ∈ (handleCreate defaultName failure create method (.ok req)).requests) :
    ∃ name, x ∈ (create { req with customerName := name }).2 := by
  unfold handleCreate at h
  split at h
  · cases h
  · dsimp only at h
    split at h
    · cases h
    · refine ⟨if req.customerName = "" then defaultName else req.customerName, ?_⟩
      split at h <;> exact h

/-- Every instrument is created under the invoice number with its suffix. -/
theorem invoiceOf_created {s : Merchant} {doku : Doku} {i : Instrument} {method : String} {req : CreateRequest}
    {x : DokuRequest} (hsuffix : req.invoiceNumber ++ i.suffix ≠ "")
    (h : x ∈ (i.create s doku method (.ok req)).requests) : invoiceOf x.2 = req.invoiceNumber ++ i.suffix := by
  cases i with
  | virtualAccount =>
    obtain ⟨name, hx⟩ := requests_handleCreate h
    obtain rfl := List.mem_singleton.1 hx
    exact (String.append_empty).symm
  | checkout =>
    obtain ⟨name, hx⟩ := requests_handleCreate h
    obtain rfl := List.mem_singleton.1 hx
    exact (String.append_empty).symm
  | qris =>
    obtain ⟨name, hx⟩ := requests_handleCreate h
    dsimp only at hx
    split at hx
    · unfold createQRISSnap at hx
      split at hx
      · cases hx
      · obtain rfl := List.mem_singleton.1 hx
        exact if_pos hsuffix
    · obtain rfl := List.mem_singleton.1 hx
      rfl

end IonInsurance.Ion
