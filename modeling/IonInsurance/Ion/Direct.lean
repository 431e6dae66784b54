import IonInsurance.Ion.Release

/-!
# The requests of the BAP to ION

The BAP asks ION for a checkout session and tells it that a customer has paid.  `handleCreateCheckout` answers with the
invoice number that it was asked for, and `handleNotifyDirect` forwards the payment to the BPP without asking DOKU.
-/

namespace IonInsurance.Ion

/-! ### The checkout -/

structure NotifyRequest where
  invoiceNumber : String
  amount : ℚ
  paymentRequestID : String

/-- The body of a notify-direct, decoded. -/
def decodeNotify (v : Json) : Except String NotifyRequest :=
  match v with
  | .obj m => do
    let invoiceNumber ← decodeString (Fields.get m "invoice_number")
    let amount ← decodeFloat (Fields.get m "amount")
    let paymentRequestID ← decodeString (Fields.get m "payment_request_id")
    return ⟨invoiceNumber, amount, paymentRequestID⟩
  | .null => .ok ⟨"", 0, ""⟩
  | _ => .error "json: cannot unmarshal into Go value of type struct"

/-- The answer, and the request that a goroutine started by the handler posts. -/
structure Notified where
  status : Nat
  body : Json
  posts : Option (String × Fields) := none

def invoiceRequired : Notified where
  status := 400
  body := .obj [("error", .str "invoice_number required")]

/-- Tells the BPP of a payment, where the webhook of DOKU cannot reach ION. -/
def handleNotifyDirect (lib : Library) (s : IonService) (method : String) (decoded : Except String NotifyRequest) :
    Notified :=
  if method ≠ "POST" then { status := 405, body := .str "method not allowed\n" }
  else
    match decoded with
    | .error _ => invoiceRequired
    | .ok req =>
      if req.invoiceNumber = "" then invoiceRequired
      else
        { status := 200
          body := .obj [("status", .str "notified"), ("invoice_number", .str req.invoiceNumber)]
          posts := some (notifyBPP lib s req.invoiceNumber (utf8 req.paymentRequestID) req.amount) }

/-- The answer to a POST of `payload`. -/
def servedNotify (lib : Library) (s : IonService) (payload : Fields) : Notified :=
  handleNotifyDirect lib s "POST" (decodeNotify (.obj payload))

end IonInsurance.Ion
