import IonInsurance.Clock

/-!
# The messages of the BAP

The Beckn requests that `ClientService` builds from the forms of the frontend, and what it reads of a callback.
-/

namespace IonInsurance.Bap

def ionSchemaBaseBAP : String :=
  "https://raw.githubusercontent.com/remiges-Tushar/ion-specs/refs/heads/feat/FIN-03-motor-insurance-schema/schema/extensions/finance/"

/-! ### Reading -/

/-- `s` of a non-empty string, and the default otherwise. -/
def stringOrDefault (v : Json) (default : String) : String := if v.text ≠ "" then v.text else default

/-- The transaction id that a form names, at its top or in its context. -/
def formTransactionID (req : Fields) : String :=
  stringOrDefault (req.get "transaction_id") ((req.get "context").fields.get "transaction_id").text

/-- `payload["context"]`. -/
def contextOf (payload : Fields) : Fields := (payload.get "context").fields

/-- `payload["context"]["transaction_id"]`. -/
def transactionID (payload : Fields) : String := ((contextOf payload).get "transaction_id").text

/-- `payload["message"]["contract"]["commitments"]`. -/
def commitmentsOf (payload : Fields) : List Json :=
  (((payload.get "message").fields.get "contract").fields.get "commitments").items

/-- The amount to pay, or 500000 where the payload does not say it. -/
def extractTotalIDRFromOnInit (payload : Fields) : Int :=
  match commitmentsOf payload with
  | [] => 500000
  | c :: _ =>
    match ((c.fields.get "considerationAttributes").fields.get "totalAmountIDR").num? with
    | some total => int64 total
    | none => 500000

def extractPolicyStateFromOnConfirm (payload : Fields) : String :=
  match commitmentsOf payload with
  | [] => ""
  | c :: _ => ((c.fields.get "commitmentAttributes").fields.get "policyState").text

/-- Replace `m[k]`, which is an object, by its image. -/
def modifyObject (m : Fields) (k : String) (f : Fields → Fields) : Fields :=
  match m.get k with
  | .obj inner => m.set k (.obj (f inner))
  | _ => m

/-- Merge `extra` into `commitments[0].considerationAttributes`, where that is an object. -/
def injectIntoConsiderationAttributes (payload extra : Fields) : Fields :=
  modifyObject payload "message" fun message => modifyObject message "contract" fun contract =>
    match contract.get "commitments" with
    | .arr (.obj c :: rest) =>
      contract.set "commitments" (.arr (.obj (modifyObject c "considerationAttributes" fun attributes =>
        extra.foldl (fun m e => m.set e.1 e.2) attributes) :: rest))
    | _ => contract

/-! ### Building -/

/-- `buildContext`, at the clock reading it takes. -/
def requestContext (action txnID msgID : String) (now : Time) : Json :=
  .obj
    [("version", .str "2.0.0"),
     ("action", .str action),
     ("domain", .str "ion:finance"),
     ("bap_id", .str "insurance-bap.iontest"),
     ("bap_uri", .str "http://onix-bap:8081/bap/receiver"),
     ("transaction_id", .str txnID),
     ("message_id", .str msgID),
     ("timestamp", .str now.rfc3339),
     ("ttl", .str "PT30S")]

/-- The commitment of a request for the resource `productID`. -/
def commitment (code productID : String) (rest : Fields) : Json :=
  .obj
    ([("status", .obj [("descriptor", .obj [("code", .str code)])]),
      ("resources", .arr [.obj
        [("id", .str productID),
         ("descriptor", .obj [("name", .str "InsuranceProduct")]),
         ("quantity", .obj [("unitQuantity", .int 1), ("unitCode", .str "policy"), ("unitText", .str "policy")])]]),
      ("offer", .obj [("id", .str "1"), ("resourceIds", .arr [.str productID])])] ++ rest)

/-- `commitmentAttributes` of type `InsurancePolicy`. -/
def insurancePolicy (rest : Fields) : Fields :=
  [("commitmentAttributes", .obj
    (("@context", .str (ionSchemaBaseBAP ++ "insurance-contract/v1/context.jsonld")) ::
      ("@type", .str "InsurancePolicy") :: rest))]

/-- A request whose message is a contract. -/
def contractRequest (context : Json) (contract : Fields) : Fields :=
  [("context", context), ("message", .obj [("contract", .obj contract)])]

def discoverPayload (context : Json) (query : String) : Fields :=
  [("context", context), ("message", .obj [("intent", .obj [("textSearch", .str query)])])]

def selectPayload (context : Json) (req : Fields) : Fields :=
  let productID := stringOrDefault (req.get "productId") "1"
  let productType := stringOrDefault (req.get "productType") "MOTOR_COMPREHENSIVE"
  let tariffZone := stringOrDefault (req.get "tariffZone") "ZONE_3"
  contractRequest context
    [("commitments", .arr [commitment "DRAFT" productID (insurancePolicy
      [("productType", .str productType), ("tariffZone", .str tariffZone), ("idv", .num (req.get "idv").float)])])]

def initPayload (context : Json) (txnID : String) (req : Fields) : Fields :=
  let nik := stringOrDefault (req.get "nik") ""
  let vin := stringOrDefault (req.get "plate") (stringOrDefault (req.get "vin") "VIN-UNKNOWN")
  contractRequest context
    [("id", .str txnID),
     ("participants", .arr [.obj
       [("id", .str nik),
        ("participantAttributes", .obj
          [("@context", .str (ionSchemaBaseBAP ++ "insurance-participant/v1/context.jsonld")),
           ("@type", .str "Policyholder"),
           ("nik", .str nik)])]]),
     ("commitments", .arr [commitment "DRAFT" "1" (insurancePolicy
       [("vin", .str vin), ("idv", .num (req.get "idv").float)])])]

/-- The first `n` bytes of a text, as JSON shows them: a character that is cut becomes one `U+FFFD` for each byte. -/
def firstBytes : List Char → Nat → List Char
  | [], _ => []
  | c :: cs, n =>
    if c.utf8Size ≤ n then c :: firstBytes cs (n - c.utf8Size) else List.replicate n (Char.ofNat 0xFFFD)

def confirmPayload (context : Json) (txnID : String) (req : Fields) : Fields :=
  let paymentMethod := stringOrDefault (req.get "paymentMethod") "VIRTUAL_ACCOUNT"
  let paymentRef := stringOrDefault (req.get "paymentRef")
    ("VA-PAY-" ++ String.ofList (firstBytes txnID.toList 8))
  contractRequest context
    [("id", .str txnID),
     ("commitments", .arr [commitment "ACTIVE" "1" (insurancePolicy
       [("payment", .obj
         [("method", .str paymentMethod), ("ref", .str paymentRef), ("amount", .num (req.get "amount").float)])])])]

/-- The contract of a status or a cancel request. -/
def contractWithStatus (context : Json) (txnID code : String) : Fields :=
  contractRequest context [("id", .str txnID), ("commitments", .arr [commitment code "1" []])]

def ratePayload (context : Json) (txnID : String) (req : Fields) : Fields :=
  let score := (req.get "score").float
  let feedback := (req.get "feedback").text
  let range := if score > 0 then [("value", Json.num score), ("min", .num 1), ("max", .num 5)] else []
  let form := if feedback ≠ "" then
    [("feedbackFormSubmission", Json.obj [("data", .obj [("feedback", .str feedback)])])] else []
  [("context", context),
   ("message", .obj [("ratingInputs", .arr [.obj
     ([("target", .obj [("id", .str txnID)]), ("range", .obj range)] ++ form)])])]

def supportPayload (context : Json) (txnID : String) (req : Fields) : Fields :=
  let description := stringOrDefault (req.get "description") "Support request"
  [("context", context),
   ("message", .obj [("support", .obj
     [("orderId", .str txnID),
      ("descriptor", .obj [("name", .str description)]),
      ("channels", .arr [.obj [("type", .str "EMAIL")]])])])]

def reconcilePayload (context : Json) (invoiceNumber : String) (amount : Int) : Fields :=
  [("context", context),
   ("message", .obj [("settlement", .obj
     [("invoice_number", .str invoiceNumber),
      ("total_amount", .int amount),
      ("splits", .obj [("seller_pct", .int 97), ("buyer_app_pct", .int 3)])])])]

@[simp] theorem transactionID_reconcilePayload (action txnID msgID invoiceNumber : String) (now : Time) (amount : Int) :
    transactionID (reconcilePayload (requestContext action txnID msgID now) invoiceNumber amount) = txnID := by
  simp [transactionID, contextOf, reconcilePayload, requestContext, Json.fields, Json.text]

/-- The body of ION's create-checkout. -/
def checkoutPayload (invoiceNumber callbackURL : String) (amountIDR : Int) : Fields :=
  [("invoice_number", .str invoiceNumber),
   ("customer_name", .str "ION Insurance Customer"),
   ("amount_idr", .int amountIDR),
   ("callback_url", .str callbackURL)]

/-- The body of ION's notify-direct. -/
def notifyPayload (invoiceNumber checkoutReqID : String) (amount : Int) : Fields :=
  [("invoice_number", .str invoiceNumber),
   ("amount", .int amount),
   ("payment_request_id", .str checkoutReqID)]

end IonInsurance.Bap
