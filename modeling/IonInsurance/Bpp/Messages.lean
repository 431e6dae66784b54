import IonInsurance.Bpp.Premium
import IonInsurance.Bpp.Store

/-!
# The messages of the BPP

The Beckn responses that the handlers build, with the field names and constants of the source, and what the handlers
read of a request.
-/

namespace IonInsurance.Bpp

/-- The configuration of the service. -/
structure BecknService where
  bppID : String := "insurance-bpp.iontest"
  bapWebhookURL : String := "http://bap:8083/webhook"
  dokuBPPBankAccountID : String := ""
  dokuBAPBankAccountID : String := ""
  dokuIONBankAccountID : String := ""

def ionSchemaBase : String :=
  "https://raw.githubusercontent.com/remiges-Tushar/ion-specs/refs/heads/feat/FIN-03-motor-insurance-schema/schema/extensions/finance/"

/-! ### Requests -/

/-- `req["context"]`. -/
def contextOf (req : Fields) : Fields := (req.get "context").fields

/-- `req["context"]["transaction_id"]`. -/
def transactionID (req : Fields) : String := ((contextOf req).get "transaction_id").text

/-- A message that names its transaction and nothing else. -/
def bareMessage (txnID : String) : Fields := [("context", .obj [("transaction_id", .str txnID)])]

@[simp] theorem transactionID_bareMessage (txnID : String) : transactionID (bareMessage txnID) = txnID := rfl

/-- `req["message"]["contract"]`. -/
def contractOf (req : Fields) : Fields := ((req.get "message").fields.get "contract").fields

/-- `commitments[0].commitmentAttributes` of the contract. -/
def commitmentAttributes (req : Fields) : Fields :=
  ((((contractOf req).get "commitments").first).get "commitmentAttributes").fields

structure SelectInput where
  productType : String
  zone : String
  idvIDR : Int

def selectInput (req : Fields) : SelectInput :=
  let attrs := commitmentAttributes req
  let productType := (attrs.get "productType").text
  let zone := (attrs.get "tariffZone").text
  { productType := if productType = "" then "MOTOR_COMPREHENSIVE" else productType
    zone := if zone = "" then "ZONE_3" else zone
    idvIDR := ((attrs.get "idv").num?.map int64).getD 100000000 }

structure InitInput where
  nik : String
  vin : String
  idvIDR : Int

def initInput (req : Fields) : InitInput where
  nik := (((((contractOf req).get "participants").first.get "participantAttributes").fields).get "nik").text
  vin := ((commitmentAttributes req).get "vin").text
  idvIDR := (((commitmentAttributes req).get "idv").num?.map int64).getD 0

/-- `nikRegex`: sixteen decimal digits. -/
def nikRegex (nik : String) : Bool := nik.toList.length = 16 && nik.toList.all Char.isDigit

/-- A payment's method, reference and amount. -/
structure PaymentProof where
  method : String
  ref : String
  amount : Int

def confirmInput (req : Fields) : PaymentProof :=
  let payment := ((commitmentAttributes req).get "payment").fields
  { method := (payment.get "method").text
    ref := (payment.get "ref").text
    amount := ((payment.get "amount").num?.map int64).getD 0 }

structure ReconcileInput where
  invoiceNumber : String
  totalAmount : Int

def reconcileInput (req : Fields) : ReconcileInput :=
  let settlement := ((req.get "message").fields.get "settlement").fields
  let invoiceNumber := (settlement.get "invoice_number").text
  { invoiceNumber := if invoiceNumber = "" then "ins-" ++ transactionID req else invoiceNumber
    totalAmount := ((settlement.get "total_amount").num?.map int64).getD 0 }

structure RateInput where
  score : Int
  feedback : String

def rateInput (req : Fields) : RateInput :=
  let input := ((req.get "message").fields.get "ratingInputs").first
  { score := (((input.get "range").fields.get "value").num?.map int64).getD 0
    feedback := ((((input.get "feedbackFormSubmission").fields.get "data").fields).get "feedback").text }

def supportInput (req : Fields) : String :=
  let desc := (((((req.get "message").fields.get "support").fields).get "descriptor").fields.get "name").text
  if desc = "" then "Support request" else desc

/-! ### Responses -/

/-- `buildResponseContext`, at the two clock readings it takes. -/
def responseContext (s : BecknService) (reqCtx : Fields) (action : String) (t₁ t₂ : Time) : Fields :=
  let txnID := (reqCtx.get "transaction_id").text
  let version := (reqCtx.get "version").text
  [("version", .str (if version = "" then "2.0.0" else version)),
   ("action", .str action),
   ("domain", .str "ion:finance"),
   ("bap_id", .str (reqCtx.get "bap_id").text),
   ("bap_uri", .str (reqCtx.get "bap_uri").text),
   ("bpp_id", .str s.bppID),
   ("bpp_uri", .str "http://onix-bpp:8082/bpp/receiver"),
   ("transaction_id", .str txnID),
   ("message_id", .str ("resp-" ++ txnID ++ "-" ++ toString t₁.unixNano)),
   ("timestamp", .str t₂.rfc3339),
   ("ttl", .str "PT30S")]

/-- `{"descriptor": {"code": code}}`. -/
def statusCode (code : String) : Json := .obj [("descriptor", .obj [("code", .str code)])]

/-- The `resources` of a commitment. -/
def policyResource (name : String) : Json :=
  .arr [.obj
    [("id", .str "1"),
     ("descriptor", .obj [("name", .str name)]),
     ("quantity", .obj [("unitQuantity", .int 1), ("unitCode", .str "policy"), ("unitText", .str "policy")])]]

/-- The `breakup` of a `PremiumConsideration`. -/
def considerationBreakup (b : PremiumBreakup) : Json :=
  .arr
    [.obj [("type", .str "BASE_PREMIUM"), ("amountIDR", .int b.basePremiumIDR)],
     .obj [("type", .str "ADMIN_FEE"), ("amountIDR", .int b.adminFeeIDR)],
     .obj [("type", .str "STAMP_DUTY"), ("amountIDR", .int b.stampDutyIDR)]]

/-- `@context` and `@type` of an attribute object. -/
def typed (path type : String) (rest : Fields) : Json :=
  .obj (("@context", .str (ionSchemaBase ++ path)) :: ("@type", .str type) :: rest)

/-- A response whose message is a contract with one commitment; all but `on_select` name the contract. -/
def contractResponse (context : Fields) (contractID : Option String) (commitment : Fields) : Fields :=
  [("context", .obj context),
   ("message", .obj [("contract", .obj
     ((contractID.map fun id => ("id", Json.str id)).toList ++ [("commitments", .arr [.obj commitment])]))])]

/-- The commitment fields that `on_init`, `on_confirm`, `on_status` and `on_cancel` share. -/
def policyCommitment (txnID code : String) (rest : Fields) : Fields :=
  [("status", statusCode code),
   ("resources", policyResource "InsuranceProduct"),
   ("offer", .obj [("id", .str ("quote-" ++ txnID)), ("resourceIds", .arr [.str "1"])])] ++ rest

def buildOnSearchResponse (s : BecknService) (context : Fields) (resources : List ResourceRow) : Fields :=
  let item (r : ResourceRow) : Json :=
    let attrs := (r.resourceAttributes.set "@context"
      (.str (ionSchemaBase ++ "insurance-resource/v1/context.jsonld"))).set "@type" (.str "InsuranceProduct")
    let attrs := ((attrs.set "productType" (.str r.productType)).set "vehicleType" (.str r.vehicleType)).set
      "ojkProductCode" (.str r.ojkProductCode)
    let attrs := if r.tariffZone ≠ "" then attrs.set "tariffZone" (.str r.tariffZone) else attrs
    let attrs := if r.premiumRateMin > 0 then attrs.set "premiumRateMin" (.num r.premiumRateMin) else attrs
    let attrs := if r.premiumRateMax > 0 then attrs.set "premiumRateMax" (.num r.premiumRateMax) else attrs
    .obj
      [("id", .str (toString r.id)),
       ("descriptor", .obj [("name", .str r.ojkProductCode)]),
       ("resourceAttributes", .obj attrs)]
  let provider := [("id", Json.str s.bppID), ("descriptor", .obj [("name", .str s.bppID)])]
  [("context", .obj context),
   ("message", .obj [("catalogs", .arr [.obj
     (provider ++ [("provider", .obj provider), ("resources", .arr (resources.map item))])])])]

def onSelect (context : Fields) (txnID : String) (input : SelectInput) (b : PremiumBreakup) (quoteValidUntil : Time) :
    Fields :=
  contractResponse context none
    [("status", statusCode "ACTIVE"),
     ("resources", policyResource input.productType),
     ("offer", .obj
       [("id", .str ("quote-" ++ txnID)),
        ("resourceIds", .arr [.str "1"]),
        ("offerAttributes", typed "insurance-offer/v1/context.jsonld" "PolicyQuote"
          [("approvedIDV", .int input.idvIDR),
           ("annualPremiumIDR", .int b.totalIDR),
           ("rateUsedPct", .num b.rateUsed),
           ("breakup", .arr
             [.obj [("title", .str "Base Premium"), ("amountIDR", .int b.basePremiumIDR)],
              .obj [("title", .str "Admin Fee"), ("amountIDR", .int b.adminFeeIDR)],
              .obj [("title", .str "Stamp Duty"), ("amountIDR", .int b.stampDutyIDR)]]),
           ("quoteValidUntil", .str quoteValidUntil.rfc3339)])]),
     ("considerationAttributes", typed "insurance-consideration/v1/context.jsonld" "PremiumConsideration"
       [("totalAmountIDR", .int b.totalIDR), ("breakup", considerationBreakup b)])]

def onInit (context : Fields) (txnID : String) (b : PremiumBreakup) : Fields :=
  contractResponse context (some txnID) (policyCommitment txnID "ACTIVE"
    [("commitmentAttributes", typed "insurance-contract/v1/context.jsonld" "InsurancePolicy"
       [("policyStatus", .str "PENDING_ISSUANCE")]),
     ("considerationAttributes", typed "insurance-consideration/v1/context.jsonld" "PremiumConsideration"
       [("totalAmountIDR", .int b.totalIDR),
        ("paymentStatus", .str "PENDING"),
        ("settlementTerms", .obj [("sellerPct", .int 97), ("buyerAppPct", .int 2), ("ionFeePct", .int 1)]),
        ("breakup", considerationBreakup b)])])

/-- The policy that an `on_confirm` reports. -/
structure Issued where
  policyNumber : String
  certURL : String
  coverageStart : Time
  coverageEnd : Time

def onConfirm (context : Fields) (txnID : String) (issued : Issued) (payment : PaymentProof) (b : PremiumBreakup) :
    Fields :=
  let coverage := [("coverageStart", Json.str issued.coverageStart.rfc3339),
    ("coverageEnd", Json.str issued.coverageEnd.rfc3339)]
  contractResponse context (some txnID) (policyCommitment txnID "ACTIVE"
    [("commitmentAttributes", typed "insurance-contract/v1/context.jsonld" "InsurancePolicy"
       ([("policyStatus", .str "ACTIVE"),
         ("policyState", .str "ACTIVE"),
         ("policyNumber", .str issued.policyNumber),
         ("certificateUrl", .str issued.certURL)] ++ coverage)),
     ("considerationAttributes", typed "insurance-consideration/v1/context.jsonld" "PremiumConsideration"
       [("totalAmountIDR", .int b.totalIDR),
        ("paymentMethod", .str payment.method),
        ("paymentRef", .str payment.ref),
        ("paymentStatus", .str "PAID"),
        ("breakup", considerationBreakup b)]),
     ("performanceAttributes", typed "insurance-performance/v1/context.jsonld" "PolicyPerformance"
       (("policyState", .str "ACTIVE") :: coverage))])

/-- The `on_confirm` of a confirm that comes before the payment. -/
def paymentNotReceived (context : Fields) : Fields :=
  [("context", .obj context),
   ("error", .obj
     [("code", .str "PAYMENT_NOT_RECEIVED"),
      ("message", .str
        "Payment not yet received. Please complete payment via DOKU Checkout and wait for webhook confirmation.")])]

/-- One share of a settlement, in percent. -/
def percentage (key : String × Json) (rest : Fields) (value : ℚ) : Json :=
  .obj (key :: rest ++ [("value", .num value), ("type", .str "PERCENTAGE")])

/-- The splits sent to ION: those parties whose bank account is configured. -/
def releaseSplits (s : BecknService) : List Json :=
  [(s.dokuBPPBankAccountID, (97 : ℚ)), (s.dokuBAPBankAccountID, 2), (s.dokuIONBankAccountID, 1)].filterMap
    fun (account, value) =>
      if account = "" then none else some (percentage ("bank_account_settlement_id", .str account) [] value)

def releasePayload (s : BecknService) (invoiceNumber dokuRequestID : String) (totalAmount : Int) : Fields :=
  [("invoice_number", .str invoiceNumber),
   ("original_request_id", .str dokuRequestID),
   ("amount", .int totalAmount),
   ("splits", .arr (releaseSplits s))]

def onReconcile (context : Fields) (invoiceNumber : String) : Fields :=
  [("context", .obj context),
   ("message", .obj [("settlement", .obj
     [("status", .str "AGREED"),
      ("invoice_number", .str invoiceNumber),
      ("splits", .arr
        [percentage ("party", .str "seller") [("label", .str "BPP (Insurer)")] 97,
         percentage ("party", .str "buyer_app") [("label", .str "BAP (Buyer App)")] 2,
         percentage ("party", .str "ion") [("label", .str "ION (Network Fee)")] 1])])])]

def onStatus (context : Fields) (txnID orderStatus policyNumber certURL : String) : Fields :=
  let policy := [("policyNumber", Json.str policyNumber), ("certificateUrl", Json.str certURL)]
  contractResponse context (some txnID) (policyCommitment txnID orderStatus
    [("commitmentAttributes", typed "insurance-contract/v1/context.jsonld" "InsurancePolicy"
       (("policyStatus", .str orderStatus) :: policy)),
     ("performanceAttributes", typed "insurance-performance/v1/context.jsonld" "PolicyPerformance"
       (("policyState", .str orderStatus) :: policy))])

def onCancel (context : Fields) (txnID : String) : Fields :=
  contractResponse context (some txnID) (policyCommitment txnID "CLOSED"
    [("commitmentAttributes", typed "insurance-contract/v1/context.jsonld" "InsurancePolicy"
       [("policyStatus", .str "CANCELLED")])])

def onRate (context : Fields) (txnID : String) : Fields :=
  [("context", .obj context),
   ("message", .obj [("ratings", .arr [.obj [("target", .obj [("id", .str txnID)]), ("range", .obj [])]])])]

def onSupport (context : Fields) (txnID : String) : Fields :=
  [("context", .obj context),
   ("message", .obj [("support", .obj
     [("orderId", .str txnID),
      ("descriptor", .obj [("name", .str "Support ticket created. Our team will contact you shortly.")]),
      ("channels", .arr [.obj [("type", .str "EMAIL")]])])])]

end IonInsurance.Bpp
