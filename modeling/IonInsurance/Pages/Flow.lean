import IonInsurance.Arith.Binary64
import IonInsurance.Wizard.Steps

/-!
# The page of a purchase

`PolicyFlowPage` leads the buyer from the vehicle to the issued policy.  It is in one of five steps, which the buyer
moves through; the answers of the BAP and the polls of the BPP arrive at any later time.  A confirm is sent after a poll
has reported the payment, and a page that is told of its policy sends no other.
-/

namespace IonInsurance.Pages

/-! ### Values of the page -/

/-- `v` as a condition. -/
def truthy : Json → Bool
  | .null => false
  | .bool b => b
  | .num q => q ≠ 0
  | .str s => s ≠ ""
  | .arr _ => true
  | .obj _ => true

/-- `v || w`. -/
def orElse (v w : Json) : Json := if truthy v then v else w

/-- `v?.k`, where `undefined` is `null`. -/
def member (v : Json) (k : String) : Json := v.fields.get k

/-- `v?.[0]`. -/
def member0 : Json → Json
  | .arr xs => xs.headD .null
  | v => member v "0"

/-- `data?.message?.contract?.commitments?.[0]`. -/
def commitment0 (data : Json) : Json := member0 (member (member (member data "message") "contract") "commitments")

/-- `parseInt(s)` of the text of a number field: the digits that it begins with, after a sign; `none` is `NaN`. -/
def parseInt (s : String) : Option ℚ :=
  let digits := (trimPrefix s "-").toList.takeWhile Char.isDigit
  if digits.isEmpty then none
  else some (Arith.binary64 ((if hasPrefix s "-" then -1 else 1) * (Nat.ofDigitChars 10 digits 0 : ℕ)))

/-- A number in a JSON body, where `NaN` becomes `null`. -/
def stringifyNumber (n : Option ℚ) : Json := (n.map Json.num).getD .null

/-- `s.length`, in UTF-16 units. -/
def length (s : String) : Nat := (s.toList.map fun c => if c.toNat < 0x10000 then 1 else 2).sum

/-! ### Forms -/

structure VehicleForm where
  make : String
  model : String
  year : String
  idv : String
  plate : String
  stnk : String

structure KycForm where
  name : String
  nik : String
  dob : String
  phone : String
  email : String
  licenseType : String
  address : String
  inspectionMethod : String

/-- What the page reads of the product that was selected before. -/
structure Product where
  productId : String := "1"
  productType : String := "MOTOR_COMPREHENSIVE"
  tariffZone : String := "ZONE_3"

/-- The body of a select. -/
def selectForm (product : Product) (form : VehicleForm) : Fields :=
  [("idv", stringifyNumber (parseInt form.idv)),
   ("year", stringifyNumber (parseInt form.year)),
   ("make", .str form.make),
   ("model", .str form.model),
   ("plate", .str form.plate),
   ("stnk", .str form.stnk),
   ("productId", .str product.productId),
   ("productType", .str product.productType),
   ("tariffZone", .str product.tariffZone)]

/-- A transaction id in a JSON body, where `null` stands for none. -/
def txnIdField (txnId : Option String) : String × Json := ("transaction_id", (txnId.map Json.str).getD .null)

/-- The body of an init; without a vehicle it names no plate and the insured value zero. -/
def initForm (form : KycForm) (txnId : Option String) (vehicleForm : Option VehicleForm) : Fields :=
  [("name", .str form.name),
   ("nik", .str form.nik),
   ("dob", .str form.dob),
   ("phone", .str form.phone),
   ("email", .str form.email),
   ("licenseType", .str form.licenseType),
   ("address", .str form.address),
   ("inspectionMethod", .str form.inspectionMethod),
   txnIdField txnId,
   ("plate", .str ((vehicleForm.map VehicleForm.plate).getD "")),
   ("idv", match vehicleForm with
     | none => .int 0
     | some vehicle => if vehicle.idv = "" then .int 0 else stringifyNumber (parseInt vehicle.idv))]

/-- The premium that `PaymentStep` shows and confirms. -/
def totalPremium (initData annualPremium : Json) : Json :=
  orElse (member (member (commitment0 initData) "considerationAttributes") "totalAmountIDR")
    (orElse annualPremium (.int 0))

/-- The premium of the quote. -/
def annualPremium (quoteData : Json) : Json :=
  orElse (member (member (member (commitment0 quoteData) "offer") "offerAttributes") "annualPremiumIDR") (.int 0)

/-- The body of a confirm. -/
def confirmForm (txnId : String) (totalPremium : Json) : Fields :=
  [("transaction_id", .str txnId),
   ("paymentMethod", .str "DOKU_CHECKOUT"),
   ("paymentRef", .str ("CHECKOUT-" ++ txnId)),
   ("amount", totalPremium)]

/-! ### The page -/

/-- A form that is sent once; a failure allows to send it again. -/
inductive Submission : Type where
  | idle
  | sending
  | done
  deriving DecidableEq

/-- The stage of the settlement, as the last step shows it. -/
inductive SeamStage : Type where
  | policyIssued
  | reconciling
  | settled
  deriving DecidableEq

/-- The stage after a poll of the BAP. -/
def SeamStage.next (seamStage : SeamStage) (status : Json) : SeamStage :=
  if member status "status" = .str "SETTLED" then .settled
  else if member status "status" = .str "RECONCILING" then .reconciling
  else if member status "action" = .str "confirm" ∨ member status "latest_on_action" = .str "on_confirm" then
    .policyIssued
  else seamStage

/-- The step that is shown, with what it keeps.  A step that is left takes no clicks any more. -/
inductive View : Type where
  | vehicle (submitting : Option VehicleForm)
  | quote
  | kyc (submitting : Bool)
  | payment (submitting : Bool) (seamStatus : Json)
  | issued (rating support : Submission) (seamStage : SeamStage)

structure PolicyFlow where
  product : Product
  view : View
  quoteData : Json
  initData : Json
  confirmData : Json
  actualTxnId : Option String
  vehicleForm : Option VehicleForm

/-- A request of the page. -/
inductive Call : Type where
  | select (body : Fields)
  | init (body : Fields)
  | confirm (body : Fields)
  | paymentReceived (body : Fields)
  | paymentStatus (txnId : String)
  | status (txnId : String)
  | rate (body : Fields)
  | support (body : Fields)

/-- What happens to the page: the buyer acts, the time of a poll comes, or an answer arrives. -/
inductive Event : Type where
  | submitVehicle (form : VehicleForm)
  | selected (res : Json)
  | apply
  | back
  | submitKyc (form : KycForm)
  | initialised (res : Json)
  | tick
  | polled (status : Json)
  | paid
  | confirmed (res : Json)
  | statusTick
  | statusPolled (status : Json)
  | submitRating (score : Nat) (feedback : String)
  | submitSupport (description : String)
  | rated
  | supported
  | selectFailed
  | initFailed
  | confirmFailed
  | ratingFailed
  | supportFailed

/-- `res?.context?.transaction_id || null`; the BAP names a transaction by a text. -/
def txnIdOf (res : Json) : Option String :=
  match member (member res "context") "transaction_id" with
  | .str s => if s = "" then none else some s
  | _ => none

/-- The transaction with which DOKU sends the buyer back, if the URL says so. -/
def returnedTxn (urlTxnId : String) (payment : Option String) : Option String :=
  if urlTxnId ≠ "" ∧ payment = some "done" then some urlTxnId else none

/-- The page when it opens. -/
def PolicyFlow.opened (product : Product) (returned : Option String) : PolicyFlow × List Call :=
  let page : PolicyFlow := ⟨product, .vehicle none, .null, .null, .null, none, none⟩
  match returned with
  | none => (page, [])
  | some txnId =>
    ({ page with view := .payment false .null, actualTxnId := some txnId },
      [.paymentReceived [("transaction_id", .str txnId)]])

/-- The poll has reported the payment. -/
def paymentReceived (seamStatus : Json) : Bool := truthy (member seamStatus "payment_received")

/-- The body of a rating; an empty feedback is left out. -/
def ratingForm (txnId : Option String) (score : Nat) (feedback : String) : Fields :=
  [txnIdField txnId, ("score", .int score)] ++
    if Wizard.trim feedback = "" then [] else [("feedback", .str (Wizard.trim feedback))]

def supportForm (txnId : Option String) (description : String) : Fields :=
  [txnIdField txnId, ("description", .str (Wizard.trim description))]

namespace PolicyFlow

/-- The page after an event, with the requests that it sends; `none` where the event cannot happen. -/
def step? (page : PolicyFlow) : Event → Option (PolicyFlow × List Call)
  | .submitVehicle form =>
    match page.view with
    | .vehicle none => some ({ page with view := .vehicle (some form) }, [.select (selectForm page.product form)])
    | _ => none
  | .selected res =>
    match page.view with
    | .vehicle (some form) =>
      some ({ page with view := .quote, quoteData := res, vehicleForm := some form, actualTxnId := txnIdOf res }, [])
    | _ => none
  | .selectFailed =>
    match page.view with
    | .vehicle (some _) => some ({ page with view := .vehicle none }, [])
    | _ => none
  | .apply =>
    match page.view with
    | .quote => some ({ page with view := .kyc false }, [])
    | _ => none
  | .back =>
    match page.view with
    | .quote => some ({ page with view := .vehicle none }, [])
    | .kyc false => some ({ page with view := .quote }, [])
    | .payment false _ => some ({ page with view := .kyc false }, [])
    | _ => none
  | .submitKyc form =>
    match page.view with
    | .kyc false =>
      if length form.nik ≠ 16 then some (page, [])
      else some ({ page with view := .kyc true }, [.init (initForm form page.actualTxnId page.vehicleForm)])
    | _ => none
  | .initialised res =>
    match page.view with
    | .kyc true => some ({ page with view := .payment false .null, initData := res }, [])
    | _ => none
  | .initFailed =>
    match page.view with
    | .kyc true => some ({ page with view := .kyc false }, [])
    | _ => none
  | .tick =>
    match page.view, page.actualTxnId with
    | .payment _ seamStatus, some txnId =>
      if paymentReceived seamStatus then none else some (page, [.paymentStatus txnId])
    | _, _ => none
  | .polled status =>
    match page.view, page.actualTxnId with
    | .payment submitting _, some _ => some ({ page with view := .payment submitting status }, [])
    | _, _ => none
  | .paid =>
    match page.view, page.actualTxnId with
    | .payment false seamStatus, some txnId =>
      if paymentReceived seamStatus then
        some ({ page with view := .payment true seamStatus },
          [.confirm (confirmForm txnId (totalPremium page.initData (annualPremium page.quoteData)))])
      else none
    | _, _ => none
  | .confirmed res =>
    match page.view with
    | .payment true _ => some ({ page with view := .issued .idle .idle .policyIssued, confirmData := res }, [])
    | _ => none
  | .confirmFailed =>
    match page.view with
    | .payment true seamStatus => some ({ page with view := .payment false seamStatus }, [])
    | _ => none
  | .statusTick =>
    match page.view, page.actualTxnId with
    | .issued _ _ seamStage, some txnId => if seamStage = .settled then none else some (page, [.status txnId])
    | _, _ => none
  | .statusPolled status =>
    match page.view, page.actualTxnId with
    | .issued rating support seamStage, some _ =>
      some ({ page with view := .issued rating support (seamStage.next status) }, [])
    | _, _ => none
  | .submitRating score feedback =>
    match page.view with
    | .issued .idle support seamStage =>
      if 1 ≤ score ∧ score ≤ 5 then
        some ({ page with view := .issued .sending support seamStage }, [.rate (ratingForm page.actualTxnId score feedback)])
      else none
    | _ => none
  | .rated =>
    match page.view with
    | .issued .sending support seamStage => some ({ page with view := .issued .done support seamStage }, [])
    | _ => none
  | .ratingFailed =>
    match page.view with
    | .issued .sending support seamStage => some ({ page with view := .issued .idle support seamStage }, [])
    | _ => none
  | .submitSupport description =>
    match page.view with
    | .issued rating .idle seamStage =>
      if Wizard.trim description = "" then none
      else
        some ({ page with view := .issued rating .sending seamStage },
          [.support (supportForm page.actualTxnId description)])
    | _ => none
  | .supported =>
    match page.view with
    | .issued rating .sending seamStage => some ({ page with view := .issued rating .done seamStage }, [])
    | _ => none
  | .supportFailed =>
    match page.view with
    | .issued rating .sending seamStage => some ({ page with view := .issued rating .idle seamStage }, [])
    | _ => none

end PolicyFlow

/-! ### What an event does -/

/-- The transitions of the page. -/
inductive Step (page : PolicyFlow) : Event → PolicyFlow → List Call → Prop where
  | submitVehicle (form : VehicleForm) (hv : page.view = .vehicle none) :
      Step page (.submitVehicle form) { page with view := .vehicle (some form) } [.select (selectForm page.product form)]
  | selected (res : Json) {form : VehicleForm} (hv : page.view = .vehicle (some form)) :
      Step page (.selected res)
        { page with view := .quote, quoteData := res, vehicleForm := some form, actualTxnId := txnIdOf res } []
  | selectFailed {form : VehicleForm} (hv : page.view = .vehicle (some form)) :
      Step page .selectFailed { page with view := .vehicle none } []
  | apply (hv : page.view = .quote) : Step page .apply { page with view := .kyc false } []
  | backToVehicle (hv : page.view = .quote) : Step page .back { page with view := .vehicle none } []
  | backToQuote (hv : page.view = .kyc false) : Step page .back { page with view := .quote } []
  | backToKyc {seamStatus : Json} (hv : page.view = .payment false seamStatus) :
      Step page .back { page with view := .kyc false } []
  | submitKyc (form : KycForm) (hv : page.view = .kyc false) (hnik : length form.nik = 16) :
      Step page (.submitKyc form) { page with view := .kyc true }
        [.init (initForm form page.actualTxnId page.vehicleForm)]
  | badNik (form : KycForm) (hv : page.view = .kyc false) (hnik : length form.nik ≠ 16) :
      Step page (.submitKyc form) page []
  | initialised (res : Json) (hv : page.view = .kyc true) :
      Step page (.initialised res) { page with view := .payment false .null, initData := res } []
  | initFailed (hv : page.view = .kyc true) : Step page .initFailed { page with view := .kyc false } []
  | tick {submitting : Bool} {seamStatus : Json} {txnId : String} (hv : page.view = .payment submitting seamStatus)
      (ht : page.actualTxnId = some txnId) (hr : paymentReceived seamStatus = false) :
      Step page .tick page [.paymentStatus txnId]
  | polled (status : Json) {submitting : Bool} {seamStatus : Json} {txnId : String}
      (hv : page.view = .payment submitting seamStatus) (ht : page.actualTxnId = some txnId) :
      Step page (.polled status) { page with view := .payment submitting status } []
  | paid {seamStatus : Json} {txnId : String} (hv : page.view = .payment false seamStatus)
      (ht : page.actualTxnId = some txnId) (hr : paymentReceived seamStatus = true) :
      Step page .paid { page with view := .payment true seamStatus }
        [.confirm (confirmForm txnId (totalPremium page.initData (annualPremium page.quoteData)))]
  | confirmed (res : Json) {seamStatus : Json} (hv : page.view = .payment true seamStatus) :
      Step page (.confirmed res) { page with view := .issued .idle .idle .policyIssued, confirmData := res } []
  | confirmFailed {seamStatus : Json} (hv : page.view = .payment true seamStatus) :
      Step page .confirmFailed { page with view := .payment false seamStatus } []
  | statusTick {rating support : Submission} {seamStage : SeamStage} {txnId : String}
      (hv : page.view = .issued rating support seamStage) (ht : page.actualTxnId = some txnId) (hs : seamStage ≠ .settled) :
      Step page .statusTick page [.status txnId]
  | statusPolled (status : Json) {rating support : Submission} {seamStage : SeamStage} {txnId : String}
      (hv : page.view = .issued rating support seamStage) (ht : page.actualTxnId = some txnId) :
      Step page (.statusPolled status) { page with view := .issued rating support (seamStage.next status) } []
  | submitRating (score : Nat) (feedback : String) {support : Submission} {seamStage : SeamStage}
      (hv : page.view = .issued .idle support seamStage) (hscore : 1 ≤ score ∧ score ≤ 5) :
      Step page (.submitRating score feedback) { page with view := .issued .sending support seamStage }
        [.rate (ratingForm page.actualTxnId score feedback)]
  | rated {support : Submission} {seamStage : SeamStage} (hv : page.view = .issued .sending support seamStage) :
      Step page .rated { page with view := .issued .done support seamStage } []
  | ratingFailed {support : Submission} {seamStage : SeamStage} (hv : page.view = .issued .sending support seamStage) :
      Step page .ratingFailed { page with view := .issued .idle support seamStage } []
  | submitSupport (description : String) {rating : Submission} {seamStage : SeamStage}
      (hv : page.view = .issued rating .idle seamStage) :
      Step page (.submitSupport description) { page with view := .issued rating .sending seamStage }
        [.support (supportForm page.actualTxnId description)]
  | supported {rating : Submission} {seamStage : SeamStage} (hv : page.view = .issued rating .sending seamStage) :
      Step page .supported { page with view := .issued rating .done seamStage } []
  | supportFailed {rating : Submission} {seamStage : SeamStage} (hv : page.view = .issued rating .sending seamStage) :
      Step page .supportFailed { page with view := .issued rating .idle seamStage } []

theorem step_of_step? {page page' : PolicyFlow} {ev : Event} {calls : List Call}
    (h : page.step? ev = some (page', calls)) : Step page ev page' calls := by
  unfold PolicyFlow.step? at h
  cases ev with
  | submitVehicle form =>
    dsimp only at h
    split at h <;> cases h
    exact .submitVehicle form ‹_›
  | selected res =>
    dsimp only at h
    split at h <;> cases h
    exact .selected res ‹_›
  | selectFailed =>
    dsimp only at h
    split at h <;> cases h
    exact .selectFailed ‹_›
  | apply =>
    dsimp only at h
    split at h <;> cases h
    exact .apply ‹_›
  | back =>
    dsimp only at h
    split at h <;> cases h
    · exact .backToVehicle ‹_›
    · exact .backToQuote ‹_›
    · exact .backToKyc ‹_›
  | submitKyc form =>
    dsimp only at h
    split at h
    · split at h <;> cases h
      · exact .badNik form ‹_› ‹_›
      · exact .submitKyc form ‹_› (not_not.1 ‹_›)
    · cases h
  | initialised res =>
    dsimp only at h
    split at h <;> cases h
    exact .initialised res ‹_›
  | initFailed =>
    dsimp only at h
    split at h <;> cases h
    exact .initFailed ‹_›
  | tick =>
    dsimp only at h
    split at h
    · split at h <;> cases h
      exact .tick ‹_› ‹_› (Bool.eq_false_iff.2 ‹_›)
    · cases h
  | polled status =>
    dsimp only at h
    split at h <;> cases h
    exact .polled status ‹_› ‹_›
  | paid =>
    dsimp only at h
    split at h
    · split at h <;> cases h
      exact .paid ‹_› ‹_› ‹_›
    · cases h
  | confirmed res =>
    dsimp only at h
    split at h <;> cases h
    exact .confirmed res ‹_›
  | confirmFailed =>
    dsimp only at h
    split at h <;> cases h
    exact .confirmFailed ‹_›
  | statusTick =>
    dsimp only at h
    split at h
    · split at h <;> cases h
      exact .statusTick ‹_› ‹_› ‹_›
    · cases h
  | statusPolled status =>
    dsimp only at h
    split at h <;> cases h
    exact .statusPolled status ‹_› ‹_›
  | submitRating score feedback =>
    dsimp only at h
    split at h
    · split at h <;> cases h
      exact .submitRating score feedback ‹_› ‹_›
    · cases h
  | rated =>
    dsimp only at h
    split at h <;> cases h
    exact .rated ‹_›
  | ratingFailed =>
    dsimp only at h
    split at h <;> cases h
    exact .ratingFailed ‹_›
  | submitSupport description =>
    dsimp only at h
    split at h
    · split at h <;> cases h
      exact .submitSupport description ‹_›
    · cases h
  | supported =>
    dsimp only at h
    split at h <;> cases h
    exact .supported ‹_›
  | supportFailed =>
    dsimp only at h
    split at h <;> cases h
    exact .supportFailed ‹_›

/-! ### Runs of the page -/

/-- The events so far with the requests that they led to, latest first. -/
abbrev Log := List (Event × List Call)

inductive Reaches (product : Product) (returned : Option String) : PolicyFlow → Log → Prop where
  | opened : Reaches product returned (PolicyFlow.opened product returned).1 []
  | step {page page' : PolicyFlow} {log : Log} {ev : Event} {calls : List Call} (h : Reaches product returned page log)
      (hs : page.step? ev = some (page', calls)) : Reaches product returned page' ((ev, calls) :: log)

/-- The latest quote. -/
def quoteOf : Log → Json
  | [] => .null
  | (.selected res, _) :: _ => res
  | _ :: log => quoteOf log

/-- The transaction of the latest quote, or the one with which the page was opened. -/
def txnOf (returned : Option String) : Log → Option String
  | [] => returned
  | (.selected res, _) :: _ => txnIdOf res
  | _ :: log => txnOf returned log

/-- The vehicle that was sent last. -/
def sentVehicle : Log → Option VehicleForm
  | [] => none
  | (.submitVehicle form, _) :: _ => some form
  | _ :: log => sentVehicle log

/-- The vehicle of the latest quote. -/
def vehicleOf : Log → Option VehicleForm
  | [] => none
  | (.selected _, _) :: log => sentVehicle log
  | _ :: log => vehicleOf log

/-- The latest answer to an init. -/
def initOf : Log → Json
  | [] => .null
  | (.initialised res, _) :: _ => res
  | _ :: log => initOf log

/-- The latest poll since the payment step was reached. -/
def seamOf : Log → Json
  | [] => .null
  | (.polled status, _) :: _ => status
  | (.initialised _, _) :: _ => .null
  | _ :: log => seamOf log

/-- The stage of the settlement since the policy was issued. -/
def stageOf : Log → SeamStage
  | [] => .policyIssued
  | (.statusPolled status, _) :: log => (stageOf log).next status
  | (.confirmed _, _) :: _ => .policyIssued
  | _ :: log => stageOf log

/-- The page keeps what its events have told it. -/
structure Agrees (returned : Option String) (page : PolicyFlow) (log : Log) : Prop where
  quote : page.quoteData = quoteOf log
  txn : page.actualTxnId = txnOf returned log
  vehicle : page.vehicleForm = vehicleOf log
  init : page.initData = initOf log
  sent : ∀ form, page.view = .vehicle (some form) → sentVehicle log = some form
  seam : ∀ submitting seamStatus, page.view = .payment submitting seamStatus → seamStatus = seamOf log
  stage : ∀ rating support seamStage, page.view = .issued rating support seamStage → seamStage = stageOf log

theorem agrees_opened (product : Product) (returned : Option String) :
    Agrees returned (PolicyFlow.opened product returned).1 [] := by
  cases returned with
  | none => exact ⟨rfl, rfl, rfl, rfl, (by rintro form ⟨⟩), (by rintro b status ⟨⟩), by rintro r s stage ⟨⟩⟩
  | some txnId => exact ⟨rfl, rfl, rfl, rfl, (by rintro form ⟨⟩), (by rintro b status ⟨⟩; rfl), by rintro r s stage ⟨⟩⟩

theorem Agrees.step {returned : Option String} {page page' : PolicyFlow} {log : Log} {ev : Event} {calls : List Call}
    (h : Agrees returned page log) (hs : Step page ev page' calls) : Agrees returned page' ((ev, calls) :: log) := by
  cases hs with
  | submitVehicle form hv =>
    refine ⟨h.quote, h.txn, h.vehicle, h.init, ?_, ?_, ?_⟩
    · rintro form' ⟨⟩
      rfl
    · rintro b status ⟨⟩
    · rintro r s stage ⟨⟩
  | selected res hv =>
    exact ⟨rfl, rfl, (h.sent _ hv).symm, h.init, (by rintro form ⟨⟩), (by rintro b status ⟨⟩), by rintro r s stage ⟨⟩⟩
  | initialised res hv =>
    exact ⟨h.quote, h.txn, h.vehicle, rfl, (by rintro form ⟨⟩), (by rintro b status ⟨⟩; rfl), by rintro r s stage ⟨⟩⟩
  | polled status hv ht =>
    exact ⟨h.quote, h.txn, h.vehicle, h.init, (by rintro form ⟨⟩), (by rintro b status' ⟨⟩; rfl), by rintro r s stage ⟨⟩⟩
  | paid hv ht hr =>
    refine ⟨h.quote, h.txn, h.vehicle, h.init, (by rintro form ⟨⟩), ?_, by rintro r s stage ⟨⟩⟩
    rintro b status ⟨⟩
    exact h.seam _ _ hv
  | confirmFailed hv =>
    refine ⟨h.quote, h.txn, h.vehicle, h.init, (by rintro form ⟨⟩), ?_, by rintro r s stage ⟨⟩⟩
    rintro b status ⟨⟩
    exact h.seam _ _ hv
  | confirmed res hv =>
    exact ⟨h.quote, h.txn, h.vehicle, h.init, (by rintro form ⟨⟩), (by rintro b status ⟨⟩), by rintro r s stage ⟨⟩; rfl⟩
  | statusPolled status hv =>
    refine ⟨h.quote, h.txn, h.vehicle, h.init, (by rintro form ⟨⟩), (by rintro b status ⟨⟩), ?_⟩
    rintro r s stage ⟨⟩
    exact congrArg (SeamStage.next · status) (h.stage _ _ _ hv)
  | badNik | tick | statusTick => exact ⟨h.quote, h.txn, h.vehicle, h.init, h.sent, h.seam, h.stage⟩
  | submitRating _ _ hv | rated hv | ratingFailed hv | submitSupport _ hv | supported hv | supportFailed hv =>
    refine ⟨h.quote, h.txn, h.vehicle, h.init, (by rintro form ⟨⟩), (by rintro b status ⟨⟩), ?_⟩
    rintro r s stage ⟨⟩
    exact h.stage _ _ _ hv
  | _ =>
    exact ⟨h.quote, h.txn, h.vehicle, h.init, (by rintro form ⟨⟩), (by rintro b status ⟨⟩), by rintro r s stage ⟨⟩⟩

theorem Reaches.agrees {product : Product} {returned : Option String} {page : PolicyFlow} {log : Log}
    (h : Reaches product returned page log) : Agrees returned page log := by
  induction h with
  | opened => exact agrees_opened product returned
  | step _ hs ih => exact ih.step (step_of_step? hs)

/-- The product does not change. -/
theorem Reaches.product_eq {product : Product} {returned : Option String} {page : PolicyFlow} {log : Log}
    (h : Reaches product returned page log) : page.product = product := by
  induction h with
  | opened => cases returned <;> rfl
  | step _ hs ih => cases step_of_step? hs <;> exact ih

/-- Every event of a run came to a page that the earlier events had led to. -/
theorem Reaches.earlier {product : Product} {returned : Option String} {page : PolicyFlow} {later earlier : Log}
    {ev : Event} {calls : List Call} (h : Reaches product returned page (later ++ (ev, calls) :: earlier)) :
    ∃ page₀ page₁, Reaches product returned page₀ earlier ∧ Step page₀ ev page₁ calls := by
  induction later generalizing page with
  | nil =>
    cases h with
    | step h hs => exact ⟨_, _, h, step_of_step? hs⟩
  | cons e later ih =>
    cases h with
    | step h hs => exact ih h

/-! ### What the page asks for -/

/-- A request is built from the latest answers: an init with the vehicle of the quote, a poll of the payment unless the
latest one has reported it, a confirm if it has, with the premium of the latest init, and a poll of the settlement until
one has reported its end. -/
inductive Grounded (product : Product) (returned : Option String) (log : Log) : Call → Prop where
  | select (form : VehicleForm) : Grounded product returned log (.select (selectForm product form))
  | init (form : KycForm) (hnik : length form.nik = 16) :
      Grounded product returned log (.init (initForm form (txnOf returned log) (vehicleOf log)))
  | paymentStatus {txnId : String} (ht : txnOf returned log = some txnId) (hr : paymentReceived (seamOf log) = false) :
      Grounded product returned log (.paymentStatus txnId)
  | confirm {txnId : String} (ht : txnOf returned log = some txnId) (hr : paymentReceived (seamOf log) = true) :
      Grounded product returned log
        (.confirm (confirmForm txnId (totalPremium (initOf log) (annualPremium (quoteOf log)))))
  | status {txnId : String} (ht : txnOf returned log = some txnId) (hs : stageOf log ≠ .settled) :
      Grounded product returned log (.status txnId)
  | rate (score : Nat) (feedback : String) (hscore : 1 ≤ score ∧ score ≤ 5) :
      Grounded product returned log (.rate (ratingForm (txnOf returned log) score feedback))
  | support (description : String) : Grounded product returned log (.support (supportForm (txnOf returned log) description))

theorem Step.grounded {product : Product} {returned : Option String} {page page' : PolicyFlow} {log : Log} {ev : Event}
    {calls : List Call} (hs : Step page ev page' calls) (h : Agrees returned page log) (hp : page.product = product)
    {c : Call} (hc : c ∈ calls) : Grounded product returned log c := by
  cases hs with
  | submitVehicle form =>
    rw [List.mem_singleton.1 hc, hp]
    exact .select form
  | submitKyc form _ hnik =>
    rw [List.mem_singleton.1 hc, h.txn, h.vehicle]
    exact .init form hnik
  | tick hv ht hr =>
    rw [List.mem_singleton.1 hc]
    exact .paymentStatus (h.txn ▸ ht) (h.seam _ _ hv ▸ hr)
  | paid hv ht hr =>
    rw [List.mem_singleton.1 hc, h.init, h.quote]
    exact .confirm (h.txn ▸ ht) (h.seam _ _ hv ▸ hr)
  | statusTick hv ht hstage =>
    rw [List.mem_singleton.1 hc]
    exact .status (h.txn ▸ ht) (h.stage _ _ _ hv ▸ hstage)
  | submitRating score feedback _ hscore =>
    rw [List.mem_singleton.1 hc, h.txn]
    exact .rate score feedback hscore
  | submitSupport description =>
    rw [List.mem_singleton.1 hc, h.txn]
    exact .support description
  | _ => cases hc

/-! ### What the page asks for once -/

/-- The requests so far with `P`. -/
def asked (P : Call → Bool) (log : Log) : Nat := (log.flatMap Prod.snd).countP P

/-- The events so far with `P`. -/
def happened (P : Event → Bool) (log : Log) : Nat := (log.map Prod.fst).countP P

/-- A form of the page: how it is sent, how it is answered, and how it fails. -/
structure Form where
  sent : Call → Bool
  answered : Event → Bool
  failed : Event → Bool

def confirmForms : Form where
  sent := fun | .confirm _ => true | _ => false
  answered := fun | .confirmed _ => true | _ => false
  failed := fun | .confirmFailed => true | _ => false

def ratings : Form where
  sent := fun | .rate _ => true | _ => false
  answered := fun | .rated => true | _ => false
  failed := fun | .ratingFailed => true | _ => false

def supportRequests : Form where
  sent := fun | .support _ => true | _ => false
  answered := fun | .supported => true | _ => false
  failed := fun | .supportFailed => true | _ => false

/-- Where a form stands in a step of the page. -/
def View.confirmState : View → Submission
  | .payment true _ => .sending
  | .issued .. => .done
  | _ => .idle

def View.ratingState : View → Submission
  | .issued rating _ _ => rating
  | _ => .idle

def View.supportState : View → Submission
  | .issued _ support _ => support
  | _ => .idle

/-- Every form that was sent was answered, has failed or is on its way, and it is sent until it is answered once. -/
structure SentOnce (form : Form) (state : Submission) (log : Log) : Prop where
  sent : asked form.sent log = happened form.failed log + happened form.answered log + if state = .sending then 1 else 0
  answered : happened form.answered log = if state = .done then 1 else 0

/-- What an event means to a form. -/
inductive FormStep (form : Form) : Submission → Event → List Call → Submission → Prop where
  | other {ev : Event} {calls : List Call} (ha : form.answered ev = false) (hf : form.failed ev = false)
      (hc : calls.countP form.sent = 0) (state : Submission) : FormStep form state ev calls state
  | send {ev : Event} {calls : List Call} (ha : form.answered ev = false) (hf : form.failed ev = false)
      (hc : calls.countP form.sent = 1) : FormStep form .idle ev calls .sending
  | answer {ev : Event} (ha : form.answered ev = true) (hf : form.failed ev = false) :
      FormStep form .sending ev [] .done
  | fail {ev : Event} (ha : form.answered ev = false) (hf : form.failed ev = true) : FormStep form .sending ev [] .idle

theorem asked_cons (P : Call → Bool) (ev : Event) (calls : List Call) (log : Log) :
    asked P ((ev, calls) :: log) = calls.countP P + asked P log := by
  unfold asked
  rw [List.flatMap_cons, List.countP_append]

theorem happened_cons (P : Event → Bool) (ev : Event) (calls : List Call) (log : Log) :
    happened P ((ev, calls) :: log) = happened P log + if P ev then 1 else 0 := by
  unfold happened
  rw [List.map_cons, List.countP_cons]

theorem SentOnce.step {form : Form} {state state' : Submission} {log : Log} {ev : Event} {calls : List Call}
    (h : SentOnce form state log) (hs : FormStep form state ev calls state') :
    SentOnce form state' ((ev, calls) :: log) := by
  obtain ⟨hsent, hanswered⟩ := h
  cases hs with
  | other ha hf hc => constructor <;> simp [asked_cons, happened_cons, ha, hf, hc, hsent, hanswered]
  | send ha hf hc =>
    constructor <;> simp [asked_cons, happened_cons, ha, hf, hc, hsent, hanswered]
    omega
  | answer ha hf => constructor <;> simp [asked_cons, happened_cons, ha, hf, hsent, hanswered]
  | fail ha hf => constructor <;> simp [asked_cons, happened_cons, ha, hf, hsent, hanswered]

section

variable {page page' : PolicyFlow} {ev : Event} {calls : List Call}

theorem Step.confirmState (hs : Step page ev page' calls) :
    FormStep confirmForms page.view.confirmState ev calls page'.view.confirmState := by
  cases hs with
  | paid hv =>
    rw [hv]
    exact .send rfl rfl rfl
  | confirmed res hv =>
    rw [hv]
    exact .answer rfl rfl
  | confirmFailed hv =>
    rw [hv]
    exact .fail rfl rfl
  | @polled _ submitting _ _ hv =>
    rw [hv]
    cases submitting <;> exact .other rfl rfl rfl _
  | badNik | tick | statusTick => exact .other rfl rfl rfl _
  | submitVehicle _ hv | selected _ hv | selectFailed hv | apply hv | backToVehicle hv | backToQuote hv | backToKyc hv
  | submitKyc _ hv | initialised _ hv | initFailed hv | statusPolled _ hv | submitRating _ _ hv | rated hv
  | ratingFailed hv | submitSupport _ hv | supported hv | supportFailed hv =>
    rw [hv]
    exact .other rfl rfl rfl _

theorem Step.ratingState (hs : Step page ev page' calls) :
    FormStep ratings page.view.ratingState ev calls page'.view.ratingState := by
  cases hs with
  | submitRating score feedback hv =>
    rw [hv]
    exact .send rfl rfl rfl
  | rated hv =>
    rw [hv]
    exact .answer rfl rfl
  | ratingFailed hv =>
    rw [hv]
    exact .fail rfl rfl
  | badNik | tick | statusTick => exact .other rfl rfl rfl _
  | submitVehicle _ hv | selected _ hv | selectFailed hv | apply hv | backToVehicle hv | backToQuote hv | backToKyc hv
  | submitKyc _ hv | initialised _ hv | initFailed hv | polled _ hv | paid hv | confirmed _ hv | confirmFailed hv
  | statusPolled _ hv | submitSupport _ hv | supported hv | supportFailed hv =>
    rw [hv]
    exact .other rfl rfl rfl _

theorem Step.supportState (hs : Step page ev page' calls) :
    FormStep supportRequests page.view.supportState ev calls page'.view.supportState := by
  cases hs with
  | submitSupport description hv =>
    rw [hv]
    exact .send rfl rfl rfl
  | supported hv =>
    rw [hv]
    exact .answer rfl rfl
  | supportFailed hv =>
    rw [hv]
    exact .fail rfl rfl
  | badNik | tick | statusTick => exact .other rfl rfl rfl _
  | submitVehicle _ hv | selected _ hv | selectFailed hv | apply hv | backToVehicle hv | backToQuote hv | backToKyc hv
  | submitKyc _ hv | initialised _ hv | initFailed hv | polled _ hv | paid hv | confirmed _ hv | confirmFailed hv
  | statusPolled _ hv | submitRating _ _ hv | rated hv | ratingFailed hv =>
    rw [hv]
    exact .other rfl rfl rfl _

end

/-- Each of the three forms is sent once. -/
structure Forms (page : PolicyFlow) (log : Log) : Prop where
  confirm : SentOnce confirmForms page.view.confirmState log
  rating : SentOnce ratings page.view.ratingState log
  support : SentOnce supportRequests page.view.supportState log

theorem Reaches.forms {product : Product} {returned : Option String} {page : PolicyFlow} {log : Log}
    (h : Reaches product returned page log) : Forms page log := by
  induction h with
  | opened => cases returned <;> exact ⟨⟨rfl, rfl⟩, ⟨rfl, rfl⟩, ⟨rfl, rfl⟩⟩
  | step _ hs ih =>
    have hstep := step_of_step? hs
    exact ⟨ih.confirm.step hstep.confirmState, ih.rating.step hstep.ratingState, ih.support.step hstep.supportState⟩

/-- In every run of the page, whatever it is answered, each request is built from the latest answers, and the page
confirms, rates and asks for support until it is answered once. -/
theorem flow_orderly (product : Product) (returned : Option String) (page : PolicyFlow) (log : Log)
    (h : Reaches product returned page log) :
    (∀ later ev calls earlier c, log = later ++ (ev, calls) :: earlier → c ∈ calls →
      Grounded product returned earlier c) ∧ Forms page log := by
  refine ⟨?_, h.forms⟩
  rintro later ev calls earlier c rfl hc
  obtain ⟨page₀, page₁, h₀, hs⟩ := h.earlier
  exact hs.grounded h₀.agrees h₀.product_eq hc

/-- The events of a purchase. -/
def purchase : List Event :=
  [.submitVehicle ⟨"Toyota", "Avanza", "2022", "210000000", "B 1234 ABC", "K-3456789-2022"⟩,
   .selected (.obj [("context", .obj [("transaction_id", .str "txn-0001")])]),
   .apply,
   .submitKyc ⟨"Budi Santoso", "3171012345678901", "1990-01-15", "", "", "SIM_A", "", "SELF_INSPECTION"⟩,
   .initialised .null, .tick, .polled (.obj [("payment_received", .bool true)]), .paid, .confirmFailed]

/-- The page after these events, with its log. -/
def PolicyFlow.run? (page : PolicyFlow) (evs : List Event) : Option (PolicyFlow × Log) :=
  evs.foldlM (fun x ev => (x.1.step? ev).map fun y => (y.1, (ev, y.2) :: x.2)) (page, [])

theorem reaches_of_run? {product : Product} {returned : Option String} {evs : List Event} {x : PolicyFlow × Log}
    (h : (PolicyFlow.opened product returned).1.run? evs = some x) : Reaches product returned x.1 x.2 := by
  have hfold : ∀ (evs : List Event) (x y : PolicyFlow × Log), Reaches product returned x.1 x.2 →
      evs.foldlM (fun x ev => (x.1.step? ev).map fun y => (y.1, (ev, y.2) :: x.2)) x = some y →
      Reaches product returned y.1 y.2 := by
    intro evs
    induction evs with
    | nil =>
      rintro x y hx ⟨⟩
      exact hx
    | cons ev evs ih =>
      intro x y hx hy
      obtain ⟨z, hz, hrest⟩ := Option.bind_eq_some_iff.1 hy
      obtain ⟨⟨page', calls⟩, hs, rfl⟩ := Option.map_eq_some_iff.1 hz
      exact ih _ y (.step hx hs) hrest
  exact hfold evs _ x .opened h

/-- The confirm of a purchase fails, and the buyer may send it again. -/
theorem flow_orderly_failed : ∃ page log, Reaches {} none page log ∧ asked confirmForms.sent log = 1 ∧
    page.view.confirmState = .idle ∧ Forms page log := by
  have hrun : (((PolicyFlow.opened {} none).1.run? purchase).any fun x =>
      asked confirmForms.sent x.2 == 1 && decide (x.1.view.confirmState = .idle)) = true := by
    decide +kernel
  obtain ⟨x, hx, hend⟩ := (Option.any_eq_true _ _).1 hrun
  obtain ⟨hone, hidle⟩ := Bool.and_eq_true_iff.1 hend
  have hreach := reaches_of_run? hx
  exact ⟨x.1, x.2, hreach, eq_of_beq hone, of_decide_eq_true hidle, (flow_orderly {} none x.1 x.2 hreach).2⟩

end IonInsurance.Pages
