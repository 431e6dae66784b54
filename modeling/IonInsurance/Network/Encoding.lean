import IonInsurance.Bap.Protocol
import IonInsurance.Bpp.Messages

/-!
# Forms across the network

The BAP turns a form of the frontend into a Beckn message, and the BPP takes it apart through nested maps with a
fall-back at each level.  For each of the five forms, what the BPP reads is what the form says, after the defaults of
the BAP.
-/

namespace IonInsurance.Network

open Interleave

/-! ### The forms, after the defaults of the BAP -/

def selectForm (req : Fields) : Bpp.SelectInput where
  productType := Bap.stringOrDefault (req.get "productType") "MOTOR_COMPREHENSIVE"
  zone := Bap.stringOrDefault (req.get "tariffZone") "ZONE_3"
  idvIDR := int64 (req.get "idv").float

def initForm (req : Fields) : Bpp.InitInput where
  nik := (req.get "nik").text
  vin := Bap.stringOrDefault (req.get "plate") (Bap.stringOrDefault (req.get "vin") "VIN-UNKNOWN")
  idvIDR := int64 (req.get "idv").float

/-- The reference falls back to the first eight bytes of the transaction id. -/
def confirmForm (txnID : String) (req : Fields) : Bpp.PaymentProof where
  method := Bap.stringOrDefault (req.get "paymentMethod") "VIRTUAL_ACCOUNT"
  ref := Bap.stringOrDefault (req.get "paymentRef") ("VA-PAY-" ++ String.ofList (Bap.firstBytes txnID.toList 8))
  amount := int64 (req.get "amount").float

/-- A score that is missing or not positive is zero. -/
def rateForm (req : Fields) : Bpp.RateInput where
  score := if 0 < (req.get "score").float then int64 (req.get "score").float else 0
  feedback := (req.get "feedback").text

def supportForm (req : Fields) : String := Bap.stringOrDefault (req.get "description") "Support request"

/-! ### Decoding -/

/-- A default that is not empty leaves no empty text. -/
theorem stringOrDefault_ne {default : String} (h : default ≠ "") (v : Json) : Bap.stringOrDefault v default ≠ "" := by
  unfold Bap.stringOrDefault
  split
  · assumption
  · exact h

theorem stringOrDefault_empty (v : Json) : Bap.stringOrDefault v "" = v.text := by
  unfold Bap.stringOrDefault
  by_cases h : v.text = "" <;> simp [h]

theorem commitmentAttributes_contractRequest (context : Json) (contract : Fields) (code productID : String)
    (rest : Fields) (h : contract.get "commitments" = .arr [Bap.commitment code productID (Bap.insurancePolicy rest)]) :
    Bpp.commitmentAttributes (Bap.contractRequest context contract) =
      ("@context", .str (Bap.ionSchemaBaseBAP ++ "insurance-contract/v1/context.jsonld")) ::
        ("@type", .str "InsurancePolicy") :: rest := by
  have hcontract : Bpp.contractOf (Bap.contractRequest context contract) = contract := by
    simp [Bpp.contractOf, Bap.contractRequest]
  unfold Bpp.commitmentAttributes
  rw [hcontract, h]
  simp [Bap.commitment, Bap.insurancePolicy]

theorem selectInput_selectPayload (context : Json) (req : Fields) :
    Bpp.selectInput (Bap.selectPayload context req) = selectForm req := by
  have hproduct : Bap.stringOrDefault (req.get "productType") "MOTOR_COMPREHENSIVE" ≠ "" :=
    stringOrDefault_ne (by decide) _
  have hzone : Bap.stringOrDefault (req.get "tariffZone") "ZONE_3" ≠ "" := stringOrDefault_ne (by decide) _
  unfold Bpp.selectInput
  rw [Bap.selectPayload, commitmentAttributes_contractRequest _ _ _ _ _ rfl]
  simp [selectForm, hproduct, hzone]

theorem initInput_initPayload (context : Json) (txnID : String) (req : Fields) :
    Bpp.initInput (Bap.initPayload context txnID req) = initForm req := by
  unfold Bpp.initInput
  rw [Bap.initPayload, commitmentAttributes_contractRequest _ _ _ _ _ rfl]
  simp [initForm, Bpp.contractOf, Bap.contractRequest, stringOrDefault_empty]

theorem confirmInput_confirmPayload (context : Json) (txnID : String) (req : Fields) :
    Bpp.confirmInput (Bap.confirmPayload context txnID req) = confirmForm txnID req := by
  unfold Bpp.confirmInput
  rw [Bap.confirmPayload, commitmentAttributes_contractRequest _ _ _ _ _ rfl]
  simp [confirmForm]

theorem rateInput_ratePayload (context : Json) (txnID : String) (req : Fields) :
    Bpp.rateInput (Bap.ratePayload context txnID req) = rateForm req := by
  by_cases hscore : 0 < (req.get "score").float <;> by_cases hfeedback : (req.get "feedback").text = "" <;>
    simp [Bpp.rateInput, Bap.ratePayload, rateForm, hscore, hfeedback]

theorem supportInput_supportPayload (context : Json) (txnID : String) (req : Fields) :
    Bpp.supportInput (Bap.supportPayload context txnID req) = supportForm req := by
  have hdesc : Bap.stringOrDefault (req.get "description") "Support request" ≠ "" := stringOrDefault_ne (by decide) _
  simp [Bpp.supportInput, Bap.supportPayload, supportForm, hdesc]

/-! ### The messages that the BAP sends -/

/-- Whatever the answers, every message that the program hands to the network has `P`. -/
def Sends {α : Type} (p : Bap.Task α) (P : Fields → Prop) : Prop :=
  p.Asks fun o => ∀ path m, o = .post .onixBAPCaller path m → P m

theorem sends_local {P : Fields → Prop} (o : Bap.Op) (ho : o.isLocal = true) :
    ∀ path m, o = .post .onixBAPCaller path m → P m := by
  rintro path m rfl
  cases ho

private theorem transactionID_request (action txnID msgID : String) (now : Time) (rest : Fields) :
    Bpp.transactionID (("context", Bap.requestContext action txnID msgID now) :: rest) = txnID := by
  simp [Bpp.transactionID, Bpp.contextOf, Bap.requestContext]

theorem select_decodes (s : Bap.ClientService) (req : Fields) :
    Sends (Bap.handler s (.select req)) fun m => Bpp.selectInput m = selectForm req := by
  refine Bap.form_asks sends_local (fun context _ => Bap.selectPayload context req) ?_ ?_ s req
  · rintro _ _ _ ⟨⟩
  · rintro txnID msgID now _ _ ⟨⟩
    exact selectInput_selectPayload ..

theorem init_decodes (s : Bap.ClientService) (req : Fields) :
    Sends (Bap.handler s (.init req)) fun m => Bpp.initInput m = initForm req := by
  refine Bap.form_asks sends_local (fun context txnID => Bap.initPayload context txnID req) ?_ ?_ s req
  · rintro _ _ _ ⟨⟩
  · rintro txnID msgID now _ _ ⟨⟩
    exact initInput_initPayload ..

theorem confirm_decodes (s : Bap.ClientService) (req : Fields) :
    Sends (Bap.handler s (.confirm req)) fun m => Bpp.confirmInput m = confirmForm (Bpp.transactionID m) req := by
  refine Bap.confirm_asks sends_local ?_ ?_ s
  · rintro _ _ _ ⟨⟩
  · rintro txnID msgID now _ _ ⟨⟩
    have htxn : Bpp.transactionID (Bap.confirmPayload (Bap.requestContext "confirm" txnID msgID now) txnID req) =
        txnID := transactionID_request ..
    rw [htxn]
    exact confirmInput_confirmPayload ..

theorem rate_decodes (s : Bap.ClientService) (req : Fields) :
    Sends (Bap.handler s (.rate req)) fun m => Bpp.rateInput m = rateForm req := by
  refine Bap.unrecorded_asks sends_local (fun context txnID => Bap.ratePayload context txnID req) ?_ s req
  rintro txnID msgID now _ _ ⟨⟩
  exact rateInput_ratePayload ..

theorem support_decodes (s : Bap.ClientService) (req : Fields) :
    Sends (Bap.handler s (.support req)) fun m => Bpp.supportInput m = supportForm req := by
  refine Bap.unrecorded_asks sends_local (fun context txnID => Bap.supportPayload context txnID req) ?_ s req
  rintro txnID msgID now _ _ ⟨⟩
  exact supportInput_supportPayload ..

/-- For every form, what the BPP reads of the message that the BAP sends is what the form says, after the defaults of
the BAP. -/
theorem requests_decode (s : Bap.ClientService) (req : Fields) :
    Sends (Bap.handler s (.select req)) (fun m => Bpp.selectInput m = selectForm req) ∧
      Sends (Bap.handler s (.init req)) (fun m => Bpp.initInput m = initForm req) ∧
      Sends (Bap.handler s (.confirm req)) (fun m => Bpp.confirmInput m = confirmForm (Bpp.transactionID m) req) ∧
      Sends (Bap.handler s (.rate req)) (fun m => Bpp.rateInput m = rateForm req) ∧
      Sends (Bap.handler s (.support req)) (fun m => Bpp.supportInput m = supportForm req) :=
  ⟨select_decodes s req, init_decodes s req, confirm_decodes s req, rate_decodes s req, support_decodes s req⟩

end IonInsurance.Network
