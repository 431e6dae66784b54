import IonInsurance.Marshal
import IonInsurance.Panics
import IonInsurance.Bap.Client

/-!
# Panics while a request is built

`Select`, `Init`, `Confirm`, `Rate` and `Support` build their message from an untyped form.  Here each of them is the
computation up to the payload, with every operation that Go can stop at.
-/

namespace IonInsurance.Bap.Building

open Panics

/-- A `uuid.NewString()`, which has 36 characters, all of them ASCII. -/
structure UUID where
  text : String
  size : text.utf8ByteSize = 36

/-- What a method draws from its environment. -/
structure Draw where
  txnID : UUID
  msgID : UUID
  now : Time

/-- The methods that take a form. -/
inductive Method : Type where
  | select
  | init
  | confirm
  | rate
  | support
  deriving DecidableEq

/-! ### The source, operation by operation -/

def stringOrDefault (v : Json) (default : String) : Run String := do
  let (s, ok) ← asString .commaOk v
  if ok ∧ s ≠ "" then return s else return default

/-- `req["transaction_id"]`, or else `req["context"]["transaction_id"]`. -/
def namedTransaction (req : GoMap) : Run String := do
  let (v, ok) ← asString .commaOk (req.index "transaction_id")
  if ok ∧ v ≠ "" then return v
  else
    let (ctxMap, ok) ← asMap .commaOk (req.index "context")
    if ok then
      let (txnID, _) ← asString .commaOk (ctxMap.index "transaction_id")
      return txnID
    else return ""

def extractOrNew (draw : Draw) (req : GoMap) : Run (String × String) := do
  let txnID ← namedTransaction req
  return (if txnID = "" then draw.txnID.text else txnID, draw.msgID.text)

/-- `f, ok := req[k].(float64)`, which is zero where `ok` is false. -/
def floatOrZero (v : Json) : Run ℚ := do
  let (q, ok) ← asFloat .commaOk v
  if ok then return q else return 0

def select (draw : Draw) (req : GoMap) : Run Fields := do
  let (txnID, msgID) ← extractOrNew draw req
  let productID ← stringOrDefault (req.index "productId") "1"
  let productType ← stringOrDefault (req.index "productType") "MOTOR_COMPREHENSIVE"
  let tariffZone ← stringOrDefault (req.index "tariffZone") "ZONE_3"
  let idv ← floatOrZero (req.index "idv")
  return contractRequest (requestContext "select" txnID msgID draw.now)
    [("commitments", .arr [commitment "DRAFT" productID (insurancePolicy
      [("productType", .str productType), ("tariffZone", .str tariffZone), ("idv", .num idv)])])]

def init (draw : Draw) (req : GoMap) : Run Fields := do
  let (txnID, msgID) ← extractOrNew draw req
  let nik ← stringOrDefault (req.index "nik") ""
  let idv ← floatOrZero (req.index "idv")
  let vin ← stringOrDefault (req.index "vin") "VIN-UNKNOWN"
  let vin ← stringOrDefault (req.index "plate") vin
  return contractRequest (requestContext "init" txnID msgID draw.now)
    [("id", .str txnID),
     ("participants", .arr [.obj
       [("id", .str nik),
        ("participantAttributes", .obj
          [("@context", .str (ionSchemaBaseBAP ++ "insurance-participant/v1/context.jsonld")),
           ("@type", .str "Policyholder"),
           ("nik", .str nik)])]]),
     ("commitments", .arr [commitment "DRAFT" "1" (insurancePolicy [("vin", .str vin), ("idv", .num idv)])])]

/-- The default of `paymentRef` is evaluated whether it is used or not. -/
def confirm (draw : Draw) (req : GoMap) : Run Fields := do
  let (txnID, msgID) ← extractOrNew draw req
  let paymentMethod ← stringOrDefault (req.index "paymentMethod") "VIRTUAL_ACCOUNT"
  -- txnId[:8]
  checkSlice 8 txnID.utf8ByteSize
  let paymentRef ← stringOrDefault (req.index "paymentRef")
    ("VA-PAY-" ++ String.ofList (firstBytes txnID.toList 8))
  let amount ← floatOrZero (req.index "amount")
  return contractRequest (requestContext "confirm" txnID msgID draw.now)
    [("id", .str txnID),
     ("commitments", .arr [commitment "ACTIVE" "1" (insurancePolicy
       [("payment", .obj [("method", .str paymentMethod), ("ref", .str paymentRef), ("amount", .num amount)])])])]

/-- A positive score replaces the empty range. -/
def withScore (ratingInput req : GoMap) : Run GoMap := do
  let (score, ok) ← asFloat .commaOk (req.index "score")
  if ok ∧ score > 0 then
    ratingInput.assign "range" (.obj [("value", .num score), ("min", .num 1), ("max", .num 5)])
  else return ratingInput

def withFeedback (ratingInput req : GoMap) : Run GoMap := do
  let (feedback, ok) ← asString .commaOk (req.index "feedback")
  if ok ∧ feedback ≠ "" then
    ratingInput.assign "feedbackFormSubmission" (.obj [("data", .obj [("feedback", .str feedback)])])
  else return ratingInput

def rate (draw : Draw) (req : GoMap) : Run Fields := do
  let (txnID, msgID) ← extractOrNew draw req
  let ratingInput : GoMap := some [("target", .obj [("id", .str txnID)]), ("range", .obj [])]
  let ratingInput ← withScore ratingInput req
  let ratingInput ← withFeedback ratingInput req
  return [("context", requestContext "rate" txnID msgID draw.now),
    ("message", .obj [("ratingInputs", .arr [.obj (ratingInput.getD [])])])]

def support (draw : Draw) (req : GoMap) : Run Fields := do
  let (txnID, msgID) ← extractOrNew draw req
  let (description, _) ← asString .commaOk (req.index "description")
  let description := if description = "" then "Support request" else description
  return [("context", requestContext "support" txnID msgID draw.now),
    ("message", .obj [("support", .obj
      [("orderId", .str txnID),
       ("descriptor", .obj [("name", .str description)]),
       ("channels", .arr [.obj [("type", .str "EMAIL")]])])])]

/-- The message that a method builds. -/
def build : Method → Draw → GoMap → Run Fields
  | .select => select
  | .init => init
  | .confirm => confirm
  | .rate => rate
  | .support => support

/-! ### What the operations give -/

theorem stringOrDefault_eq (v : Json) (default : String) :
    stringOrDefault v default = .ok (Bap.stringOrDefault v default) := by
  obtain ⟨ok, hv, hok⟩ := asString_commaOk v
  unfold stringOrDefault Bap.stringOrDefault
  rw [hv]
  show (if ok = true ∧ v.text ≠ "" then pure v.text else pure default) = _
  by_cases hne : v.text ≠ ""
  · rw [if_pos ⟨hok hne, hne⟩, if_pos hne]
    rfl
  · rw [if_neg fun h => hne h.2, if_neg hne]
    rfl

theorem floatOrZero_eq (v : Json) : floatOrZero v = .ok v.float := by
  obtain ⟨ok, hv, hok⟩ := asFloat_commaOk v
  unfold floatOrZero
  rw [hv]
  show (if ok = true then pure v.float else pure 0) = _
  by_cases hq : v.float ≠ 0
  · rw [if_pos (hok hq)]
    rfl
  · rw [not_not.1 hq, ite_self]
    rfl

theorem namedTransaction_eq (req : Fields) : namedTransaction (some req) = .ok (formTransactionID req) := by
  obtain ⟨ok, hv, hok⟩ := asString_commaOk (req.get "transaction_id")
  obtain ⟨_, ht, -⟩ := asString_commaOk ((req.get "context").fields.get "transaction_id")
  unfold namedTransaction formTransactionID Bap.stringOrDefault
  rw [GoMap.index_some, hv]
  show (if ok = true ∧ (req.get "transaction_id").text ≠ "" then _ else _) = _
  by_cases hne : (req.get "transaction_id").text ≠ ""
  · rw [if_pos hne, if_pos ⟨hok hne, hne⟩]
    rfl
  · rw [if_neg hne, if_neg fun h => hne h.2, GoMap.index_some, asMap_commaOk]
    cases hc : req.get "context" with
    | obj m =>
      rw [hc, Json.fields_obj] at ht
      show (do let x ← asString .commaOk (Fields.get m "transaction_id"); return x.1) = _
      rw [ht]
      rfl
    | _ => rfl

/-- The transaction id of a request. -/
def requestTransaction (draw : Draw) (req : Fields) : String :=
  if formTransactionID req = "" then draw.txnID.text else formTransactionID req

theorem extractOrNew_eq (draw : Draw) (req : Fields) :
    extractOrNew draw (some req) = .ok (requestTransaction draw req, draw.msgID.text) := by
  unfold extractOrNew
  rw [namedTransaction_eq]
  rfl

/-! ### What the methods build -/

/-- The context of a request. -/
def contextFor (action : String) (draw : Draw) (req : Fields) : Json :=
  requestContext action (requestTransaction draw req) draw.msgID.text draw.now

theorem select_eq (draw : Draw) (req : Fields) :
    select draw (some req) = .ok (selectPayload (contextFor "select" draw req) req) := by
  unfold select
  simp only [extractOrNew_eq, GoMap.index_some, stringOrDefault_eq, floatOrZero_eq]
  rfl

theorem init_eq (draw : Draw) (req : Fields) :
    init draw (some req) = .ok (initPayload (contextFor "init" draw req) (requestTransaction draw req) req) := by
  unfold init
  simp only [extractOrNew_eq, GoMap.index_some, stringOrDefault_eq, floatOrZero_eq]
  rfl

theorem confirm_eq (draw : Draw) (req : Fields) :
    confirm draw (some req) =
      if 8 ≤ (requestTransaction draw req).utf8ByteSize then
        .ok (confirmPayload (contextFor "confirm" draw req) (requestTransaction draw req) req)
      else .error (.sliceBounds 8 (requestTransaction draw req).utf8ByteSize) := by
  unfold confirm
  simp only [extractOrNew_eq, GoMap.index_some, stringOrDefault_eq, floatOrZero_eq]
  show (do checkSlice 8 (requestTransaction draw req).utf8ByteSize; _) = _
  by_cases h : 8 ≤ (requestTransaction draw req).utf8ByteSize
  · rw [checkSlice_of_le h, if_pos h]
    rfl
  · rw [checkSlice_of_lt (Nat.lt_of_not_le h), if_neg h]
    rfl

theorem support_eq (draw : Draw) (req : Fields) :
    support draw (some req) =
      .ok (supportPayload (contextFor "support" draw req) (requestTransaction draw req) req) := by
  obtain ⟨ok, hv, -⟩ := asString_commaOk (req.get "description")
  have hdescription : (if (req.get "description").text = "" then "Support request" else (req.get "description").text) =
      Bap.stringOrDefault (req.get "description") "Support request" := by
    unfold Bap.stringOrDefault
    rw [ite_not]
  unfold support supportPayload
  rw [extractOrNew_eq, GoMap.index_some, ← hdescription]
  show (do let x ← asString .commaOk (req.get "description"); _) = _
  rw [hv]
  rfl

theorem withScore_some (m req : Fields) : withScore (some m) (some req) = .ok (some
    (if (req.get "score").float > 0 then
      m.set "range" (.obj [("value", .num (req.get "score").float), ("min", .num 1), ("max", .num 5)])
    else m)) := by
  obtain ⟨ok, hv, hok⟩ := asFloat_commaOk (req.get "score")
  unfold withScore
  rw [GoMap.index_some, hv]
  show (if ok = true ∧ (req.get "score").float > 0 then _ else _) = _
  by_cases hs : (req.get "score").float > 0
  · have hne : (req.get "score").float ≠ 0 := fun h => Rat.lt_irrefl (h ▸ hs)
    rw [if_pos hs, if_pos ⟨hok hne, hs⟩]
    rfl
  · rw [if_neg hs, if_neg fun h => hs h.2]
    rfl

theorem withFeedback_some (m req : Fields) : withFeedback (some m) (some req) = .ok (some
    (if (req.get "feedback").text ≠ "" then
      m.set "feedbackFormSubmission" (.obj [("data", .obj [("feedback", .str (req.get "feedback").text)])])
    else m)) := by
  obtain ⟨ok, hv, hok⟩ := asString_commaOk (req.get "feedback")
  unfold withFeedback
  rw [GoMap.index_some, hv]
  show (if ok = true ∧ (req.get "feedback").text ≠ "" then _ else _) = _
  by_cases hne : (req.get "feedback").text ≠ ""
  · rw [if_pos hne, if_pos ⟨hok hne, hne⟩]
    rfl
  · rw [if_neg hne, if_neg fun h => hne h.2]
    rfl

/-- The rating after both assignments. -/
def ratingInput (txnID : String) (req : Fields) : Fields :=
  let m : Fields := [("target", .obj [("id", .str txnID)]), ("range", .obj [])]
  let m :=
    if (req.get "score").float > 0 then
      m.set "range" (.obj [("value", .num (req.get "score").float), ("min", .num 1), ("max", .num 5)])
    else m
  if (req.get "feedback").text ≠ "" then
    m.set "feedbackFormSubmission" (.obj [("data", .obj [("feedback", .str (req.get "feedback").text)])])
  else m

theorem rate_eq (draw : Draw) (req : Fields) : rate draw (some req) =
    .ok [("context", contextFor "rate" draw req),
      ("message", .obj [("ratingInputs", .arr [.obj (ratingInput (requestTransaction draw req) req)])])] := by
  unfold rate
  rw [extractOrNew_eq]
  show (do let r ← withScore _ _; _) = _
  rw [withScore_some]
  show (do let r ← withFeedback _ _; _) = _
  rw [withFeedback_some]
  rfl

/-- The payload of a rating up to the order of its keys. -/
theorem canonical_rate (context : Json) (txnID : String) (req : Fields) :
    canonical (.obj [("context", context), ("message", .obj [("ratingInputs", .arr [.obj (ratingInput txnID req)])])]) =
      canonical (.obj (ratePayload context txnID req)) := by
  have hform : canonicalItems [.obj (ratingInput txnID req)] = canonicalItems [.obj
      ([("target", .obj [("id", .str txnID)]), ("range", .obj (if (req.get "score").float > 0 then
        [("value", .num (req.get "score").float), ("min", .num 1), ("max", .num 5)] else []))] ++
      if (req.get "feedback").text ≠ "" then
        [("feedbackFormSubmission", .obj [("data", .obj [("feedback", .str (req.get "feedback").text)])])] else [])] := by
    unfold ratingInput
    by_cases hs : (req.get "score").float > 0 <;> by_cases hne : (req.get "feedback").text ≠ ""
    all_goals simp [hs, hne, canonicalItems, canonicalFields, Fields.set, byKey]
  unfold ratePayload
  simp only [canonical, canonicalFields, canonicalItems] at hform ⊢
  rw [hform]

/-! ### When a message is built -/

/-- The form names a transaction, at its top or else in its context, by an id of less than eight bytes. -/
inductive NamesShort (req : Fields) : Prop where
  | top {id : String} (h : req.get "transaction_id" = .str id) (hne : id ≠ "") (hid : id.utf8ByteSize < 8)
  | context {m : Fields} {id : String} (h : (req.get "transaction_id").text = "") (hc : req.get "context" = .obj m)
      (hid : m.get "transaction_id" = .str id) (hne : id ≠ "") (hsize : id.utf8ByteSize < 8)

private theorem eq_str_of_text_ne {v : Json} (h : v.text ≠ "") : v = .str v.text := by
  cases v with
  | str s => rfl
  | _ => exact absurd rfl h

theorem namesShort_iff (req : Fields) :
    NamesShort req ↔ formTransactionID req ≠ "" ∧ (formTransactionID req).utf8ByteSize < 8 := by
  unfold formTransactionID Bap.stringOrDefault
  constructor
  · intro h
    cases h with
    | top h hne hid =>
      rw [h, Json.text_str, if_pos hne]
      exact ⟨hne, hid⟩
    | context h hc hid hne hsize =>
      rw [if_neg fun hn => hn h, hc, Json.fields_obj, hid]
      exact ⟨hne, hsize⟩
  · intro h
    by_cases htop : (req.get "transaction_id").text ≠ ""
    · rw [if_pos htop] at h
      exact .top (eq_str_of_text_ne htop) h.1 h.2
    · rw [if_neg htop] at h
      -- without an id at the top, the context names it
      cases hc : req.get "context" with
      | obj m =>
        rw [hc, Json.fields_obj] at h
        exact .context (not_not.1 htop) hc (eq_str_of_text_ne h.1) h.1 h.2
      | _ =>
        rw [hc] at h
        exact absurd rfl h.1

/-- A drawn id is long enough, so that only a named one can be too short. -/
theorem requestTransaction_size (draw : Draw) (req : Fields) :
    8 ≤ (requestTransaction draw req).utf8ByteSize ↔ ¬NamesShort req := by
  rw [namesShort_iff]
  unfold requestTransaction
  by_cases hnone : formTransactionID req = ""
  · rw [if_pos hnone, draw.txnID.size]
    exact iff_of_true (by omega) fun h => h.1 hnone
  · rw [if_neg hnone]
    constructor
    · intro hle h
      omega
    · intro h
      exact Nat.le_of_not_lt fun hlt => h ⟨hnone, hlt⟩

/-- Every form gives a message, except that a confirm does not take a short id. -/
theorem build_ok_iff (method : Method) (draw : Draw) (req : Fields) :
    (∃ payload, build method draw (some req) = .ok payload) ↔ ¬(method = .confirm ∧ NamesShort req) := by
  cases method with
  | select => exact iff_of_true ⟨_, select_eq draw req⟩ fun h => nomatch h.1
  | init => exact iff_of_true ⟨_, init_eq draw req⟩ fun h => nomatch h.1
  | rate => exact iff_of_true ⟨_, rate_eq draw req⟩ fun h => nomatch h.1
  | support => exact iff_of_true ⟨_, support_eq draw req⟩ fun h => nomatch h.1
  | confirm =>
    show (∃ payload, confirm draw (some req) = .ok payload) ↔ _
    rw [confirm_eq]
    by_cases h : 8 ≤ (requestTransaction draw req).utf8ByteSize
    · rw [if_pos h]
      exact iff_of_true ⟨_, rfl⟩ fun hn => (requestTransaction_size draw req).1 h hn.2
    · rw [if_neg h]
      have hshort : NamesShort req := not_not.1 fun hn => h ((requestTransaction_size draw req).2 hn)
      apply iff_of_false
      · rintro ⟨payload, hp⟩
        cases hp
      · exact fun hn => hn ⟨rfl, hshort⟩

def firstUUID : UUID where
  text := "00000000-0000-4000-8000-000000000000"
  size := by decide +kernel

/-- A confirm of the transaction `t-1` cuts an id of three bytes after its eighth. -/
theorem confirm_short_panics :
    (∀ now, build .confirm ⟨firstUUID, firstUUID, now⟩ (some [("transaction_id", .str "t-1")]) =
      .error (.sliceBounds 8 3)) ∧
    ¬∀ (method : Method) (draw : Draw) (req : Fields), ∃ payload, build method draw (some req) = .ok payload := by
  have hpanic : ∀ now, build .confirm ⟨firstUUID, firstUUID, now⟩ (some [("transaction_id", .str "t-1")]) =
      .error (.sliceBounds 8 3) := by
    intro now
    show confirm _ (some _) = _
    rw [confirm_eq]
    rfl
  refine ⟨hpanic, fun h => ?_⟩
  obtain ⟨payload, hp⟩ := h .confirm ⟨firstUUID, firstUUID, .zero⟩ [("transaction_id", .str "t-1")]
  rw [hpanic] at hp
  cases hp

end IonInsurance.Bap.Building
