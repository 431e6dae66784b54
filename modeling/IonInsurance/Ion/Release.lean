import IonInsurance.Interleave.Dialogue
import IonInsurance.Ion.Instruments

/-!
# The release of held funds at DOKU

`handleRelease` asks DOKU to release the funds of an invoice and to divide them among the bank accounts of the parties.
If DOKU does not know an account, it asks once more and leaves the division to DOKU.  The second request follows a
refusal of the first, so at most one of them is accepted.
-/

namespace IonInsurance.Ion

open Interleave

/-! ### The request -/

structure ReleaseSplit where
  bankAccountSettlementID : String
  value : ℚ
  type : String
  deriving DecidableEq

/-- The body of a release. -/
structure ReleaseRequest where
  invoiceNumber : String
  originalRequestID : String
  amount : Int
  splits : List ReleaseSplit
  deriving DecidableEq

/-- A `string` field of a decoded struct: missing and `null` leave it empty. -/
def decodeString (v : Json) : Except String String :=
  match v with
  | .str s => .ok s
  | .null => .ok ""
  | _ => .error "json: cannot unmarshal into Go struct field of type string"

def decodeFloat (v : Json) : Except String ℚ :=
  match v with
  | .num q => .ok q
  | .null => .ok 0
  | _ => .error "json: cannot unmarshal into Go struct field of type float64"

/-- An `int64` field takes whole numbers only. -/
def decodeInt64 (v : Json) : Except String Int :=
  match v with
  | .num q =>
    if q.den = 1 ∧ -9223372036854775808 ≤ q.num ∧ q.num ≤ 9223372036854775807 then .ok q.num
    else .error "json: cannot unmarshal number into Go struct field of type int64"
  | .null => .ok 0
  | _ => .error "json: cannot unmarshal into Go struct field of type int64"

def decodeSplit (v : Json) : Except String ReleaseSplit :=
  match v with
  | .obj m => do
    let account ← decodeString (Fields.get m "bank_account_settlement_id")
    let value ← decodeFloat (Fields.get m "value")
    let type ← decodeString (Fields.get m "type")
    return ⟨account, value, type⟩
  | .null => .ok ⟨"", 0, ""⟩
  | _ => .error "json: cannot unmarshal into Go struct field of type struct"

def decodeSplits (v : Json) : Except String (List ReleaseSplit) :=
  match v with
  | .arr xs => xs.mapM decodeSplit
  | .null => .ok []
  | _ => .error "json: cannot unmarshal into Go struct field of type []struct"

/-- `json.NewDecoder(r.Body).Decode(&req)`. -/
def decodeRelease (v : Json) : Except String ReleaseRequest :=
  match v with
  | .obj m => do
    let invoiceNumber ← decodeString (Fields.get m "invoice_number")
    let originalRequestID ← decodeString (Fields.get m "original_request_id")
    let amount ← decodeInt64 (Fields.get m "amount")
    let splits ← decodeSplits (Fields.get m "splits")
    return ⟨invoiceNumber, originalRequestID, amount, splits⟩
  | .null => .ok ⟨"", "", 0, []⟩
  | _ => .error "json: cannot unmarshal into Go value of type struct"

/-! ### The dialogue with DOKU -/

/-- `doRequest`: a signed POST to DOKU. -/
structure DokuPost where
  path : String
  payload : Fields

/-- The id under which a request was signed, and what came back. -/
structure DokuReply where
  requestID : String
  reply : Reply

abbrev DokuTask := Prog DokuPost fun _ => DokuReply

/-- What the caller of a release is answered. -/
structure ReleaseAnswer where
  status : Nat
  body : Json

/-- The share of a party in the settlement. -/
def ReleaseSplit.override (sp : ReleaseSplit) : Json :=
  .obj
    [("bank_account_settlement_id", .str sp.bankAccountSettlementID), ("value", .num sp.value), ("type", .str sp.type)]

/-- `buildPayload`. -/
def ReleaseRequest.payload (req : ReleaseRequest) (withSplits : Bool) : Fields :=
  let overrides := req.splits.map ReleaseSplit.override
  [("order", .obj
     [("invoice_number", .str req.invoiceNumber), ("amount", .int req.amount), ("currency", .str "IDR")]),
   ("transaction", .obj [("original_request_id", .str req.originalRequestID)])] ++
    if withSplits ∧ overrides ≠ [] then [("override_settlement", .arr overrides)] else []

def ReleaseRequest.post (req : ReleaseRequest) (withSplits : Bool) : DokuPost :=
  ⟨"/finance/v1/release", req.payload withSplits⟩

/-- The `error.code` of a body. -/
def errorCode (body : Json) : String := ((body.fields.get "error").fields.get "code").text

/-- DOKU does not know a bank account of the split. -/
def accountsUnknown (status : Nat) (body : Json) : Bool :=
  (status = 400 || status = 422) && errorCode body = "data_not_found"

def releaseError (msg : String) (status : Nat) : ReleaseAnswer := ⟨status, .obj [("error", .str msg)]⟩

def releaseFailed (err : String) : ReleaseAnswer := releaseError ("doku release failed: " ++ err) 502

/-- The answer that the funds are released. -/
def releasedBody (requestID : String) : Json := .obj [("status", .str "released"), ("doku_ref", .str requestID)]

/-- The answer to a release that DOKU has answered. -/
def releaseAnswer (requestID : String) (status : Nat) (body : String) : ReleaseAnswer :=
  if status ≠ 200 ∧ status ≠ 201 then releaseError ("doku release HTTP " ++ toString status ++ ": " ++ body) 502
  else ⟨200, releasedBody requestID⟩

def releaseWithoutSplits (req : ReleaseRequest) : DokuTask ReleaseAnswer := do
  let r ← Prog.call (req.post false)
  match r.reply with
  | .failed err => return releaseFailed err
  | .response status body _ => return releaseAnswer r.requestID status body

def handleRelease (method : String) (decoded : Except String ReleaseRequest) : DokuTask ReleaseAnswer := do
  if method ≠ "POST" then return ⟨405, .str "method not allowed\n"⟩
  else
    match decoded with
    | .error err => return releaseError ("bad request: " ++ err) 400
    | .ok req =>
      let r ← Prog.call (req.post true)
      match r.reply with
      | .failed err => return releaseFailed err
      | .response status body json =>
        if accountsUnknown status json ∧ req.splits ≠ [] then releaseWithoutSplits req
        else return releaseAnswer r.requestID status body

/-! ### What a release does -/

abbrev DokuExchange := Prog.Exchange DokuPost fun _ => DokuReply

/-- DOKU has taken the request. -/
def DokuReply.accepted (r : DokuReply) : Bool :=
  match r.reply with
  | .response status _ _ => status = 200 || status = 201
  | .failed _ => false

/-- DOKU has refused the request for its bank accounts. -/
def DokuReply.refusesAccounts (r : DokuReply) : Bool :=
  match r.reply with
  | .response status _ body => accountsUnknown status body
  | .failed _ => false

theorem not_accepted_of_refusesAccounts {r : DokuReply} (h : r.refusesAccounts = true) : r.accepted = false := by
  unfold DokuReply.refusesAccounts accountsUnknown at h
  unfold DokuReply.accepted
  cases hr : r.reply with
  | failed err => rfl
  | response status body json =>
    rw [hr] at h
    simp only [Bool.and_eq_true, Bool.or_eq_true, decide_eq_true_eq] at h
    rcases h.1 with rfl | rfl <;> rfl

/-- The requests of a release that DOKU has accepted. -/
def acceptedPosts (h : List DokuExchange) : List DokuExchange := h.filter fun x => x.2.accepted

/-- The answer is of a request that was accepted if it says that the funds are released, and otherwise it is an error. -/
structure AnswerOf (r : DokuReply) (b : ReleaseAnswer) : Prop where
  released : r.accepted = true → b = ⟨200, releasedBody r.requestID⟩
  failed : r.accepted = false → b.status = 502

theorem answerOf_releaseAnswer {r : DokuReply} {status : Nat} {body : String} {json : Json}
    (hr : r.reply = .response status body json) : AnswerOf r (releaseAnswer r.requestID status body) := by
  constructor
  · intro ha
    unfold DokuReply.accepted at ha
    rw [hr] at ha
    have hstatus : ¬(status ≠ 200 ∧ status ≠ 201) := by
      rintro ⟨h₁, h₂⟩
      simp [h₁, h₂] at ha
    exact if_neg hstatus
  · intro ha
    unfold DokuReply.accepted at ha
    rw [hr] at ha
    have hstatus : status ≠ 200 ∧ status ≠ 201 := by simpa using ha
    unfold releaseAnswer
    rw [if_pos hstatus]
    rfl

theorem answerOf_releaseFailed {r : DokuReply} {err : String} (hr : r.reply = .failed err) :
    AnswerOf r (releaseFailed err) := by
  constructor
  · intro ha
    unfold DokuReply.accepted at ha
    rw [hr] at ha
    cases ha
  · intro _
    rfl

theorem releaseWithoutSplits_dialogue {req : ReleaseRequest} {h : List DokuExchange} {b : ReleaseAnswer}
    (hd : (releaseWithoutSplits req).Dialogue h b) : ∃ r, h = [⟨req.post false, r⟩] ∧ AnswerOf r b := by
  obtain ⟨r, h', rfl, hrest⟩ := Prog.dialogue_call hd
  cases hr : r.reply with
  | failed err =>
    rw [hr] at hrest
    obtain ⟨rfl, rfl⟩ := Prog.dialogue_ret hrest
    exact ⟨r, rfl, answerOf_releaseFailed hr⟩
  | response status body json =>
    rw [hr] at hrest
    obtain ⟨rfl, rfl⟩ := Prog.dialogue_ret hrest
    exact ⟨r, rfl, answerOf_releaseAnswer hr⟩

/-- A release makes one request, or a second one without the split after DOKU has refused its accounts. -/
theorem handleRelease_dialogue {req : ReleaseRequest} {h : List DokuExchange} {b : ReleaseAnswer}
    (hd : (handleRelease "POST" (.ok req)).Dialogue h b) :
    (∃ r, h = [⟨req.post true, r⟩] ∧ AnswerOf r b) ∨
      ∃ r r', h = [⟨req.post true, r⟩, ⟨req.post false, r'⟩] ∧ req.splits ≠ [] ∧ r.refusesAccounts = true ∧
        AnswerOf r' b := by
  unfold handleRelease at hd
  rw [if_neg (not_not.2 rfl)] at hd
  obtain ⟨r, h', rfl, hrest⟩ := Prog.dialogue_call hd
  cases hr : r.reply with
  | failed err =>
    rw [hr] at hrest
    obtain ⟨rfl, rfl⟩ := Prog.dialogue_ret hrest
    exact .inl ⟨r, rfl, answerOf_releaseFailed hr⟩
  | response status body json =>
    rw [hr] at hrest
    by_cases hretry : accountsUnknown status json = true ∧ req.splits ≠ []
    · dsimp only at hrest
      rw [if_pos hretry] at hrest
      obtain ⟨r', rfl, hb⟩ := releaseWithoutSplits_dialogue hrest
      refine .inr ⟨r, r', rfl, hretry.2, ?_, hb⟩
      unfold DokuReply.refusesAccounts
      rw [hr]
      exact hretry.1
    · dsimp only at hrest
      rw [if_neg hretry] at hrest
      obtain ⟨rfl, rfl⟩ := Prog.dialogue_ret hrest
      exact .inl ⟨r, rfl, answerOf_releaseAnswer hr⟩

/-- A request that is not a readable POST asks DOKU nothing. -/
theorem handleRelease_unreadable {method : String} {decoded : Except String ReleaseRequest} {h : List DokuExchange}
    {b : ReleaseAnswer} (hd : (handleRelease method decoded).Dialogue h b)
    (hn : method ≠ "POST" ∨ ∃ err, decoded = .error err) : h = [] ∧ (b.status = 405 ∨ b.status = 400) := by
  unfold handleRelease at hd
  by_cases hpost : method ≠ "POST"
  · rw [if_pos hpost] at hd
    obtain ⟨rfl, rfl⟩ := Prog.dialogue_ret hd
    exact ⟨rfl, .inl rfl⟩
  · rw [if_neg hpost] at hd
    obtain ⟨err, rfl⟩ := hn.resolve_left hpost
    obtain ⟨rfl, rfl⟩ := Prog.dialogue_ret hd
    exact ⟨rfl, .inr rfl⟩

/-- How a release goes on with DOKU. -/
structure Orderly (method : String) (decoded : Except String ReleaseRequest) (h : List DokuExchange) (b : ReleaseAnswer) :
    Prop where
  /-- There are at most two requests. -/
  few : h.length ≤ 2
  /-- The caller is told of a release exactly if DOKU has accepted a request, which is then the only one. -/
  accepted : (acceptedPosts h).length = if b.status = 200 then 1 else 0
  reference : ∀ x ∈ acceptedPosts h, b.body = releasedBody x.2.requestID
  /-- Every request is for the funds that were named, and leaves out their split after a refusal of its accounts only. -/
  asked : ∀ x ∈ h, method = "POST" ∧ ∃ req, decoded = .ok req ∧
    (x.1 = req.post true ∨ x.1 = req.post false ∧ req.splits ≠ [] ∧
      ∃ r : DokuReply, (⟨req.post true, r⟩ : DokuExchange) ∈ h ∧ r.refusesAccounts = true)

section

variable {req : ReleaseRequest} {r r' : DokuReply} {b : ReleaseAnswer}

theorem orderly_nil {method : String} {decoded : Except String ReleaseRequest} (hb : b.status ≠ 200) :
    Orderly method decoded [] b where
  few := Nat.zero_le 2
  accepted := by
    rw [if_neg hb]
    rfl
  reference := by
    intro x hx
    cases hx
  asked := by
    intro x hx
    cases hx

/-- The last reply decides. -/
theorem acceptedPosts_singleton (hb : AnswerOf r b) (o : DokuPost) :
    (acceptedPosts [⟨o, r⟩]).length = (if b.status = 200 then 1 else 0) ∧
      ∀ x ∈ acceptedPosts [⟨o, r⟩], b.body = releasedBody x.2.requestID := by
  unfold acceptedPosts
  cases ha : r.accepted with
  | true =>
    rw [hb.released ha, List.filter_cons_of_pos (by exact ha), List.filter_nil]
    refine ⟨rfl, ?_⟩
    intro x hx
    rw [List.mem_singleton.1 hx]
  | false =>
    have hne : b.status ≠ 200 := by
      rw [hb.failed ha]
      decide
    rw [List.filter_cons_of_neg (by rw [ha]; exact Bool.false_ne_true), List.filter_nil, if_neg hne]
    refine ⟨rfl, ?_⟩
    intro x hx
    cases hx

theorem orderly_once (hb : AnswerOf r b) : Orderly "POST" (.ok req) [⟨req.post true, r⟩] b where
  few := Nat.le_succ 1
  accepted := (acceptedPosts_singleton hb _).1
  reference := (acceptedPosts_singleton hb _).2
  asked := by
    intro x hx
    rw [List.mem_singleton.1 hx]
    exact ⟨rfl, req, rfl, .inl rfl⟩

theorem orderly_twice (hsplits : req.splits ≠ []) (hrefused : r.refusesAccounts = true) (hb : AnswerOf r' b) :
    Orderly "POST" (.ok req) [⟨req.post true, r⟩, ⟨req.post false, r'⟩] b := by
  have hfirst : acceptedPosts [⟨req.post true, r⟩, ⟨req.post false, r'⟩] = acceptedPosts [⟨req.post false, r'⟩] := by
    have hnot : ¬r.accepted = true := by
      rw [not_accepted_of_refusesAccounts hrefused]
      exact Bool.false_ne_true
    exact List.filter_cons_of_neg hnot
  refine ⟨Nat.le_refl 2, ?_, ?_, ?_⟩
  · rw [hfirst]
    exact (acceptedPosts_singleton hb _).1
  · rw [hfirst]
    exact (acceptedPosts_singleton hb _).2
  · intro x hx
    rcases List.mem_cons.1 hx with rfl | hx
    · exact ⟨rfl, req, rfl, .inl rfl⟩
    · rw [List.mem_singleton.1 hx]
      exact ⟨rfl, req, rfl, .inr ⟨rfl, hsplits, r, List.mem_cons_self, hrefused⟩⟩

end

/-- Every release is orderly, whatever it asks for and whatever DOKU answers. -/
theorem release_orderly (method : String) (decoded : Except String ReleaseRequest) (h : List DokuExchange)
    (b : ReleaseAnswer) (hd : (handleRelease method decoded).Dialogue h b) : Orderly method decoded h b := by
  by_cases hpost : method = "POST"
  · subst hpost
    cases decoded with
    | error err =>
      obtain ⟨rfl, hstatus⟩ := handleRelease_unreadable hd (.inr ⟨err, rfl⟩)
      exact orderly_nil (by omega)
    | ok req =>
      rcases handleRelease_dialogue hd with ⟨r, rfl, hb⟩ | ⟨r, r', rfl, hsplits, hrefused, hb⟩
      · exact orderly_once hb
      · exact orderly_twice hsplits hrefused hb
  · obtain ⟨rfl, hstatus⟩ := handleRelease_unreadable hd (.inl hpost)
    exact orderly_nil (by omega)

end IonInsurance.Ion
