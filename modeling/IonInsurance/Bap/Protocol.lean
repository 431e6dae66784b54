import IonInsurance.Interleave.Protocol
import IonInsurance.Bap.Client

/-!
# The protocol of the BAP

What the methods of `ClientService` may ask: which status each of them records, that only a callback which reports an
issued policy starts a reconcile, and that a reconcile is sent once for each start.
-/

namespace IonInsurance.Bap

open Interleave

abbrev BapWorld := World Db Request Op Op.Ans

abbrev BapConfig := Config Db Request Op Op.Ans (Except String Fields)

abbrev Exchange := Prog.Exchange Op Op.Ans

/-- The exchanges of one request, latest first. -/
abbrev History := List Exchange

/-- The operation starts a goroutine. -/
def Op.isGo : Op → Bool
  | .goSendReconcile _ => true
  | _ => false

/-- The operation sends a reconcile. -/
def Op.isReconcile : Op → Bool
  | .post .bppWebhook _ _ => true
  | _ => false

/-- The operation neither records a status, nor sends anything to a peer, nor starts a goroutine. -/
def Op.isLocal : Op → Bool
  | .upsertTransaction .. | .goSendReconcile _ | .post .. => false
  | _ => true

/-- The operation is a command to Redis. -/
def Op.isRedis : Op → Bool
  | .setPending _ | .subscribe _ | .receive _ | .close _ | .existsPending _ | .publish .. | .deletePending _ => true
  | _ => false

/-- The operation neither records a status, nor sends a Beckn message, nor starts a goroutine. -/
def Op.quiet : Op → Bool
  | .upsertTransaction .. | .goSendReconcile _ => false
  | .post peer _ _ => peer = .ionService
  | _ => true

/-- The action and the status that a call of the frontend records before it is forwarded. -/
def Request.records : Request → Option (String × String)
  | .search _ => some ("discover", "INITIATED")
  | .select _ => some ("select", "SELECT_SENT")
  | .init _ => some ("init", "INIT_SENT")
  | .confirm _ => some ("confirm", "CONFIRM_SENT")
  | .cancel _ => some ("cancel", "CANCEL_SENT")
  | _ => none

/-- The action that a call of the frontend forwards to the network. -/
def Request.forwards : Request → Option String
  | .search _ => some "discover"
  | .select _ => some "select"
  | .init _ => some "init"
  | .confirm _ => some "confirm"
  | .requestStatus _ => some "status"
  | .cancel _ => some "cancel"
  | .rate _ => some "rate"
  | .support _ => some "support"
  | _ => none

inductive MayAsk : Request → History → Op → Prop where
  | quiet (r : Request) (h : History) {o : Op} (ho : o.quiet = true) : MayAsk r h o
  | record {r : Request} {action status : String} (hr : r.records = some (action, status)) (h : History)
      (txnID : String) : MayAsk r h (.upsertTransaction txnID action status)
  | forward {r : Request} {action : String} (hr : r.forwards = some action) (h : History) (payload : Fields) :
      MayAsk r h (.post .onixBAPCaller action payload)
  | called {onAction action status : String} {payload : Fields}
      (hs : callbackStatus onAction payload = some (action, status)) (h : History) :
      MayAsk (.callback onAction payload) h (.upsertTransaction (transactionID payload) action status)
  | go {onAction : String} {payload : Fields} (hi : reportsIssued onAction payload = true) {h : History}
      (hn : ∀ x ∈ h, x.1.isGo = false) :
      MayAsk (.callback onAction payload) h (.goSendReconcile (transactionID payload))
  | reconciling (txnID : String) (h : History) :
      MayAsk (.sendReconcile txnID) h (.upsertTransaction txnID "reconcile" "RECONCILING")
  | reconcile {txnID : String} {payload : Fields} (ht : transactionID payload = txnID) {h : History}
      (hn : ∀ x ∈ h, x.1.isReconcile = false) :
      MayAsk (.sendReconcile txnID) h (.post .bppWebhook "reconcile" payload)

/-- Who records a status: a call of the frontend before it forwards, a callback, or the goroutine. -/
theorem mayAsk_upsert {r : Request} {h : History} {t action status : String}
    (ho : MayAsk r h (.upsertTransaction t action status)) :
    r.records = some (action, status) ∨
      (∃ onAction payload, r = .callback onAction payload ∧ transactionID payload = t ∧
        callbackStatus onAction payload = some (action, status)) ∨
      r = .sendReconcile t ∧ action = "reconcile" ∧ status = "RECONCILING" := by
  cases ho with
  | quiet _ _ hq => cases hq
  | record hr => exact .inl hr
  | @called onAction _ _ payload hs => exact .inr (.inl ⟨onAction, payload, rfl, rfl, hs⟩)
  | reconciling => exact .inr (.inr ⟨rfl, rfl, rfl⟩)

/-- The statuses that a call of the frontend records. -/
theorem Request.records_status {r : Request} {action status : String} (h : r.records = some (action, status)) :
    status ∈ ["INITIATED", "SELECT_SENT", "INIT_SENT", "CONFIRM_SENT", "CANCEL_SENT"] := by
  cases r with
  | search | select | init | confirm | cancel =>
    obtain ⟨-, rfl⟩ := Prod.mk.inj (Option.some.inj h)
    decide
  | _ => cases h

/-- The statuses that a callback records, each for one kind of callback. -/
theorem callbackStatus_mem {onAction action status : String} {payload : Fields}
    (h : callbackStatus onAction payload = some (action, status)) :
    (onAction, status) ∈ [("on_select", "QUOTE_RECEIVED"), ("on_init", "INIT_RECEIVED"), ("on_confirm", "CONFIRMED"),
      ("on_reconcile", "SETTLED"), ("on_cancel", "CANCELLED")] := by
  have hpair : ∀ {x y : String × String}, some x = some (action, status) → x = y → status = y.2 := by
    rintro x y hx rfl
    rw [Option.some.inj hx]
  unfold callbackStatus at h
  split at h
  · rw [hpair h rfl]
    decide
  · rw [hpair h rfl]
    decide
  · split at h
    · cases h
    · rw [hpair h rfl]
      decide
  · rw [hpair h rfl]
    decide
  · rw [hpair h rfl]
    decide
  · cases h

/-! ### What the programs ask -/

section

variable {A : Op → Prop}

private theorem apart (hq : ∀ o : Op, o.isLocal = true → A o) (o : Op) (ho : o.isLocal = true)
    (_ : o.isRedis = false) : A o :=
  hq o ho

private theorem redis (hq : ∀ o : Op, o.isLocal = true → A o) (o : Op) (ho : o.isRedis = true) : A o := by
  refine hq o ?_
  cases o with
  | upsertTransaction | goSendReconcile | post => cases ho
  | _ => rfl

theorem wait_asks (hq : ∀ o : Op, o.isLocal = true → A o) (route txnID : String) : (wait route txnID).Asks A := by
  refine ⟨hq _ rfl, fun n => ⟨hq _ rfl, fun msg => ⟨hq _ rfl, fun _ => ?_⟩⟩⟩
  change Option Fields at msg
  cases msg <;> trivial

theorem publish_asks (hq : ∀ o : Op, o.isRedis = true → A o) (route txnID : String) (body : Fields) :
    (publish route txnID body).Asks A := by
  refine ⟨hq _ rfl, fun exist => ?_⟩
  change Except String Bool at exist
  rcases exist with err | pending
  · trivial
  · cases pending with
    | false => trivial
    | true =>
      refine ⟨hq _ rfl, fun n => ?_⟩
      change Except String Nat at n
      cases n with
      | error err => trivial
      | ok n => exact ⟨hq _ rfl, fun _ => trivial⟩

theorem callOnixCaller_asks {action : String} {payload : Fields} (hpost : A (.post .onixBAPCaller action payload))
    (s : ClientService) : (callOnixCaller s action payload).Asks A := by
  refine ⟨hpost, fun reply => ?_⟩
  change Reply at reply
  cases reply with
  | failed err => trivial
  | response status body json =>
    change Prog.Asks A (if status ≥ 400 then _ else _)
    split <;> trivial

theorem forwardAndWait_asks (hq : ∀ o : Op, o.isLocal = true → A o) {action : String} {payload : Fields}
    (hpost : A (.post .onixBAPCaller action payload)) (s : ClientService) :
    (forwardAndWait s action payload).Asks A := by
  refine ⟨hq _ rfl, fun registered => ?_⟩
  change Except String Unit at registered
  cases registered with
  | error err => trivial
  | ok _ =>
    refine (callOnixCaller_asks hpost s).bind fun sent => ?_
    cases sent with
    | error err => trivial
    | ok _ =>
      refine (wait_asks hq _ _).bind fun body => ?_
      cases body <;> trivial

theorem extractOrNew_asks (hq : ∀ o : Op, o.isLocal = true → o.isRedis = false → A o) (req : Fields) :
    (extractOrNew req).Asks A := by
  unfold extractOrNew
  split
  · exact ⟨hq _ rfl rfl, fun _ => ⟨hq _ rfl rfl, fun _ => trivial⟩⟩
  · exact ⟨hq _ rfl rfl, fun _ => trivial⟩

/-- A form is recorded and forwarded as one message. -/
theorem form_asks (hq : ∀ o : Op, o.isLocal = true → A o) {action status : String} (payload : Json → String → Fields)
    (hrec : ∀ txnID, A (.upsertTransaction txnID action status))
    (hpost : ∀ txnID msgID now, A (.post .onixBAPCaller action (payload (requestContext action txnID msgID now) txnID)))
    (s : ClientService) (req : Fields) :
    (do let (txnID, msgID) ← extractOrNew req
        let context ← buildContext action txnID msgID
        recordAndForward s txnID action status (payload context txnID) : Task (Except String Fields)).Asks A :=
  (extractOrNew_asks (apart hq) req).bind fun (txnID, msgID) => ⟨hq _ rfl, fun now =>
    ⟨hrec txnID, fun _ => forwardAndWait_asks hq (hpost txnID msgID now) s⟩⟩

/-- A form that is forwarded without being recorded. -/
theorem unrecorded_asks (hq : ∀ o : Op, o.isLocal = true → A o) {action : String} (payload : Json → String → Fields)
    (hpost : ∀ txnID msgID now, A (.post .onixBAPCaller action (payload (requestContext action txnID msgID now) txnID)))
    (s : ClientService) (req : Fields) :
    (do let (txnID, msgID) ← extractOrNew req
        let context ← buildContext action txnID msgID
        forwardAndWait s action (payload context txnID) : Task (Except String Fields)).Asks A :=
  (extractOrNew_asks (apart hq) req).bind fun (txnID, msgID) => ⟨hq _ rfl, fun now =>
    forwardAndWait_asks hq (hpost txnID msgID now) s⟩

theorem confirm_asks (hq : ∀ o : Op, o.isLocal = true → A o)
    (hrec : ∀ txnID, A (.upsertTransaction txnID "confirm" "CONFIRM_SENT")) {req : Fields}
    (hpost : ∀ txnID msgID now, A (.post .onixBAPCaller "confirm"
      (confirmPayload (requestContext "confirm" txnID msgID now) txnID req))) (s : ClientService) :
    (confirm s req).Asks A := by
  refine (extractOrNew_asks (apart hq) req).bind fun (txnID, msgID) => ?_
  dsimp only
  split
  · trivial
  · refine ⟨hq _ rfl, fun now => ⟨hrec txnID, fun _ =>
      (forwardAndWait_asks hq (hpost txnID msgID now) s).bind fun result => ?_⟩⟩
    cases result <;> trivial

theorem callIONCreateCheckout_asks {s : ClientService} {invoiceNumber txnID : String} {amountIDR : Int}
    (hset : ∀ rid, A (.setCheckoutRequestID txnID rid)) (hpost : A (.post .ionService "payment/create-checkout"
      (checkoutPayload invoiceNumber (s.bapFrontendURL ++ "/policy/" ++ txnID ++ "?payment=done") amountIDR))) :
    (callIONCreateCheckout s invoiceNumber amountIDR txnID).Asks A := by
  unfold callIONCreateCheckout
  split
  · trivial
  · refine ⟨hpost, fun reply => ?_⟩
    change Reply at reply
    cases reply with
    | failed err => trivial
    | response status body json =>
      change Prog.Asks A (if status ≠ 200 then _ else _)
      split
      · trivial
      · change Prog.Asks A (if (json.fields.get "payment_request_id").text ≠ "" then _ else _)
        split
        · exact ⟨hset _, fun _ => trivial⟩
        · trivial

theorem notifyPaymentReceived_asks (hq : ∀ o : Op, o.isLocal = true → o.isRedis = false → A o)
    (hpost : ∀ body, A (.post .ionService "payment/notify-direct" body)) (txnID : String) :
    (notifyPaymentReceived txnID).Asks A := by
  refine ⟨hq _ rfl rfl, fun row => ⟨hpost _, fun reply => ?_⟩⟩
  change Reply at reply
  cases reply with
  | failed err => trivial
  | response status body json =>
    change Prog.Asks _ (if status ≠ 200 then _ else _)
    split <;> trivial

theorem saveCallback_asks (hq : ∀ o : Op, o.isLocal = true → o.isRedis = false → A o) (onAction : String)
    (payload : Fields) : (saveCallback onAction payload).Asks A := by
  unfold saveCallback
  split
  · exact ⟨hq _ rfl rfl, fun _ => trivial⟩
  · trivial

theorem reconcileAmount_asks (hq : ∀ o : Op, o.isLocal = true → o.isRedis = false → A o) (txnID : String)
    (amount : Int) : (reconcileAmount txnID amount).Asks A := by
  unfold reconcileAmount
  split
  · refine ⟨hq _ rfl rfl, fun snap => ?_⟩
    change Except String Fields at snap
    cases snap <;> trivial
  · trivial

theorem publishing_asks (hq : ∀ o : Op, o.isLocal = true → A o)
    (hup : ∀ txnID action status, A (.upsertTransaction txnID action status)) (hgo : ∀ txnID, A (.goSendReconcile txnID))
    (onAction : String) (payload : Fields) :
    (do saveCallback onAction payload
        updateStatus onAction payload
        let _ ← publish (trimPrefix onAction "on_") (transactionID payload) payload
        return .ok [] : Task (Except String Fields)).Asks A := by
  refine (saveCallback_asks (apart hq) onAction payload).bind fun _ => ?_
  refine Prog.Asks.bind ?_ fun _ => (publish_asks (redis hq) _ _ _).bind fun _ => trivial
  unfold updateStatus
  dsimp only
  split
  · refine ⟨hup _ _ _, fun _ => ?_⟩
    dsimp only
    split
    · exact ⟨hgo _, fun _ => trivial⟩
    · trivial
  · trivial

/-- A callback posts nothing but the checkout of an `on_init`. -/
theorem handleCallback_asks (hq : ∀ o : Op, o.isLocal = true → A o)
    (hup : ∀ txnID action status, A (.upsertTransaction txnID action status)) (hgo : ∀ txnID, A (.goSendReconcile txnID))
    (s : ClientService) (onAction : String) (payload : Fields)
    (hpost : onAction = "on_init" → A (.post .ionService "payment/create-checkout"
      (checkoutPayload ("ins-" ++ transactionID payload)
        (s.bapFrontendURL ++ "/policy/" ++ transactionID payload ++ "?payment=done")
        (extractTotalIDRFromOnInit payload)))) :
    (handleCallback s onAction payload).Asks A := by
  unfold handleCallback
  split
  · rename_i hon
    refine Prog.Asks.bind ⟨hup _ _ _, fun _ => ?_⟩ fun payload' => publishing_asks hq hup hgo onAction payload'
    refine (callIONCreateCheckout_asks (fun _ => hq _ rfl) (hpost hon.1)).bind fun co => ?_
    cases co with
    | error err => trivial
    | ok co => exact ⟨hq _ rfl, fun _ => trivial⟩
  · exact publishing_asks hq hup hgo onAction payload

end

/-! ### The programs follow the protocol -/

section

variable {r : Request}

/-- The operations that `r` may ask at any point, other than to start a goroutine or to send a reconcile. -/
def Request.Free (r : Request) (o : Op) : Prop := (∀ h, MayAsk r h o) ∧ o.isGo = false ∧ o.isReconcile = false

private theorem free_quiet (r : Request) (o : Op) (ho : o.quiet = true) : r.Free o := by
  refine ⟨fun h => .quiet r h ho, ?_, ?_⟩
  · cases o with
    | goSendReconcile => cases ho
    | _ => rfl
  · cases o with
    | post peer path payload =>
      cases peer with
      | bppWebhook => cases ho
      | _ => rfl
    | _ => rfl

private theorem free_local (r : Request) (o : Op) (ho : o.isLocal = true) : r.Free o := by
  refine free_quiet r o ?_
  cases o with
  | upsertTransaction | goSendReconcile | post => cases ho
  | _ => rfl

private theorem free_record {action status : String} (hr : r.records = some (action, status)) (txnID : String) :
    r.Free (.upsertTransaction txnID action status) :=
  ⟨fun h => .record hr h txnID, rfl, rfl⟩

private theorem free_forward {action : String} (hr : r.forwards = some action) (payload : Fields) :
    r.Free (.post .onixBAPCaller action payload) :=
  ⟨fun h => .forward hr h payload, rfl, rfl⟩

/-- The enriched payload names the same transaction. -/
theorem transactionID_inject (payload extra : Fields) :
    transactionID (injectIntoConsiderationAttributes payload extra) = transactionID payload := by
  have hget : ∀ (m : Fields) (f : Fields → Fields), (modifyObject m "message" f).get "context" = m.get "context" := by
    intro m f
    unfold modifyObject
    split
    · exact Fields.get_set_ne (by decide) _ _
    · rfl
  unfold transactionID contextOf injectIntoConsiderationAttributes
  rw [hget]

/-- A free program keeps what is known of the goroutines and reconciles so far. -/
private theorem follows_of_free {α : Type} {p : Task α} (hp : p.Asks r.Free) {q : Op → Bool}
    (hq : ∀ o, r.Free o → q o = false) {h : History} (hh : ∀ x ∈ h, q x.1 = false) :
    p.Follows (MayAsk r) (fun h _ => ∀ x ∈ h, q x.1 = false) h := by
  refine hp.follows (J := fun h => ∀ x ∈ h, q x.1 = false) (fun h o _ ho => ho.1 h) (fun h o a hJ ho => ?_) hh
  intro x hx
  rcases List.mem_cons.1 hx with rfl | hx
  · exact hq o ho
  · exact hJ x hx

private theorem follows_free {p : Task (Except String Fields)} (hp : p.Asks r.Free) :
    p.Follows (MayAsk r) (fun _ _ => True) [] :=
  (follows_of_free (q := fun _ => false) hp (fun _ _ => rfl) (by simp)).mono fun _ _ _ => trivial

/-- The payload after the enrichment records and starts what the payload before it does. -/
structure SameCallback (onAction : String) (payload payload' : Fields) : Prop where
  transaction : transactionID payload' = transactionID payload
  status : callbackStatus onAction payload' = callbackStatus onAction payload
  issued : reportsIssued onAction payload' = reportsIssued onAction payload

private theorem updateStatus_follows {onAction : String} {payload payload' : Fields}
    (hp : SameCallback onAction payload payload') {h : History} (hn : ∀ x ∈ h, x.1.isGo = false) :
    (updateStatus onAction payload').Follows (MayAsk (.callback onAction payload)) (fun _ _ => True) h := by
  unfold updateStatus
  dsimp only
  rw [hp.transaction, hp.status, hp.issued]
  split
  · rename_i action status hs
    refine Prog.follows_call (.called hs h) fun upserted => ?_
    by_cases hi : reportsIssued onAction payload = true
    · rw [if_pos hi]
      refine ⟨.go hi ?_, fun _ => trivial⟩
      intro x hx
      rcases List.mem_cons.1 hx with rfl | hx
      · rfl
      · exact hn x hx
    · rw [if_neg hi]
      trivial
  · trivial

/-- What a callback does after the enrichment. -/
private theorem handled_follows {onAction : String} {payload payload' : Fields}
    (hp : SameCallback onAction payload payload') {h : History} (hn : ∀ x ∈ h, x.1.isGo = false) :
    (do saveCallback onAction payload'
        updateStatus onAction payload'
        let _ ← publish (trimPrefix onAction "on_") (transactionID payload') payload'
        return .ok [] : Task (Except String Fields)).Follows (MayAsk (.callback onAction payload))
      (fun _ _ => True) h := by
  refine Prog.Follows.bind (follows_of_free (saveCallback_asks (apart (free_local _)) _ _) (fun _ ho => ho.2.1) hn)
    fun h₁ _ hn₁ => ?_
  refine Prog.Follows.bind (updateStatus_follows hp hn₁) fun h₂ _ _ => ?_
  refine Prog.Follows.bind
    (follows_of_free (q := fun _ => false) (publish_asks (redis (free_local _)) _ _ _) (fun _ _ => rfl) ?_) ?_
  · intro x _
    rfl
  · intro h₃ _ _
    trivial

private theorem enrich_follows (s : ClientService) (payload : Fields) :
    (enrich s payload).Follows (MayAsk (.callback "on_init" payload))
      (fun h payload' => (∀ x ∈ h, x.1.isGo = false) ∧ transactionID payload' = transactionID payload) [] := by
  refine Prog.follows_call (.called rfl []) fun upserted => ?_
  refine Prog.Follows.bind (follows_of_free (q := Op.isGo)
    (callIONCreateCheckout_asks (fun _ => free_local _ _ rfl) (free_quiet _ _ rfl)) (fun _ ho => ho.2.1) ?_) fun h co hh => ?_
  · intro x hx
    rcases List.mem_cons.1 hx with rfl | hx
    · rfl
    · cases hx
  · cases co with
    | error err => exact ⟨hh, rfl⟩
    | ok co =>
      refine Prog.follows_call (.quiet _ _ rfl) fun stored => ⟨?_, transactionID_inject ..⟩
      intro x hx
      rcases List.mem_cons.1 hx with rfl | hx
      · rfl
      · exact hh x hx

private theorem handleCallback_follows (s : ClientService) (onAction : String) (payload : Fields) :
    (handleCallback s onAction payload).Follows (MayAsk (.callback onAction payload)) (fun _ _ => True) [] := by
  unfold handleCallback
  by_cases hon : onAction = "on_init" ∧ transactionID payload ≠ ""
  · rw [if_pos hon]
    obtain ⟨rfl, -⟩ := hon
    refine Prog.Follows.bind (enrich_follows s payload) fun h payload' hp => ?_
    exact handled_follows ⟨hp.2, rfl, rfl⟩ hp.1
  · rw [if_neg hon]
    exact handled_follows ⟨rfl, rfl, rfl⟩ (by simp)

private theorem sendReconcile_follows (txnID : String) :
    (sendReconcile txnID).Follows (MayAsk (.sendReconcile txnID)) (fun _ _ => True) [] := by
  refine Prog.follows_call (.quiet _ _ rfl) fun row => ?_
  refine Prog.Follows.bind (follows_of_free (q := Op.isReconcile) (reconcileAmount_asks (apart (free_local _)) txnID _)
    (fun _ ho => ho.2.2) ?_) fun h amount hh => ?_
  · intro x hx
    rcases List.mem_cons.1 hx with rfl | hx
    · rfl
    · cases hx
  · refine Prog.follows_call (.quiet _ _ rfl) fun msgID => ?_
    refine Prog.follows_call (.quiet _ _ rfl) fun now => ?_
    refine Prog.follows_call (.reconciling ..) fun upserted => ?_
    refine Prog.follows_call (.reconcile (transactionID_reconcilePayload ..) ?_) fun _ => trivial
    intro x hx
    rcases List.mem_cons.1 hx with rfl | hx
    · rfl
    · rcases List.mem_cons.1 hx with rfl | hx
      · rfl
      · rcases List.mem_cons.1 hx with rfl | hx
        · rfl
        · exact hh x hx

theorem handler_follows (s : ClientService) (r : Request) :
    (handler s r).Follows (MayAsk r) (fun _ _ => True) [] := by
  cases r with
  | search query =>
    exact follows_free ⟨free_quiet _ _ rfl, fun _ => ⟨free_quiet _ _ rfl, fun _ => ⟨free_quiet _ _ rfl, fun _ =>
      ⟨free_record rfl _, fun _ => forwardAndWait_asks (free_local _) (free_forward rfl _) s⟩⟩⟩⟩
  | select req =>
    exact follows_free (form_asks (free_local _) (fun context _ => selectPayload context req)
      (free_record rfl) (fun _ _ _ => free_forward rfl _) s req)
  | init req =>
    exact follows_free (form_asks (free_local _) (fun context txnID => initPayload context txnID req)
      (free_record rfl) (fun _ _ _ => free_forward rfl _) s req)
  | confirm req =>
    exact follows_free (confirm_asks (free_local _) (free_record rfl) (fun _ _ _ => free_forward rfl _) s)
  | requestStatus txnID =>
    exact follows_free ⟨free_quiet _ _ rfl, fun _ => ⟨free_quiet _ _ rfl, fun _ =>
      forwardAndWait_asks (free_local _) (free_forward rfl _) s⟩⟩
  | cancel txnID =>
    exact follows_free ⟨free_quiet _ _ rfl, fun _ => ⟨free_quiet _ _ rfl, fun _ =>
      ⟨free_record rfl _, fun _ => forwardAndWait_asks (free_local _) (free_forward rfl _) s⟩⟩⟩
  | rate req =>
    exact follows_free (unrecorded_asks (free_local _) (fun context txnID => ratePayload context txnID req)
      (fun _ _ _ => free_forward rfl _) s req)
  | support req =>
    exact follows_free (unrecorded_asks (free_local _) (fun context txnID => supportPayload context txnID req)
      (fun _ _ _ => free_forward rfl _) s req)
  | paymentReceived txnID =>
    exact follows_free (notifyPaymentReceived_asks (apart (free_local _)) (fun _ => free_quiet _ _ rfl) txnID)
  | callback onAction payload => exact handleCallback_follows s onAction payload
  | sendReconcile txnID => exact sendReconcile_follows txnID

end

/-- The methods of the BAP follow the protocol. -/
def protocol (s : ClientService) : Protocol (machine s) where
  asks := MayAsk
  returns _ _ _ := True
  follows := handler_follows s

end IonInsurance.Bap
