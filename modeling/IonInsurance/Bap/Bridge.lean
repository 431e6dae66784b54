import IonInsurance.Bap.Protocol

/-!
# The bridge from callbacks to waiting requests

`forwardAndWait` registers a key, posts the message, subscribes to a channel and receives from it; `HandleCallback`
checks the key, publishes on the channel and deletes the key.  `Bridge` is the protocol of these commands, `Stage` the
history of a program that follows it, and `MailStep` what a command does to a subscription.
-/

namespace IonInsurance.Bap

open Interleave

/-- The operation is one of `forwardAndWait`. -/
def Op.awaits : Op → Bool
  | .post peer _ _ => peer = .onixBAPCaller
  | .setPending _ | .subscribe _ | .receive _ | .close _ => true
  | _ => false

/-- The operation publishes. -/
def Op.publishes : Op → Bool
  | .publish .. => true
  | _ => false

/-- The program is not in `forwardAndWait` yet. -/
def Outside (h : History) : Prop := ∀ x ∈ h, x.1.awaits = false

/-- The body that a callback publishes: its payload, which the checkout of an `on_init` may have enriched. -/
def Delivers (onAction : String) (payload body : Fields) : Prop :=
  body = payload ∨ onAction = "on_init" ∧ ∃ extra, body = injectIntoConsiderationAttributes payload extra

theorem Delivers.transaction {onAction : String} {payload body : Fields} (h : Delivers onAction payload body) :
    transactionID body = transactionID payload := by
  rcases h with rfl | ⟨-, extra, rfl⟩
  · rfl
  · exact transactionID_inject payload extra

/-- The history of a program whose key has been registered. -/
def registered (action txnID : String) (h : History) : History :=
  ⟨.setPending (pendingKey action txnID), (.ok () : Except String Unit)⟩ :: h

/-- The history of a program whose message has been posted. -/
def posted (action : String) (payload : Fields) (reply : Reply) (h : History) : History :=
  ⟨.post .onixBAPCaller action payload, reply⟩ :: registered action (transactionID payload) h

/-- The history of a program that has subscribed to the channel of its message. -/
def subscribed (action : String) (payload : Fields) (reply : Reply) (n : Nat) (h : History) : History :=
  ⟨.subscribe (callbackChannel action (transactionID payload)), n⟩ :: posted action payload reply h

/-- The operations of the bridge, in the order in which a program may ask them. -/
inductive Bridges : Request → History → Op → Prop where
  | other (r : Request) {h : History} (hh : Outside h) {o : Op} (ho : o.awaits = false) (hp : o.publishes = false) :
      Bridges r h o
  | register {r : Request} {action : String} (hr : r.forwards = some action) (txnID : String) {h : History}
      (hh : Outside h) : Bridges r h (.setPending (pendingKey action txnID))
  | post {r : Request} {action : String} (hr : r.forwards = some action) (payload : Fields) {h : History}
      (hh : Outside h) : Bridges r (registered action (transactionID payload) h) (.post .onixBAPCaller action payload)
  | subscribe {r : Request} {action : String} (hr : r.forwards = some action) (payload : Fields) (reply : Reply)
      {h : History} (hh : Outside h) :
      Bridges r (posted action payload reply h) (.subscribe (callbackChannel action (transactionID payload)))
  | receive {r : Request} {action : String} (hr : r.forwards = some action) (payload : Fields) (reply : Reply) (n : Nat)
      {h : History} (hh : Outside h) : Bridges r (subscribed action payload reply n h) (.receive n)
  | close {r : Request} {action : String} (hr : r.forwards = some action) (payload : Fields) (reply : Reply) (n : Nat)
      (msg : Option Fields) {h : History} (hh : Outside h) :
      Bridges r (⟨.receive n, msg⟩ :: subscribed action payload reply n h) (.close n)
  | publish {onAction : String} {payload body : Fields} (hb : Delivers onAction payload body) {h : History}
      (hh : Outside h)
      (hkey : ⟨.existsPending (pendingKey (trimPrefix onAction "on_") (transactionID payload)),
        (.ok true : Except String Bool)⟩ ∈ h) :
      Bridges (.callback onAction payload) h
        (.publish (callbackChannel (trimPrefix onAction "on_") (transactionID payload)) body)

/-- The program has forwarded `payload` as `action`. -/
def Forwarded (h : History) (action : String) (payload : Fields) : Prop :=
  ∃ reply : Reply, ⟨.post .onixBAPCaller action payload, reply⟩ ∈ h

/-- `forwardAndWait` of `payload` as `action` has received `body`. -/
def Awaited (h : History) (action : String) (payload body : Fields) : Prop :=
  Forwarded h action payload ∧ ∃ n, ⟨.receive n, some body⟩ ∈ h

/-- What a method returns when its `forwardAndWait` returns `body`: the body, which `Confirm` first checks for an
error. -/
def methodResult (action : String) (body : Fields) : Except String Fields :=
  if action = "confirm" then confirmResult body else .ok body

/-- What a program that returns has done: whoever subscribed has received, a request that returns a body has received
it, and a request that has received a body returns what its method makes of it. -/
structure Waited (r : Request) (h : History) (result : Except String Fields) : Prop where
  received : ∀ channel n, ⟨.subscribe channel, n⟩ ∈ h → ∃ msg : Option Fields, ⟨.receive n, msg⟩ ∈ h
  awaited : ∀ action body, r.forwards = some action → result = .ok body → ∃ payload, Awaited h action payload body
  returned : ∀ action n body, r.forwards = some action → ⟨.receive n, some body⟩ ∈ h → result = methodResult action body

/-! ### The programs follow the protocol of the bridge -/

section

variable {r : Request} {h : History}

theorem outside_nil : Outside [] := fun _ hx => absurd hx List.not_mem_nil

theorem Outside.cons {o : Op} (hh : Outside h) (ho : o.awaits = false) (a : o.Ans) : Outside (⟨o, a⟩ :: h) := by
  intro x hx
  rcases List.mem_cons.1 hx with rfl | hx
  · exact ho
  · exact hh x hx

theorem Outside.not_mem {o : Op} (hh : Outside h) (ho : o.awaits = true) (a : o.Ans) : ⟨o, a⟩ ∉ h := by
  intro hx
  have hout := hh _ hx
  rw [ho] at hout
  cases hout

/-- A program that has posted its message has waited for nothing else. -/
theorem not_mem_posted {o : Op} {a : o.Ans} {action : String} {payload : Fields} {reply : Reply} (hh : Outside h)
    (ho : o.awaits = true) (hpost : o ≠ .post .onixBAPCaller action payload)
    (hkey : o ≠ .setPending (pendingKey action (transactionID payload))) :
    ⟨o, a⟩ ∉ posted action payload reply h := by
  intro hx
  rcases List.mem_cons.1 hx with hx | hx
  · exact hpost (congrArg Sigma.fst hx)
  · rcases List.mem_cons.1 hx with hx | hx
    · exact hkey (congrArg Sigma.fst hx)
    · exact hh.not_mem ho _ hx

theorem receive_not_mem_posted {action : String} {payload : Fields} {reply : Reply} (hh : Outside h) (n : Nat)
    (msg : Option Fields) : ⟨.receive n, msg⟩ ∉ posted action payload reply h :=
  not_mem_posted hh rfl nofun nofun

/-- A program that has posted its message has not subscribed yet. -/
theorem subscribe_not_mem_posted {action : String} {payload : Fields} {reply : Reply} (hh : Outside h)
    (channel : String) (n : Nat) : ⟨.subscribe channel, n⟩ ∉ posted action payload reply h :=
  not_mem_posted hh rfl nofun nofun

/-- The operation is no step of the bridge, except that it may check or delete a key. -/
def Op.Outer (o : Op) : Prop := o.awaits = false ∧ o.publishes = false

private theorem outer_plain (o : Op) (hl : o.isLocal = true) (hr : o.isRedis = false) : o.Outer := by
  cases o with
  | upsertTransaction | goSendReconcile | post => cases hl
  | setPending | subscribe | receive | close | existsPending | publish | deletePending => cases hr
  | _ => exact ⟨rfl, rfl⟩

/-- A program that keeps off the bridge is outside of it when it ends. -/
private theorem outside_follows {α : Type} {p : Task α} (hp : p.Asks Op.Outer) (hh : Outside h) :
    p.Follows (Bridges r) (fun h _ => Outside h) h :=
  hp.follows (J := Outside) (fun _ _ hJ ho => .other r hJ ho.1 ho.2) (fun _ _ a hJ ho => hJ.cons ho.1 a) hh

/-- The end of `forwardAndWait`: it returns the body that it has received. -/
structure Ended (action : String) (payload : Fields) (h : History) (result : Except String Fields) : Prop where
  received : ∀ channel n, ⟨.subscribe channel, n⟩ ∈ h → ∃ msg : Option Fields, ⟨.receive n, msg⟩ ∈ h
  awaited : ∀ body, result = .ok body → Awaited h action payload body
  returned : ∀ n body, ⟨.receive n, some body⟩ ∈ h → result = .ok body

private theorem ended_error {action : String} {payload : Fields} {err : String}
    (hn : ∀ channel n, ⟨.subscribe channel, n⟩ ∉ h) (hm : ∀ (n : Nat) (msg : Option Fields), ⟨.receive n, msg⟩ ∉ h) :
    Ended action payload h (.error err) :=
  ⟨fun channel n hx => absurd hx (hn channel n), nofun, fun n _ hx => absurd hx (hm n _)⟩

theorem forwardAndWait_follows {action : String} (hr : r.forwards = some action) (s : ClientService) (payload : Fields)
    (hh : Outside h) : (forwardAndWait s action payload).Follows (Bridges r) (Ended action payload) h := by
  refine Prog.follows_call (.register hr _ hh) fun key => ?_
  change Except String Unit at key
  cases key with
  | error err =>
    refine ended_error (fun channel n hx => ?_) fun n msg hx => ?_
    · rcases List.mem_cons.1 hx with hx | hx
      · cases hx
      · exact hh.not_mem rfl _ hx
    · rcases List.mem_cons.1 hx with hx | hx
      · cases hx
      · exact hh.not_mem rfl _ hx
  | ok _ =>
    -- whatever the reply, the message has been posted once
    refine Prog.Follows.bind (C := fun h' result => ∃ reply, h' = posted action payload reply h) ?_
      fun h' sent hsent => ?_
    · refine Prog.follows_call (.post hr payload hh) fun reply => ?_
      change Reply at reply
      cases reply with
      | failed err => exact ⟨_, rfl⟩
      | response status body json =>
        change Prog.Follows _ _ (if status ≥ 400 then _ else _) _
        split <;> exact ⟨_, rfl⟩
    · obtain ⟨reply, rfl⟩ := hsent
      cases sent with
      | error err =>
        exact ended_error (fun channel n => subscribe_not_mem_posted hh channel n)
          (fun n msg => receive_not_mem_posted hh n msg)
      | ok _ =>
        refine Prog.follows_call (.subscribe hr payload reply hh) fun n => ?_
        refine Prog.follows_call (.receive hr payload reply n hh) fun msg => ?_
        refine Prog.follows_call (.close hr payload reply n msg hh) fun _ => ?_
        change Option Fields at msg
        have hreceive : (⟨.receive n, msg⟩ : Exchange) ∈
            ⟨.close n, ()⟩ :: ⟨.receive n, msg⟩ :: subscribed action payload reply n h :=
          List.mem_cons_of_mem _ List.mem_cons_self
        -- the program has subscribed once, so what it received came from that subscription
        have hreceived : ∀ channel n', ⟨.subscribe channel, n'⟩ ∈
            (⟨.close n, ()⟩ :: ⟨.receive n, msg⟩ :: subscribed action payload reply n h : History) → n' = n := by
          intro channel n' hx
          rcases List.mem_cons.1 hx with hx | hx
          · cases hx
          · rcases List.mem_cons.1 hx with hx | hx
            · cases hx
            · rcases List.mem_cons.1 hx with hx | hx
              · cases hx
                rfl
              · exact absurd hx (subscribe_not_mem_posted hh channel n')
        -- and it has received once
        have honce : ∀ (n' : Nat) (msg' : Option Fields), ⟨.receive n', msg'⟩ ∈
            (⟨.close n, ()⟩ :: ⟨.receive n, msg⟩ :: subscribed action payload reply n h : History) → msg' = msg := by
          intro n' msg' hx
          rcases List.mem_cons.1 hx with hx | hx
          · cases hx
          · rcases List.mem_cons.1 hx with hx | hx
            · cases hx
              rfl
            · rcases List.mem_cons.1 hx with hx | hx
              · cases hx
              · exact absurd hx (receive_not_mem_posted hh n' msg')
        cases msg with
        | none =>
          exact ⟨fun channel n' hx => ⟨none, hreceived channel n' hx ▸ hreceive⟩, nofun,
            fun n' body hx => nomatch honce n' _ hx⟩
        | some body =>
          refine ⟨fun channel n' hx => ⟨some body, hreceived channel n' hx ▸ hreceive⟩, fun body' hb => ?_,
            fun n' body' hx => congrArg Except.ok (Option.some.inj (honce n' _ hx)).symm⟩
          obtain rfl := Except.ok.inj hb
          refine ⟨⟨reply, ?_⟩, n, hreceive⟩
          exact List.mem_cons_of_mem _ (List.mem_cons_of_mem _ (List.mem_cons_of_mem _ List.mem_cons_self))

private theorem record_ended {action : String} (hr : r.forwards = some action) (s : ClientService)
    (txnID status : String) (payload : Fields) (hh : Outside h) :
    (recordAndForward s txnID action status payload).Follows (Bridges r) (Ended action payload) h :=
  Prog.follows_call (.other r hh rfl rfl) fun upserted => forwardAndWait_follows hr s payload (hh.cons rfl upserted)

/-- Every method but `Confirm` ends with `forwardAndWait`. -/
private theorem Ended.waited {action : String} {payload : Fields} {result : Except String Fields}
    (hr : r.forwards = some action) (hne : action ≠ "confirm") (hend : Ended action payload h result) :
    Waited r h result := by
  refine ⟨hend.received, fun action' body hr' hb => ?_, fun action' n body hr' hx => ?_⟩
  · obtain rfl := Option.some.inj (hr.symm.trans hr')
    exact ⟨payload, hend.awaited body hb⟩
  · obtain rfl := Option.some.inj (hr.symm.trans hr')
    rw [hend.returned n body hx, methodResult, if_neg hne]

private theorem forward_waited {action : String} (hr : r.forwards = some action) (hne : action ≠ "confirm")
    (s : ClientService) (payload : Fields) (hh : Outside h) :
    (forwardAndWait s action payload).Follows (Bridges r) (Waited r) h :=
  (forwardAndWait_follows hr s payload hh).mono fun _ _ hend => hend.waited hr hne

private theorem record_waited {action : String} (hr : r.forwards = some action) (hne : action ≠ "confirm")
    (s : ClientService) (txnID status : String) (payload : Fields) (hh : Outside h) :
    (recordAndForward s txnID action status payload).Follows (Bridges r) (Waited r) h :=
  (record_ended hr s txnID status payload hh).mono fun _ _ hend => hend.waited hr hne

/-- A form is forwarded after its ids and its context have been made. -/
private theorem form_waited (action : String) (p : String → Json → Task (Except String Fields))
    (hp : ∀ txnID context h, Outside h → (p txnID context).Follows (Bridges r) (Waited r) h) (req : Fields) :
    (do let (txnID, msgID) ← extractOrNew req
        let context ← buildContext action txnID msgID
        p txnID context : Task (Except String Fields)).Follows (Bridges r) (Waited r) [] := by
  refine Prog.Follows.bind (outside_follows (extractOrNew_asks outer_plain req) outside_nil)
    fun h (txnID, msgID) hh => ?_
  exact Prog.follows_call (.other r hh rfl rfl) fun now => hp _ _ _ (hh.cons rfl now)

private theorem confirm_waited (s : ClientService) (req : Fields) :
    (confirm s req).Follows (Bridges (.confirm req)) (Waited (.confirm req)) [] := by
  refine Prog.Follows.bind (outside_follows (extractOrNew_asks outer_plain req) outside_nil)
    fun h (txnID, msgID) hh => ?_
  dsimp only
  split
  · exact ⟨fun channel n hx => absurd hx (hh.not_mem rfl n), nofun, fun _ n _ _ hx => absurd hx (hh.not_mem rfl _)⟩
  · refine Prog.follows_call (.other _ hh rfl rfl) fun now => ?_
    refine Prog.Follows.bind (record_ended rfl s _ _ _ (hh.cons rfl now)) fun h' result hend => ?_
    cases result with
    | error err => exact ⟨hend.received, nofun, fun _ n body _ hx => nomatch hend.returned n body hx⟩
    | ok result =>
      refine ⟨hend.received, fun action body hr hb => ?_, fun action n body hr hx => ?_⟩
      · obtain rfl := Option.some.inj hr
        refine ⟨_, hend.awaited body ?_⟩
        -- an answer with an error is no result
        unfold confirmResult at hb
        split at hb
        · cases hb
        · exact hb
      · obtain rfl := Option.some.inj hr
        obtain rfl := Except.ok.inj (hend.returned n body hx)
        exact (if_pos rfl).symm

/-- A program that never enters the bridge. -/
private theorem waited_of_outside {result : Except String Fields} (hr : r.forwards = none) (hh : Outside h) :
    Waited r h result := by
  refine ⟨fun channel n hx => absurd hx (hh.not_mem rfl n), fun action body hr' => ?_, fun action n body hr' => ?_⟩
  · rw [hr] at hr'
    cases hr'
  · rw [hr] at hr'
    cases hr'

private theorem publish_follows {onAction : String} {payload body : Fields} (hb : Delivers onAction payload body)
    (hh : Outside h) : (publish (trimPrefix onAction "on_") (transactionID payload) body).Follows
      (Bridges (.callback onAction payload)) (fun h _ => Outside h) h := by
  refine Prog.follows_call (.other _ hh rfl rfl) fun exist => ?_
  have hh₁ := hh.cons (o := .existsPending _) rfl exist
  change Except String Bool at exist
  rcases exist with err | pending
  · exact hh₁
  · cases pending with
    | false => exact hh₁
    | true =>
      refine Prog.follows_call (.publish hb hh₁ List.mem_cons_self) fun n => ?_
      have hh₂ := hh₁.cons (o := .publish _ _) rfl n
      change Except String Nat at n
      cases n with
      | error err => exact hh₂
      | ok n => exact Prog.follows_call (.other _ hh₂ rfl rfl) fun deleted => hh₂.cons rfl deleted

private theorem enrich_delivers (s : ClientService) (payload : Fields) :
    (enrich s payload).Follows (Bridges (.callback "on_init" payload))
      (fun h body => Outside h ∧ Delivers "on_init" payload body) [] := by
  refine Prog.follows_call (.other _ outside_nil rfl rfl) fun upserted => ?_
  refine Prog.Follows.bind (outside_follows (callIONCreateCheckout_asks (fun _ => outer_plain _ rfl rfl) ⟨rfl, rfl⟩)
    (outside_nil.cons rfl upserted)) fun h co hh => ?_
  cases co with
  | error err => exact ⟨hh, .inl rfl⟩
  | ok co => exact Prog.follows_call (.other _ hh rfl rfl) fun stored => ⟨hh.cons rfl stored, .inr ⟨rfl, _, rfl⟩⟩

private theorem updateStatus_asks_outer (onAction : String) (payload : Fields) :
    (updateStatus onAction payload).Asks Op.Outer := by
  unfold updateStatus
  dsimp only
  split
  · refine ⟨⟨rfl, rfl⟩, fun upserted => ?_⟩
    dsimp only
    split
    · exact ⟨⟨rfl, rfl⟩, fun _ => trivial⟩
    · trivial
  · trivial

/-- What a callback does after the enrichment. -/
private theorem published_follows {onAction : String} {payload body : Fields} (hb : Delivers onAction payload body)
    (hh : Outside h) :
    (do saveCallback onAction body
        updateStatus onAction body
        let _ ← publish (trimPrefix onAction "on_") (transactionID body) body
        return .ok [] : Task (Except String Fields)).Follows (Bridges (.callback onAction payload))
      (Waited (.callback onAction payload)) h := by
  refine Prog.Follows.bind (outside_follows (saveCallback_asks outer_plain _ _) hh) fun h₁ _ hh₁ => ?_
  refine Prog.Follows.bind (outside_follows (updateStatus_asks_outer _ _) hh₁) fun h₂ _ hh₂ => ?_
  rw [hb.transaction]
  exact Prog.Follows.bind (publish_follows hb hh₂) fun h₃ _ hh₃ => waited_of_outside rfl hh₃

private theorem handleCallback_waited (s : ClientService) (onAction : String) (payload : Fields) :
    (handleCallback s onAction payload).Follows (Bridges (.callback onAction payload))
      (Waited (.callback onAction payload)) [] := by
  unfold handleCallback
  by_cases hon : onAction = "on_init" ∧ transactionID payload ≠ ""
  · rw [if_pos hon]
    obtain ⟨rfl, -⟩ := hon
    exact Prog.Follows.bind (enrich_delivers s payload) fun h body hb => published_follows hb.2 hb.1
  · rw [if_neg hon]
    exact published_follows (.inl rfl) outside_nil

private theorem sendReconcile_asks_outer (txnID : String) : (sendReconcile txnID).Asks Op.Outer := by
  refine ⟨⟨rfl, rfl⟩, fun row => ?_⟩
  refine (reconcileAmount_asks outer_plain _ _).bind fun amount => ?_
  exact ⟨⟨rfl, rfl⟩, fun msgID => ⟨⟨rfl, rfl⟩, fun now => ⟨⟨rfl, rfl⟩, fun _ => ⟨⟨rfl, rfl⟩, fun _ => trivial⟩⟩⟩⟩

theorem handler_waited (s : ClientService) (r : Request) : (handler s r).Follows (Bridges r) (Waited r) [] := by
  cases r with
  | search query =>
    refine Prog.follows_call (.other _ outside_nil rfl rfl) fun txnID => ?_
    have h₁ := outside_nil.cons (o := .newUUID) rfl txnID
    refine Prog.follows_call (.other _ h₁ rfl rfl) fun msgID => ?_
    have h₂ := h₁.cons (o := .newUUID) rfl msgID
    exact Prog.follows_call (.other _ h₂ rfl rfl) fun now => record_waited rfl (by decide) s _ _ _ (h₂.cons rfl now)
  | select req =>
    exact form_waited "select"
      (fun txnID context => recordAndForward s txnID "select" "SELECT_SENT" (selectPayload context req))
      (fun _ _ _ hh => record_waited rfl (by decide) s _ _ _ hh) req
  | init req =>
    exact form_waited "init"
      (fun txnID context => recordAndForward s txnID "init" "INIT_SENT" (initPayload context txnID req))
      (fun _ _ _ hh => record_waited rfl (by decide) s _ _ _ hh) req
  | confirm req => exact confirm_waited s req
  | requestStatus txnID =>
    refine Prog.follows_call (.other _ outside_nil rfl rfl) fun msgID => ?_
    have h₁ := outside_nil.cons (o := .newUUID) rfl msgID
    exact Prog.follows_call (.other _ h₁ rfl rfl) fun now => forward_waited rfl (by decide) s _ (h₁.cons rfl now)
  | cancel txnID =>
    refine Prog.follows_call (.other _ outside_nil rfl rfl) fun msgID => ?_
    have h₁ := outside_nil.cons (o := .newUUID) rfl msgID
    exact Prog.follows_call (.other _ h₁ rfl rfl) fun now => record_waited rfl (by decide) s _ _ _ (h₁.cons rfl now)
  | rate req =>
    exact form_waited "rate" (fun txnID context => forwardAndWait s "rate" (ratePayload context txnID req))
      (fun _ _ _ hh => forward_waited rfl (by decide) s _ hh) req
  | support req =>
    exact form_waited "support" (fun txnID context => forwardAndWait s "support" (supportPayload context txnID req))
      (fun _ _ _ hh => forward_waited rfl (by decide) s _ hh) req
  | paymentReceived txnID =>
    exact (outside_follows (notifyPaymentReceived_asks outer_plain (fun _ => ⟨rfl, rfl⟩) txnID) outside_nil).mono
      fun _ _ hh => waited_of_outside rfl hh
  | callback onAction payload => exact handleCallback_waited s onAction payload
  | sendReconcile txnID =>
    exact (outside_follows (sendReconcile_asks_outer txnID) outside_nil).mono fun _ _ hh => waited_of_outside rfl hh

end

/-! ### How far a program has got -/

section

variable {r : Request} {h : History}

/-- How far a program has got in `forwardAndWait`. -/
inductive Stage (r : Request) : History → Prop where
  | outside {h : History} (hh : Outside h) : Stage r h
  | registered {action : String} (hr : r.forwards = some action) (txnID : String) (answer : Except String Unit)
      {h : History} (hh : Outside h) : Stage r (⟨.setPending (pendingKey action txnID), answer⟩ :: h)
  | posted {action : String} (hr : r.forwards = some action) (payload : Fields) (reply : Reply) {h : History}
      (hh : Outside h) : Stage r (posted action payload reply h)
  | subscribed {action : String} (hr : r.forwards = some action) (payload : Fields) (reply : Reply) (n : Nat)
      {h : History} (hh : Outside h) (rest : History) (hrest : ∀ x ∈ rest, x.1 = .receive n ∨ x.1 = .close n) :
      Stage r (rest ++ subscribed action payload reply n h)

theorem Bridges.stage {o : Op} (ho : Bridges r h o) (a : o.Ans) : Stage r (⟨o, a⟩ :: h) := by
  cases ho with
  | other _ hh ho => exact .outside (hh.cons ho a)
  | register hr txnID hh => exact .registered hr txnID a hh
  | post hr payload hh => exact .posted hr payload a hh
  | subscribe hr payload reply hh => exact .subscribed hr payload reply a hh [] (by simp)
  | receive hr payload reply n hh => exact .subscribed hr payload reply n hh [⟨.receive n, a⟩] (by simp)
  | close hr payload reply n msg hh =>
    exact .subscribed hr payload reply n hh [⟨.close n, a⟩, ⟨.receive n, msg⟩] (by simp)
  | publish hb hh hkey => exact .outside (hh.cons rfl a)

private theorem post_posted {action action' : String} {payload payload' : Fields} {reply reply' : Reply}
    (hh : Outside h)
    (hx : ⟨.post .onixBAPCaller action payload, reply⟩ ∈ posted action' payload' reply' h) :
    action = action' ∧ payload = payload' := by
  rcases List.mem_cons.1 hx with hx | hx
  · cases hx
    exact ⟨rfl, rfl⟩
  · rcases List.mem_cons.1 hx with hx | hx
    · cases hx
    · exact absurd hx (hh.not_mem rfl _)

/-- Whoever has forwarded a message and received has subscribed to the channel of the message. -/
theorem Stage.received (hs : Stage r h) {action : String} {payload : Fields} (hf : Forwarded h action payload) {n : Nat}
    {msg : Option Fields} (hx : ⟨.receive n, msg⟩ ∈ h) :
    r.forwards = some action ∧ ⟨.subscribe (callbackChannel action (transactionID payload)), n⟩ ∈ h := by
  obtain ⟨reply, hpost⟩ := hf
  cases hs with
  | outside hh => exact absurd hx (hh.not_mem rfl _)
  | registered hr txnID answer hh =>
    rcases List.mem_cons.1 hx with hx | hx
    · cases hx
    · exact absurd hx (hh.not_mem rfl _)
  | posted hr payload' reply' hh => exact absurd hx (receive_not_mem_posted hh n msg)
  | @subscribed action' hr payload' reply' n' _ hh _ hrest =>
    have hn : n = n' := by
      rcases List.mem_append.1 hx with hx | hx
      · rcases hrest _ hx with hrec | hclose
        · exact Op.receive.inj hrec
        · cases hclose
      · rcases List.mem_cons.1 hx with hx | hx
        · cases hx
        · exact absurd hx (receive_not_mem_posted hh n msg)
    have hsame : action = action' ∧ payload = payload' := by
      rcases List.mem_append.1 hpost with hpost | hpost
      · rcases hrest _ hpost with hrec | hclose
        · cases hrec
        · cases hclose
      · rcases List.mem_cons.1 hpost with hpost | hpost
        · cases hpost
        · exact post_posted hh hpost
    obtain ⟨rfl, rfl⟩ := hsame
    exact ⟨hr, List.mem_append_right _ (hn ▸ List.mem_cons_self)⟩

end

/-- The methods of the BAP follow the protocol of the bridge. -/
def bridge (s : ClientService) : Protocol (machine s) where
  asks := Bridges
  returns := Waited
  follows := handler_waited s

end IonInsurance.Bap
