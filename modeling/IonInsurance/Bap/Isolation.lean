import IonInsurance.Bap.Mailbox
import IonInsurance.Bap.Progress

/-!
# Callback isolation

The name of a channel determines its route and its transaction, since no route contains the separator; so what a
request receives was published by a callback of its own action and transaction, whatever else is going on.
-/

namespace IonInsurance.Bap

open Interleave

/-! ### Names of channels -/

/-- The callbacks that the BAP serves, under `/webhook`. -/
def webhooks : List String :=
  ["on_discover", "on_select", "on_init", "on_confirm", "on_status", "on_cancel", "on_rate", "on_support", "on_reconcile"]

/-- The separator of keys and channels does not occur. -/
def Plain (route : String) : Prop := '#' ∉ route.toList

instance (route : String) : Decidable (Plain route) := inferInstanceAs (Decidable ('#' ∉ route.toList))

/-- The part before the first separator. -/
private theorem before_inj {α : Type} {a : α} {x x' z z' : List α} (h : a ∉ x) (h' : a ∉ x')
    (heq : x ++ a :: z = x' ++ a :: z') : x = x' ∧ z = z' := by
  induction x generalizing x' with
  | nil =>
    cases x' with
    | nil => exact ⟨rfl, (List.cons.inj heq).2⟩
    | cons b x' =>
      obtain ⟨rfl, -⟩ := List.cons.inj heq
      exact absurd List.mem_cons_self h'
  | cons b x ih =>
    cases x' with
    | nil =>
      obtain ⟨rfl, -⟩ := List.cons.inj heq
      exact absurd List.mem_cons_self h
    | cons b' x' =>
      obtain ⟨rfl, htail⟩ := List.cons.inj heq
      obtain ⟨rfl, rfl⟩ := ih (fun hm => h (List.mem_cons_of_mem _ hm)) (fun hm => h' (List.mem_cons_of_mem _ hm)) htail
      exact ⟨rfl, rfl⟩

/-- A channel has one route and one transaction, even if the transaction contains the separator. -/
theorem callbackChannel_inj {route route' t t' : String} (h : Plain route) (h' : Plain route')
    (heq : callbackChannel route t = callbackChannel route' t') : route = route' ∧ t = t' := by
  have hlist := congrArg String.toList heq
  simp only [callbackChannel, String.toList_append, List.append_assoc] at hlist
  have htail : route.toList ++ '#' :: t.toList = route'.toList ++ '#' :: t'.toList := List.append_cancel_left hlist
  obtain ⟨hroute, ht⟩ := before_inj h h' htail
  exact ⟨String.toList_injective hroute, String.toList_injective ht⟩

theorem plain_forwards {r : Request} {action : String} (h : r.forwards = some action) : Plain action := by
  cases r with
  | paymentReceived | callback | sendReconcile => cases h
  | _ =>
    obtain rfl := Option.some.inj h
    decide +kernel

theorem webhook_route {onAction : String} (h : onAction ∈ webhooks) :
    Plain (trimPrefix onAction "on_") ∧ onAction = "on_" ++ trimPrefix onAction "on_" := by
  have hall : ∀ x ∈ webhooks, Plain (trimPrefix x "on_") ∧ x = "on_" ++ trimPrefix x "on_" := by decide +kernel
  exact hall onAction h

/-! ### What is published and received -/

section

variable {s : ClientService} {w : BapWorld}

/-- The body has been published on the channel. -/
def Published (w : BapWorld) (channel : String) (body : Fields) : Prop :=
  ∃ e, ∃ answer : Except String Nat, ⟨.publish channel body, answer⟩ ∈ w.exchanges e

theorem Published.asked {channel : String} {body : Fields} (h : Published w channel body) (d : Nat) (o : Op)
    (c : Choice) : Published ((machine s).asked w d o c) channel body := by
  obtain ⟨e, answer, hx⟩ := h
  exact ⟨e, answer, Machine.exchanges_subset _ _ _ _ _ _ hx⟩

/-- The messages in the inboxes, and those received from them, were published on the channel. -/
structure Mail (w : BapWorld) : Prop where
  inbox : ∀ (n : Nat) (x : Subscription), w.store.subscriptions[n]? = some x → ∀ body ∈ x.inbox,
    Published w x.channel body
  received : ∀ (d n : Nat) (body : Fields), ⟨.receive n, some body⟩ ∈ w.exchanges d →
    ∃ x, w.store.subscriptions[n]? = some x ∧ Published w x.channel body

private theorem Mail.asked (hw : Mail w) (d : Nat) (o : Op) (c : Choice) : Mail ((machine s).asked w d o c) := by
  constructor
  · intro n x hx body hb
    rcases (exec_mailStep o c w.store n).inbox hx hb with ⟨y, hy, hchannel, hold⟩ | rfl
    · rw [← hchannel]
      exact (hw.inbox n y hy body hold).asked d o c
    · refine ⟨d, (machine s).answer w (.publish x.channel body) c, ?_⟩
      rw [Machine.exchanges_asked_self]
      exact List.mem_cons_self
  · intro e n body hx
    have hkept : ∀ y, w.store.subscriptions[n]? = some y → Published w y.channel body →
        ∃ x, ((machine s).asked w d o c).store.subscriptions[n]? = some x ∧
          Published ((machine s).asked w d o c) x.channel body := by
      intro y hy hpub
      obtain ⟨x, hx, hchannel⟩ := (exec_mailStep o c w.store n).channel hy
      exact ⟨x, hx, hchannel ▸ hpub.asked d o c⟩
    rcases Machine.exchange_asked hx with hold | ⟨rfl, rfl, ha⟩
    · obtain ⟨y, hy, hpub⟩ := hw.received e n body hold
      exact hkept y hy hpub
    · obtain ⟨y, hy, hhead⟩ := receive_some ha.symm
      exact hkept y hy (hw.inbox n y hy body (List.mem_of_mem_head? hhead))

private theorem mail_keeps (s : ClientService) (K : BapWorld → Action Choice Request Op → Prop) :
    (bridge s).Keeps K Mail where
  start _ _ _ hw _ _ _ := ⟨hw.inbox, hw.received⟩
  exec _ _ _ _ _ hw _ _ _ := hw.asked _ _ _

end

/-! ### Isolation -/

/-- A callback of a run comes in at one of the routes. -/
def Routed (_ : BapWorld) : Action Choice Request Op → Prop
  | .start (.callback onAction _) => onAction ∈ webhooks
  | _ => True

section

variable {s : ClientService} {k : BapConfig}

private theorem routed_webhook (h : (machine s).Runs Routed start k) {e : Nat} {onAction : String} {payload : Fields}
    (hr : k.world.request? e = some (.callback onAction payload)) : onAction ∈ webhooks := by
  have hkeeps : (bridge s).Keeps Routed fun w =>
      ∀ e onAction payload, w.request? e = some (.callback onAction payload) → onAction ∈ webhooks := by
    constructor
    · intro w d r hw hK _ _ e onAction payload hr
      rcases World.request?_of_started hr with ⟨-, rfl⟩ | hr
      · exact hK
      · exact hw e onAction payload hr
    · intro w d r o c hw _ _ _
      exact hw
  refine Protocol.invariant hkeeps (Protocol.Obeyed.init _) ?_ h e onAction payload hr
  intro e onAction payload hr
  cases hr

/-- Whatever is published comes from a callback, on the channel of its route and its transaction. -/
theorem Published.callback (h : (machine s).Runs Routed start k) {channel : String} {body : Fields}
    (hp : Published k.world channel body) :
    ∃ e onAction payload, k.world.request? e = some (.callback onAction payload) ∧ onAction ∈ webhooks ∧
      Delivers onAction payload body ∧
      channel = callbackChannel (trimPrefix onAction "on_") (transactionID payload) := by
  obtain ⟨e, answer, hx⟩ := hp
  obtain ⟨r, hr⟩ := (Protocol.Obeyed.run (Protocol.Obeyed.init (P := bridge s) _) h).requested hx
  have hS : ∀ ch body (answer : Except String Nat), ⟨.publish ch body, answer⟩ ∈ k.world.exchanges e →
      ∃ onAction payload, r = .callback onAction payload ∧ Delivers onAction payload body ∧
        ch = callbackChannel (trimPrefix onAction "on_") (transactionID payload) := by
    refine Protocol.history (P := bridge s) (S := fun r h => ∀ ch body (answer : Except String Nat),
      ⟨.publish ch body, answer⟩ ∈ h → ∃ onAction payload, r = .callback onAction payload ∧
        Delivers onAction payload body ∧ ch = callbackChannel (trimPrefix onAction "on_") (transactionID payload))
      ?_ ?_ h hr
    · intro r ch body answer hx
      cases hx
    · intro r h o a hold ho ch body answer hx
      rcases List.mem_cons.1 hx with hx | hx
      · obtain ⟨rfl, -⟩ := Sigma.mk.inj_iff.1 hx
        cases ho with
        | other _ _ _ hp => cases hp
        | publish hb => exact ⟨_, _, rfl, hb, rfl⟩
      · exact hold ch body answer hx
  obtain ⟨onAction, payload, rfl, hb, hchannel⟩ := hS channel body answer hx
  exact ⟨e, onAction, payload, hr, routed_webhook h hr, hb, hchannel⟩

end

/-- Whatever requests and callbacks run at the same time, a request receives what a callback of its own action and
transaction has published; and a request that answers with a body has received it. -/
theorem callback_isolation (s : ClientService) (k : BapConfig) (h : (machine s).Runs Routed start k) (d : Nat)
    (r : Request) (hr : k.world.request? d = some r) :
    (∀ action payload body, Awaited (k.world.exchanges d) action payload body →
      transactionID body = transactionID payload ∧
        ∃ e sent, k.world.request? e = some (.callback ("on_" ++ action) sent) ∧ Delivers ("on_" ++ action) sent body) ∧
    ∀ action body, r.forwards = some action → k.progs[d]? = some (.ret (.ok body)) →
      ∃ payload, Awaited (k.world.exchanges d) action payload body := by
  have hobeyed : (bridge s).Obeyed k := Protocol.Obeyed.run (Protocol.Obeyed.init _) h
  constructor
  · rintro action payload body ⟨hforward, n, hreceive⟩
    have hstage : Stage r (k.world.exchanges d) :=
      Protocol.history (P := bridge s) (fun _ => .outside outside_nil) (fun _ _ _ a _ ho => ho.stage a) h hr
    obtain ⟨haction, hsubscribe⟩ := hstage.received hforward hreceive
    -- the subscription it received from is the one it made
    have hnumbered : Numbered k.world :=
      Protocol.invariant (numbered_keeps s _) (Protocol.Obeyed.init _) (numbered_empty _) h
    have hmail : Mail k.world := by
      refine Protocol.invariant (mail_keeps s _) (Protocol.Obeyed.init _) ⟨?_, ?_⟩ h
      · intro n x hx
        cases hx
      · intro d n body hx
        cases hx
    obtain ⟨x, hx, hchannel⟩ := hnumbered.channel d _ n hsubscribe
    obtain ⟨y, hy, hpub⟩ := hmail.received d n body hreceive
    obtain rfl := Option.some.inj (hx.symm.trans hy)
    rw [hchannel] at hpub
    obtain ⟨e, onAction, sent, he, hroute, hb, heq⟩ := hpub.callback h
    -- and its channel is that of the callback
    obtain ⟨hplain, hon⟩ := webhook_route hroute
    obtain ⟨rfl, ht⟩ := callbackChannel_inj (plain_forwards haction) hplain heq
    rw [← hon]
    exact ⟨hb.transaction.trans ht.symm, e, sent, he, hb⟩
  · intro action body haction hret
    obtain ⟨r', hr', hf⟩ := hobeyed.prog d _ hret
    obtain rfl := Option.some.inj (hr.symm.trans hr')
    have hwaited : Waited r (k.world.exchanges d) (.ok body) := hf
    exact hwaited.awaited action body haction rfl

/-- A message with a context only. -/
def contextOnly (txnID : String) : Fields := [("context", .obj [("transaction_id", .str txnID)])]

/-- The first `m` steps of a select of `t`, which is program 0. -/
def selecting (t : String) (m : Nat) : List (Machine.Label Choice Request) :=
  .start (.select [("transaction_id", .str t)]) :: .replicate m (.exec 0 {})

/-- The first `m` steps of the callback of `t`, which is program 1. -/
def answering (t : String) (m : Nat) : List (Machine.Label Choice Request) :=
  .start (.callback "on_select" (contextOnly t)) :: .replicate m (.exec 1 {})

/-- The configuration after a schedule. -/
def ran (k : BapConfig) (ls : List (Machine.Label Choice Request)) : BapConfig :=
  ((machine {}).run? (fun _ _ => true) k ls).getD start

private def routedTest (_ : BapWorld) : Action Choice Request Op → Bool
  | .start (.callback onAction _) => webhooks.contains onAction
  | _ => true

private theorem routed_of_test (w : BapWorld) (a : Action Choice Request Op) (h : routedTest w a = true) :
    Routed w a := by
  cases a with
  | start r =>
    cases r with
    | callback onAction payload => exact List.contains_iff_mem.1 h
    | _ => trivial
  | exec d o c => trivial

/-- A select of a transaction whose id contains the separator. -/
theorem callback_isolation_select : ∃ k payload body, (machine {}).Runs Routed start k ∧
    Awaited (k.world.exchanges 0) "select" payload body ∧ transactionID body = transactionID payload := by
  let schedule := selecting "init#t" 6 ++ answering "init#t" 5 ++ .replicate 2 (.exec 0 {})
  have hrun : (machine {}).run? routedTest start schedule = some (ran start schedule) := rfl
  have h : (machine {}).Runs Routed start (ran start schedule) := (Machine.run?_runs hrun).mono routed_of_test
  obtain ⟨payload, hawaited⟩ := (callback_isolation {} _ h 0 _ rfl).2 _ (contextOnly "init#t") rfl rfl
  exact ⟨_, payload, _, h, hawaited, ((callback_isolation {} _ h 0 _ rfl).1 _ _ _ hawaited).1⟩

end IonInsurance.Bap
