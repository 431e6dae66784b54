import IonInsurance.Bap.Isolation

/-!
# Which callbacks reach their request

The key is registered before the message is posted, but the channel is subscribed to after it.  A callback that is
published in between finds the key, reports success, and reaches nobody.
-/

namespace IonInsurance.Bap

open Interleave

/-- Program `d` receives before its time is up if there is something to receive, and nothing else is published on the
channel. -/
def Undisturbed (channel : String) (d : Nat) (w : BapWorld) : Action Choice Request Op → Prop
  | .exec _ (.publish channel' _) _ => channel' ≠ channel
  | .exec e (.receive n) c => e = d → c.timeout = true → ∀ x, w.store.subscriptions[n]? = some x → x.inbox = []
  | _ => True

/-- Program `e` publishes `body`, and Redis reports success. -/
def Publishes (s : ClientService) (k₁ k₂ : BapConfig) (e : Nat) (channel : String) (body : Fields) : Prop :=
  ∃ next c, k₁.progs[e]? = some (.ask (.publish channel body) next) ∧ c.redisError = none ∧
    k₂ = ⟨(machine s).asked k₁.world e (.publish channel body) c,
      k₁.progs.set e (next ((machine s).answer k₁.world (.publish channel body) c))⟩

/-- Program `d` has an active subscription to the channel. -/
def Listening (w : BapWorld) (channel : String) (d : Nat) : Prop :=
  ∃ (n : Nat) (x : Subscription), ⟨.subscribe channel, n⟩ ∈ w.exchanges d ∧
    w.store.subscriptions[n]? = some x ∧ x.active = true

section

variable {s : ClientService} {channel : String} {d : Nat} {w : BapWorld} {k₁ k₂ k₃ : BapConfig}

/-! ### Before the publication -/

/-- No subscription to the channel has a message. -/
private def Silent (channel : String) (w : BapWorld) : Prop :=
  ∀ (n : Nat) (x : Subscription), w.store.subscriptions[n]? = some x → x.channel = channel → x.inbox = []

private theorem silent_keeps (s : ClientService) (channel : String) (d : Nat) :
    (bridge s).Keeps (Undisturbed channel d) (Silent channel) where
  start _ _ _ hw _ _ _ := hw
  exec w d r o c hw hK _ _ := by
    intro n x' hx' hchannel
    refine List.eq_nil_iff_forall_not_mem.2 fun body hb => ?_
    rcases (exec_mailStep o c w.store n).inbox hx' hb with ⟨x, hx, hsame, hold⟩ | rfl
    · rw [hw n x hx (hsame.trans hchannel)] at hold
      cases hold
    · exact hK hchannel

/-! ### After a publication that the program has heard -/

/-- The message waits for program `d`, or the program has received it. -/
private structure Delivered (channel : String) (d n : Nat) (body : Fields) (w : BapWorld) : Prop where
  numbered : Numbered w
  subscribed : ⟨.subscribe channel, n⟩ ∈ w.exchanges d
  waiting : ⟨.receive n, some body⟩ ∈ w.exchanges d ∨
    (∃ x, w.store.subscriptions[n]? = some x ∧ x.channel = channel ∧ x.inbox = [body]) ∧
      ∀ msg : Option Fields, ⟨.receive n, msg⟩ ∉ w.exchanges d

private theorem delivered_keeps (s : ClientService) (channel : String) (d n : Nat) (body : Fields) :
    (bridge s).Keeps (Undisturbed channel d) (Delivered channel d n body) where
  start _ _ _ hw _ _ _ := ⟨⟨hw.numbered.channel, hw.numbered.owner, hw.numbered.receiver⟩, hw.subscribed, hw.waiting⟩
  exec w e r o c hw hK _ ho := by
    refine ⟨hw.numbered.asked ho c, Machine.exchanges_subset _ _ _ _ _ _ hw.subscribed, ?_⟩
    rcases hw.waiting with hreceived | ⟨⟨x, hx, hchannel, hinbox⟩, hnot⟩
    · exact .inl (Machine.exchanges_subset _ _ _ _ _ _ hreceived)
    · by_cases hreceive : o = .receive n
      · -- only program `d` receives from its subscription, and the message is there
        subst hreceive
        obtain ⟨channel', hsub⟩ := Bridges.receiver ho
        obtain rfl := hw.numbered.owner _ _ _ _ _ hsub hw.subscribed
        have htime : c.timeout = false := by
          cases hc : c.timeout with
          | false => rfl
          | true =>
            rw [hK rfl hc x hx] at hinbox
            cases hinbox
        have hanswer : (machine s).answer w (.receive n) c = some body := receive_head hx hinbox htime
        left
        rw [Machine.exchanges_asked_self, hanswer]
        exact List.mem_cons_self
      · have hpublish : ∀ body', o ≠ .publish x.channel body' := by
          rintro body' rfl
          exact hK hchannel
        obtain ⟨x', hx', hchannel', hinbox'⟩ := (exec_mailStep o c w.store n).untouched hx hreceive hpublish
        refine .inr ⟨⟨x', hx', hchannel'.trans hchannel, hinbox'.trans hinbox⟩, fun msg hmsg => ?_⟩
        rcases Machine.exchange_asked hmsg with hold | ⟨-, rfl, -⟩
        · exact hnot msg hold
        · exact hreceive rfl

/-! ### After a publication that the program has missed -/

/-- Program `d` has received nothing from the channel, and there is nothing to receive. -/
private structure Missed (channel : String) (d : Nat) (w : BapWorld) : Prop where
  numbered : Numbered w
  empty : ∀ n : Nat, ⟨.subscribe channel, n⟩ ∈ w.exchanges d → ∃ x, w.store.subscriptions[n]? = some x ∧ x.inbox = []
  nothing : ∀ (n : Nat) (body : Fields), ⟨.subscribe channel, n⟩ ∈ w.exchanges d →
    ⟨.receive n, some body⟩ ∉ w.exchanges d

private theorem missed_keeps (s : ClientService) (channel : String) (d : Nat) :
    (bridge s).Keeps (Undisturbed channel d) (Missed channel d) where
  start _ _ _ hw _ _ _ := ⟨⟨hw.numbered.channel, hw.numbered.owner, hw.numbered.receiver⟩, hw.empty, hw.nothing⟩
  exec w e r o c hw hK _ ho := by
    refine ⟨hw.numbered.asked ho c, ?_, ?_⟩
    · intro n hsub
      rcases Machine.exchange_asked hsub with hold | ⟨rfl, rfl, hn⟩
      · obtain ⟨x, hx, hinbox⟩ := hw.empty n hold
        obtain ⟨y, hy, hchannel⟩ := hw.numbered.channel d channel n hold
        obtain rfl := Option.some.inj (hx.symm.trans hy)
        obtain ⟨x', hx', hsame⟩ := (exec_mailStep o c w.store n).channel hx
        refine ⟨x', hx', List.eq_nil_iff_forall_not_mem.2 fun body hb => ?_⟩
        -- only a publication on the channel could fill the inbox
        rcases (exec_mailStep o c w.store n).inbox hx' hb with ⟨z, hz, -, hold⟩ | rfl
        · obtain rfl := Option.some.inj (hx.symm.trans hz)
          rw [hinbox] at hold
          cases hold
        · exact hK (hsame.trans hchannel)
      · obtain rfl := subscribe_answer hn
        exact ⟨_, List.getElem?_concat_length, rfl⟩
    · intro n body hsub hreceive
      rcases Machine.exchange_asked hreceive with hold | ⟨rfl, rfl, ha⟩
      · rcases Machine.exchange_asked hsub with hsub | ⟨rfl, rfl, hn⟩
        · exact hw.nothing n body hsub hold
        · -- a new subscription has a number from which nothing has been received
          obtain rfl := subscribe_answer hn
          obtain ⟨channel', hsub'⟩ := hw.numbered.receiver _ _ _ hold
          exact absurd (hw.numbered.lt hsub') (Nat.lt_irrefl _)
      · obtain ⟨x, hx, hhead⟩ := receive_some ha.symm
        rcases Machine.exchange_asked hsub with hsub | ⟨-, hop, -⟩
        · obtain ⟨y, hy, hinbox⟩ := hw.empty n hsub
          obtain rfl := Option.some.inj (hx.symm.trans hy)
          rw [hinbox] at hhead
          cases hhead
        · cases hop

/-! ### The publication -/

/-- The publication adds no exchange of `forwardAndWait`. -/
private theorem mem_of_published {e : Nat} {body : Fields} {c : Choice} {o : Op} {a : o.Ans} (ho : o.publishes = false)
    (hx : ⟨o, a⟩ ∈ ((machine s).asked w e (.publish channel body) c).exchanges d) : ⟨o, a⟩ ∈ w.exchanges d := by
  rcases Machine.exchange_asked hx with hold | ⟨-, rfl, -⟩
  · exact hold
  · cases ho

private theorem delivered_of_published {e n : Nat} {r : Request} {body : Fields} {c : Choice} {x : Subscription}
    (hw : Numbered w) (hsilent : Silent channel w) (ho : Bridges r (w.exchanges e) (.publish channel body))
    (hc : c.redisError = none) (hwait : ∀ (n : Nat) (msg : Option Fields), ⟨.receive n, msg⟩ ∉ w.exchanges d)
    (hsub : ⟨.subscribe channel, n⟩ ∈ w.exchanges d) (hx : w.store.subscriptions[n]? = some x)
    (hactive : x.active = true) : Delivered channel d n body ((machine s).asked w e (.publish channel body) c) := by
  obtain ⟨y, hy, hchannel⟩ := hw.channel d channel n hsub
  obtain rfl := Option.some.inj (hx.symm.trans hy)
  have hinbox := hsilent n x hx hchannel
  refine ⟨hw.asked ho c, Machine.exchanges_subset _ _ _ _ _ _ hsub, .inr ⟨?_, fun msg hmsg => ?_⟩⟩
  · refine ⟨{ x with inbox := x.inbox ++ [body] }, ?_, hchannel, by rw [hinbox, List.nil_append]⟩
    show (exec (.publish channel body) c w.store).2.subscriptions[n]? = _
    rw [subscriptions_publish, if_pos hc, hx, Option.map_some, if_pos]
    rw [hactive, Bool.true_and]
    exact decide_eq_true hchannel
  · exact hwait n msg (mem_of_published rfl hmsg)

private theorem missed_of_published {e : Nat} {r : Request} {body : Fields} {c : Choice} (hw : Numbered w)
    (hsilent : Silent channel w) (ho : Bridges r (w.exchanges e) (.publish channel body))
    (hwait : ∀ (n : Nat) (msg : Option Fields), ⟨.receive n, msg⟩ ∉ w.exchanges d) (hnot : ¬Listening w channel d) :
    Missed channel d ((machine s).asked w e (.publish channel body) c) := by
  refine ⟨hw.asked ho c, fun n hsub => ?_, fun n body' _ hreceive => hwait n _ (mem_of_published rfl hreceive)⟩
  have hsub' := mem_of_published rfl hsub
  obtain ⟨x, hx, hchannel⟩ := hw.channel d channel n hsub'
  refine ⟨x, ?_, hsilent n x hx hchannel⟩
  have hinactive : x.active = false := by
    cases hactive : x.active with
    | false => rfl
    | true => exact absurd ⟨n, x, hsub', hx, hactive⟩ hnot
  show (exec (.publish channel body) c w.store).2.subscriptions[n]? = _
  rw [subscriptions_publish, hx]
  split
  · rw [Option.map_some, hinactive, Bool.false_and, if_neg Bool.false_ne_true]
  · rfl

end

/-- A request that has not given up when a callback publishes, and has time to receive, receives the body of the callback
and returns it exactly if it has subscribed by then. -/
theorem published_returned_iff (s : ClientService) (action : String) (payload body : Fields) (d e : Nat)
    (k₁ k₂ k₃ : BapConfig)
    (h₁ : (machine s).Runs (Undisturbed (callbackChannel action (transactionID payload)) d) start k₁)
    (hwait : ∀ (n : Nat) (msg : Option Fields), ⟨.receive n, msg⟩ ∉ k₁.world.exchanges d)
    (hp : Publishes s k₁ k₂ e (callbackChannel action (transactionID payload)) body)
    (h₃ : (machine s).Runs (Undisturbed (callbackChannel action (transactionID payload)) d) k₂ k₃)
    (hf : Forwarded (k₃.world.exchanges d) action payload) (result : Except String Fields)
    (hd : k₃.progs[d]? = some (.ret result)) :
    (Awaited (k₃.world.exchanges d) action payload body ∧ result = methodResult action body) ↔
      Listening k₁.world (callbackChannel action (transactionID payload)) d := by
  generalize hchannel : callbackChannel action (transactionID payload) = channel at *
  have hobeyed₁ : (bridge s).Obeyed k₁ := Protocol.Obeyed.run (Protocol.Obeyed.init _) h₁
  have hnumbered : Numbered k₁.world :=
    Protocol.invariant (numbered_keeps s _) (Protocol.Obeyed.init _) (numbered_empty _) h₁
  have hsilent : Silent channel k₁.world := by
    refine Protocol.invariant (silent_keeps s channel d) (Protocol.Obeyed.init _) ?_ h₁
    intro n x hx
    cases hx
  obtain ⟨next, c, hprog, hc, rfl⟩ := hp
  obtain ⟨r, hr, hfollows⟩ := hobeyed₁.prog e _ hprog
  have hobeyed₂ := hobeyed₁.step (.exec (K := Machine.anything) c hprog trivial)
  have hobeyed₃ := hobeyed₂.run h₃
  obtain ⟨r', hr', hwaited⟩ := hobeyed₃.prog d _ hd
  have hrun : (machine s).Runs Machine.anything start k₃ :=
    ((h₁.mono fun _ _ _ => trivial).tail (.exec c hprog trivial)).trans (h₃.mono fun _ _ _ => trivial)
  have hstage : Stage r' (k₃.world.exchanges d) :=
    Protocol.history (P := bridge s) (fun _ => .outside outside_nil) (fun _ _ _ a _ ho => ho.stage a) hrun hr'
  constructor
  · rintro ⟨⟨-, n, hreceive⟩, -⟩
    by_contra hnot
    -- a program that has missed the publication finds nothing to receive
    have hmissed : Missed channel d k₃.world := Protocol.invariant (missed_keeps s channel d) hobeyed₂
      (missed_of_published hnumbered hsilent hfollows.1 hwait hnot) h₃
    obtain ⟨-, hsub⟩ := hstage.received hf hreceive
    rw [hchannel] at hsub
    exact hmissed.nothing n body hsub hreceive
  · rintro ⟨n, x, hsub, hx, hactive⟩
    -- the message waits in the inbox, and the program has not returned without receiving
    have hdelivered : Delivered channel d n body k₃.world := Protocol.invariant (delivered_keeps s channel d n body)
      hobeyed₂ (delivered_of_published hnumbered hsilent hfollows.1 hc hwait hsub hx hactive) h₃
    rcases hdelivered.waiting with hreceived | ⟨-, hnot⟩
    · obtain ⟨hforwards, -⟩ := hstage.received hf hreceived
      exact ⟨⟨hf, n, hreceived⟩, Waited.returned hwaited action n body hforwards hreceived⟩
    · obtain ⟨msg, hmsg⟩ := Waited.received hwaited channel n hdelivered.subscribed
      exact absurd hmsg (hnot msg)

/-! ### A select and its callback -/

private def undisturbedTest (channel : String) (_ : BapWorld) : Action Choice Request Op → Bool
  | .exec _ (.publish channel' _) _ => channel' ≠ channel
  | .exec _ (.receive _) c => !c.timeout
  | _ => true

private theorem undisturbed_of_test (channel : String) (d : Nat) (w : BapWorld) (a : Action Choice Request Op)
    (h : undisturbedTest channel w a = true) : Undisturbed channel d w a := by
  cases a with
  | start r => trivial
  | exec e o c =>
    cases o with
    | publish channel' body => exact of_decide_eq_true (p := channel' ≠ channel) h
    | receive n =>
      intro _ hc
      have htime : c.timeout = false := by simpa [undisturbedTest] using h
      rw [htime] at hc
      cases hc
    | _ => trivial

/-- The message that the select of `t` posts. -/
private def selectMessage (t : String) : Fields :=
  selectPayload (requestContext "select" t "" Time.zero) [("transaction_id", .str t)]

private def isReceive (x : Exchange) : Bool :=
  match x with
  | ⟨.receive _, _⟩ => true
  | _ => false

private theorem not_received {h : History} (hh : h.any isReceive = false) (n : Nat) (msg : Option Fields) :
    ⟨.receive n, msg⟩ ∉ h := by
  intro hx
  have hany : h.any isReceive = true := List.any_eq_true.2 ⟨_, hx, rfl⟩
  rw [hh] at hany
  cases hany

private theorem ran_runs {channel : String} {d : Nat} {k : BapConfig} {ls : List (Machine.Label Choice Request)}
    (h : (machine {}).run? (undisturbedTest channel) k ls = some (ran k ls)) :
    (machine {}).Runs (Undisturbed channel d) k (ran k ls) :=
  (Machine.run?_runs h).mono (undisturbed_of_test channel d)

/-- The callback is about to publish when the select has come so far. -/
private def meeting (m : Nat) : BapConfig := ran start (selecting "t" m ++ answering "t" 3)

/-- The callback publishes. -/
private def met (m : Nat) : BapConfig := ran (meeting m) [.exec 1 {}]

/-- The select goes on to its end. -/
private def parted (m : Nat) : BapConfig := ran (met m) (.exec 1 {} :: .replicate (8 - m) (.exec 0 {}))

/-- The select has subscribed before the callback publishes. -/
theorem published_returned_iff_subscribed :
    Awaited ((parted 6).world.exchanges 0) "select" (selectMessage "t") (contextOnly "t") ∧
      (.ok (contextOnly "t") : Except String Fields) = methodResult "select" (contextOnly "t") := by
  refine (published_returned_iff {} "select" (selectMessage "t") (contextOnly "t") 0 1 (meeting 6) (met 6) (parted 6)
    (ran_runs rfl) (not_received rfl) ⟨_, {}, rfl, rfl, rfl⟩ (ran_runs rfl)
    ⟨.status 200, List.mem_of_getElem? (i := 3) rfl⟩ _ rfl).2 ⟨0, _, ?_, rfl, rfl⟩
  exact List.mem_of_getElem? (i := 0) rfl

/-- The callback publishes when the select has posted and not yet subscribed: it finds the key and reports success, and
the select waits for its timeout. -/
theorem published_to_nobody :
    ¬∀ (s : ClientService) (action : String) (payload body : Fields) (d e : Nat) (k₁ k₂ k₃ : BapConfig),
      (machine s).Runs (Undisturbed (callbackChannel action (transactionID payload)) d) start k₁ →
      (∀ (n : Nat) (msg : Option Fields), ⟨.receive n, msg⟩ ∉ k₁.world.exchanges d) →
      ⟨.existsPending (pendingKey action (transactionID payload)), (.ok true : Except String Bool)⟩ ∈
        k₁.world.exchanges e →
      Publishes s k₁ k₂ e (callbackChannel action (transactionID payload)) body →
      (machine s).Runs (Undisturbed (callbackChannel action (transactionID payload)) d) k₂ k₃ →
      Forwarded (k₃.world.exchanges d) action payload →
      ∀ result : Except String Fields, k₃.progs[d]? = some (.ret result) →
        result = methodResult action body := by
  intro hall
  have hreturned := hall {} "select" (selectMessage "t") (contextOnly "t") 0 1 (meeting 5) (met 5) (parted 5)
    (ran_runs rfl) (not_received rfl) (List.mem_of_getElem? (i := 0) rfl) ⟨_, {}, rfl, rfl, rfl⟩ (ran_runs rfl)
    ⟨_, List.mem_of_getElem? (i := 3) rfl⟩ _ rfl
  cases hreturned

end IonInsurance.Bap
