import IonInsurance.Network.Agreement

/-!
# Releases of funds

Every reconcile that reaches the BPP releases funds: `HandleReconcile` does not look at `reconcile_status`.  A reconcile
goes back to a start of the goroutine, and this to an `on_confirm` that reports an issued policy.  So the releases of a
transaction are at most as many as these callbacks, if the network delivers no reconcile twice.
-/

namespace IonInsurance.Network

open Interleave

/-! ### The chain from a callback to a release -/

/-- A callback that reports the issued policy of `t`. -/
def reportsPolicy (t : String) : Bap.Request → Bool
  | .callback onAction payload => Bap.reportsIssued onAction payload && Bap.transactionID payload = t
  | _ => false

/-- The message of the BAP is a reconcile of `t`. -/
def sendsReconcile (t : String) : Bap.Request → Bap.Op → Bool
  | _, .post .bppWebhook _ payload => Bap.transactionID payload = t
  | _, _ => false

/-- The delivery of a reconcile of `t` to the BPP. -/
def isReconcile (t : String) : Bpp.Request → Bool
  | .reconcile req => Bpp.transactionID req = t
  | _ => false

/-- A release of the funds of `t`, the only request of the BPP to ION. -/
def releasesFunds (t : String) : Bpp.Request → Bpp.Op → Bool
  | r, .post .ionService _ _ => r.transaction = t
  | _, _ => false

/-- The calls of ION's release for `t`. -/
def releases (k : NetConfig) (t : String) : Nat := (k.2.world.askers (releasesFunds t)).length

theorem startsGoroutine_eq {t : String} {r : Bap.Request} {o : Bap.Op} (h : startsGoroutine t r o = true) :
    o = .goSendReconcile t := by
  cases o with
  | goSendReconcile u => rw [of_decide_eq_true h]
  | _ => cases h

theorem sendsReconcile_eq {t : String} {r : Bap.Request} {o : Bap.Op} (h : sendsReconcile t r o = true) :
    ∃ path payload, o = .post .bppWebhook path payload ∧ Bap.transactionID payload = t := by
  cases o with
  | post peer path payload =>
    cases peer with
    | bppWebhook => exact ⟨path, payload, rfl, of_decide_eq_true h⟩
    | _ => cases h
  | _ => cases h

theorem releasesFunds_eq {t : String} {r : Bpp.Request} {o : Bpp.Op} (h : releasesFunds t r o = true) :
    ∃ path payload, o = .post .ionService path payload ∧ r.transaction = t := by
  cases o with
  | post peer path payload =>
    cases peer with
    | ionService => exact ⟨path, payload, rfl, of_decide_eq_true h⟩
    | _ => cases h
  | _ => cases h

/-- A callback that reports an issued policy starts one goroutine. -/
theorem goroutine_once (s : Bap.ClientService) (t : String) :
    (Bap.protocol s).AsksOnce (reportsPolicy t) (startsGoroutine t) where
  only := by
    intro r h o ho hQ
    obtain rfl := startsGoroutine_eq hQ
    cases ho with
    | quiet _ _ hq => cases hq
    | go hi => simp [reportsPolicy, hi]
  once := by
    intro r h o ho hQ x hx
    obtain rfl := startsGoroutine_eq hQ
    cases ho with
    | quiet _ _ hq => cases hq
    | go hi hn =>
      have hgo := hn x hx
      refine Bool.eq_false_iff.2 fun hQ' => ?_
      rw [startsGoroutine_eq hQ'] at hgo
      cases hgo

/-- A goroutine sends one reconcile. -/
theorem reconcile_once (s : Bap.ClientService) (t : String) :
    (Bap.protocol s).AsksOnce (isGoroutine t) (sendsReconcile t) where
  only := by
    intro r h o ho hQ
    obtain ⟨path, payload, rfl, ht⟩ := sendsReconcile_eq hQ
    cases ho with
    | quiet _ _ hq => cases hq
    | reconcile htxn => exact decide_eq_true (htxn.symm.trans ht)
  once := by
    intro r h o ho hQ x hx
    obtain ⟨path, payload, rfl, ht⟩ := sendsReconcile_eq hQ
    cases ho with
    | quiet _ _ hq => cases hq
    | reconcile _ hn =>
      have hrec := hn x hx
      refine Bool.eq_false_iff.2 fun hQ' => ?_
      obtain ⟨path', payload', hx', -⟩ := sendsReconcile_eq hQ'
      rw [hx'] at hrec
      cases hrec

/-- Only a reconcile releases funds, and it does so once. -/
theorem release_once (s : Bpp.BecknService) (t : String) :
    (Bpp.protocol s).AsksOnce (isReconcile t) (releasesFunds t) where
  only := by
    intro r h o ho hQ
    obtain ⟨path, payload, rfl, ht⟩ := releasesFunds_eq hQ
    cases ho with
    | release req row => exact decide_eq_true ht
  once := by
    intro r h o ho hQ x hx
    obtain ⟨path, payload, rfl, ht⟩ := releasesFunds_eq hQ
    cases ho with
    | release req row =>
      obtain rfl := List.mem_singleton.1 hx
      rfl

/-! ### At most one release -/

/-- The BAP receives at most one callback that reports the issued policy of `t`, and the network delivers no more
reconciles of `t` than were sent. -/
def deliveredOnce (s₁ : Bap.ClientService) (s₂ : Bpp.BecknService) (t : String) :
    Rules (Bap.machine s₁) (Bpp.machine s₂) where
  left
    | _, w₁, .start r => reportsPolicy t r = true → w₁.starters (reportsPolicy t) = []
    | _, _, .exec .. => True
  right
    | w₁, w₂, .start r => isReconcile t r = true →
      (w₂.starters (isReconcile t)).length < (w₁.askers (sendsReconcile t)).length
    | _, _, .exec .. => True

/-- How the steps from a callback to a release are counted. -/
structure Chain (t : String) (w₁ : Bap.BapWorld) (w₂ : Bpp.BppWorld) : Prop where
  callbacks : (w₁.starters (reportsPolicy t)).length ≤ 1
  started : w₁.OncePerRequest (reportsPolicy t) (startsGoroutine t)
  goroutines : (w₁.starters (isGoroutine t)).length ≤ (w₁.askers (startsGoroutine t)).length
  sent : w₁.OncePerRequest (isGoroutine t) (sendsReconcile t)
  delivered : (w₂.starters (isReconcile t)).length ≤ (w₁.askers (sendsReconcile t)).length
  released : w₂.OncePerRequest (isReconcile t) (releasesFunds t)

theorem Chain.releases_le {t : String} {k : NetConfig} (h : Chain t k.1.world k.2.world) : releases k t ≤ 1 :=
  calc releases k t ≤ (k.2.world.starters (isReconcile t)).length := h.released.length_le
    _ ≤ (k.1.world.askers (sendsReconcile t)).length := h.delivered
    _ ≤ (k.1.world.starters (isGoroutine t)).length := h.sent.length_le
    _ ≤ (k.1.world.askers (startsGoroutine t)).length := h.goroutines
    _ ≤ (k.1.world.starters (reportsPolicy t)).length := h.started.length_le
    _ ≤ 1 := h.callbacks

section

variable {s₁ : Bap.ClientService} {s₂ : Bpp.BecknService} {t : String}

private theorem chain_left (w₂ : Bpp.BppWorld) :
    (Bap.protocol s₁).Keeps (((rules s₁ s₂).and (deliveredOnce s₁ s₂ t)).left w₂) fun w₁ => Chain t w₁ w₂ where
  start w₁ d r h hK hd he := by
    refine ⟨?_, (goroutine_once s₁ t).keeps.start w₁ d r h.started trivial hd he, ?_,
      (reconcile_once s₁ t).keeps.start w₁ d r h.sent trivial hd he, ?_, h.released⟩
    · -- a callback that reports the policy is the first one
      rw [World.starters_started]
      split
      · rename_i hP
        rw [hK.2 hP]
        exact Nat.le_refl 1
      · exact h.callbacks
    · -- the scheduler starts no more goroutines than were asked for
      rw [World.starters_started, World.askers_started _ _ _ he]
      split
      · rename_i hP
        cases r with
        | sendReconcile u =>
          obtain rfl : u = t := of_decide_eq_true hP
          exact hK.1
        | _ => cases hP
      · exact h.goroutines
    · rw [World.askers_started _ _ _ he]
      exact h.delivered
  exec w₁ d r o c h _ hr ho := by
    refine ⟨h.callbacks, (goroutine_once s₁ t).keeps.exec w₁ d r o c h.started trivial hr ho, ?_,
      (reconcile_once s₁ t).keeps.exec w₁ d r o c h.sent trivial hr ho, ?_, h.released⟩
    · exact h.goroutines.trans (World.askers_length_le ..)
    · exact h.delivered.trans (World.askers_length_le ..)

private theorem chain_right (w₁ : Bap.BapWorld) :
    (Bpp.protocol s₂).Keeps (((rules s₁ s₂).and (deliveredOnce s₁ s₂ t)).right w₁) fun w₂ => Chain t w₁ w₂ where
  start w₂ d r h hK hd he := by
    refine ⟨h.callbacks, h.started, h.goroutines, h.sent, ?_,
      (release_once s₂ t).keeps.start w₂ d r h.released trivial hd he⟩
    rw [World.starters_started]
    split
    · rename_i hP
      exact hK.2 hP
    · exact h.delivered
  exec w₂ d r o c h _ hr ho :=
    ⟨h.callbacks, h.started, h.goroutines, h.sent, h.delivered,
      (release_once s₂ t).keeps.exec w₂ d r o c h.released trivial hr ho⟩

theorem chain_start (t : String) : Chain t start.1.world start.2.world where
  callbacks := Nat.zero_le 1
  started := ⟨List.nodup_nil, List.nil_subset _⟩
  goroutines := Nat.le_refl 0
  sent := ⟨List.nodup_nil, List.nil_subset _⟩
  delivered := Nat.le_refl 0
  released := ⟨List.nodup_nil, List.nil_subset _⟩

end

/-- The chain is counted so in every run. -/
theorem chain_of_runs {s₁ : Bap.ClientService} {s₂ : Bpp.BecknService} {t : String} {k : NetConfig}
    (h : ((rules s₁ s₂).and (deliveredOnce s₁ s₂ t)).Runs start k) : Chain t k.1.world k.2.world :=
  Rules.invariant ⟨chain_left, chain_right⟩ (Protocol.Obeyed.init _) (Protocol.Obeyed.init _) (chain_start t) h

/-- If the BAP is told once of the issued policy of `t`, and the network delivers no more reconciles of `t` than were
sent, ION's release is called at most once for `t`. -/
theorem released_at_most_once (s₁ : Bap.ClientService) (s₂ : Bpp.BecknService) (t : String) (k : NetConfig)
    (h : ((rules s₁ s₂).and (deliveredOnce s₁ s₂ t)).Runs start k) : releases k t ≤ 1 :=
  (Rules.invariant (I := Chain t) ⟨chain_left, chain_right⟩ (Protocol.Obeyed.init _) (Protocol.Obeyed.init _)
    (chain_start t) h).releases_le

/-- The test of the BAP's side of `deliveredOnce`. -/
def toldOnce (t : String) (w₁ : Bap.BapWorld) : Action Bap.Choice Bap.Request Bap.Op → Bool
  | .start r => !reportsPolicy t r || (w₁.starters (reportsPolicy t)).isEmpty
  | .exec .. => true

/-- The test of the BPP's side of `deliveredOnce`. -/
def reconciledOnce (t : String) (w₁ : Bap.BapWorld) (w₂ : Bpp.BppWorld) :
    Action Bpp.Choice Bpp.Request Bpp.Op → Bool
  | .start r => !isReconcile t r || (w₂.starters (isReconcile t)).length < (w₁.askers (sendsReconcile t)).length
  | .exec .. => true

theorem released_at_most_once_settled :
    ∃ k : NetConfig, k.1.world.store.HasStatus "txn-0001" "SETTLED" ∧ 0 < releases k "txn-0001" ∧
      releases k "txn-0001" ≤ 1 := by
  have hrun : ((run? {} {} (toldOnce "txn-0001") (reconciledOnce "txn-0001") start (settleSchedule "txn-0001")).any
      fun k => decide (0 < releases k "txn-0001") &&
        (k.1.world.store.transaction "txn-0001").any fun p => p.status = "SETTLED") = true := by
    decide +kernel
  obtain ⟨k, hk, hend⟩ := (Option.any_eq_true _ _).1 hrun
  obtain ⟨hpos, hsome⟩ := Bool.and_eq_true_iff.1 hend
  obtain ⟨p, hp, hs⟩ := (Option.any_eq_true _ _).1 hsome
  have hruns : ((rules {} {}).and (deliveredOnce {} {} "txn-0001")).Runs start k := by
    refine Rules.Runs.mono (fun w₂ w₁ a h => ?_) (fun w₁ w₂ a h => ?_) (run?_runs hk)
    · refine ⟨h.1, ?_⟩
      cases a with
      | exec => trivial
      | start r =>
        intro hP
        have htest : (!reportsPolicy "txn-0001" r || (w₁.starters (reportsPolicy "txn-0001")).isEmpty) = true := h.2
        rw [hP] at htest
        exact List.isEmpty_iff.1 htest
    · refine ⟨h.1, ?_⟩
      cases a with
      | exec => trivial
      | start r =>
        intro hP
        have htest : (!isReconcile "txn-0001" r || decide ((w₂.starters (isReconcile "txn-0001")).length <
          (w₁.askers (sendsReconcile "txn-0001")).length)) = true := h.2
        rw [hP] at htest
        exact of_decide_eq_true htest
  exact ⟨k, ⟨p, hp, of_decide_eq_true hs⟩, of_decide_eq_true hpos, released_at_most_once {} {} _ k hruns⟩

/-- After the settlement the customer retries Confirm: the `on_confirm` is sent again, and it starts a second reconcile
that releases the funds. -/
def retrySchedule (t : String) : List Label :=
  settleSchedule t ++ [.bap (.start (.confirm [("transaction_id", .str t)]))] ++ bapSteps 5 5 ++ [.toBpp 0] ++
    bppSteps 5 4 ++ [.toBap 0] ++ bapSteps 3 6 ++ [.bap (.start (.sendReconcile t))] ++ bapSteps 6 7 ++ [.toBpp 0] ++
    bppSteps 3 5

theorem retry_releases_again :
    ¬∀ (s₁ : Bap.ClientService) (s₂ : Bpp.BecknService) (t : String) (k : NetConfig),
      (rules s₁ s₂).Runs start k → releases k t ≤ 1 := by
  intro hclaim
  have hrun : ((run? {} {} (fun _ _ => true) (fun _ _ _ => true) start (retrySchedule "txn-0001")).any fun k =>
      decide (1 < releases k "txn-0001")) = true := by
    decide +kernel
  obtain ⟨k, hk, htwice⟩ := (Option.any_eq_true _ _).1 hrun
  have hruns : (rules {} {}).Runs start k := by
    refine Rules.Runs.mono (fun w₂ w₁ a h => ?_) (fun w₁ w₂ a h => ?_) (run?_runs hk)
    · exact h.1
    · exact h.1
  exact absurd (hclaim {} {} "txn-0001" k hruns) (Nat.not_le.2 (of_decide_eq_true htwice))

end IonInsurance.Network
