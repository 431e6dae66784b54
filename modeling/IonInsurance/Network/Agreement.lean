import IonInsurance.Network.Rules

/-!
# The two databases agree

Each message that the parties act on says something about the database of the other: an `on_confirm` without an error,
that the policy is paid and numbered; a reconcile, the same; an `on_reconcile`, that it is settled.  All this is stable
at the BPP, so it holds whenever the message arrives.
-/

namespace IonInsurance.Network

open Interleave

/-- The SQL statements of the BPP succeed. -/
def sqlSucceeds (s₁ : Bap.ClientService) (s₂ : Bpp.BecknService) : Rules (Bap.machine s₁) (Bpp.machine s₂) where
  left _ _ _ := True
  right
    | _, _, .start _ => True
    | _, _, .exec _ _ c => c.sqlError = none

/-- The network, with a database of the BPP that carries out every statement. -/
def sqlRules (s₁ : Bap.ClientService) (s₂ : Bpp.BecknService) : Rules (Bap.machine s₁) (Bpp.machine s₂) :=
  (rules s₁ s₂).and (sqlSucceeds s₁ s₂)

/-- What the parties have recorded, and what the messages between them say. -/
structure Agreement (w₁ : Bap.BapWorld) (w₂ : Bpp.BppWorld) : Prop where
  progress : Bap.Progress w₁
  reported : Bpp.Reported w₂
  delivered : ∀ d r peer action payload, w₁.request? d = some r → sentByBpp r = some (peer, action, payload) →
    PostedByBpp w₂ peer action payload
  reconciles : ∀ d req, w₂.request? d = some (.reconcile req) → w₂.store.Numbered (Bpp.transactionID req)
  marked : ∀ d req a, w₂.request? d = some (.reconcile req) →
    (Bpp.Op.markSettled (Bpp.transactionID req)).answered a ∈ w₂.exchanges d →
      w₂.store.Settled (Bpp.transactionID req)
  agreed : ∀ payload, w₂.Asked (.post .bapWebhook "on_reconcile" payload) →
    w₂.store.Numbered (Bpp.transactionID payload) ∧ w₂.store.Settled (Bpp.transactionID payload)

section

variable {s₁ : Bap.ClientService} {s₂ : Bpp.BecknService} {w₁ : Bap.BapWorld} {w₂ : Bpp.BppWorld}

/-- The BAP was told of an issued policy. -/
theorem Agreement.confirmed (h : Agreement w₁ w₂) {t : String} (hr : Bap.Received w₁ "on_confirm" t) :
    w₂.store.Numbered t := by
  obtain ⟨d, payload, hd, ht, hs⟩ := hr
  obtain ⟨m, hsent, rfl⟩ := h.delivered d _ _ _ _ hd rfl
  have herror : m.has "error" = false := by
    simp only [Bap.callbackStatus] at hs
    split at hs
    · cases hs
    · rename_i he
      rw [has_received] at he
      exact Bool.eq_false_iff.2 he
  have htxn : Bpp.transactionID m = t := (transactionID_received m).symm.trans ht
  rw [← htxn]
  exact h.reported.sent m hsent herror

/-- The BAP was told of a settlement. -/
theorem Agreement.settled (h : Agreement w₁ w₂) {t : String} (hr : Bap.Received w₁ "on_reconcile" t) :
    w₂.store.Numbered t ∧ w₂.store.Settled t := by
  obtain ⟨d, payload, hd, ht, -⟩ := hr
  obtain ⟨m, hsent, rfl⟩ := h.delivered d _ _ _ _ hd rfl
  have htxn : Bpp.transactionID m = t := (transactionID_received m).symm.trans ht
  rw [← htxn]
  exact h.agreed m hsent

/-- The steps of the BAP keep the agreement. -/
private theorem agreement_left (w₂ : Bpp.BppWorld) :
    (Bap.protocol s₁).Keeps ((sqlRules s₁ s₂).left w₂) fun w₁ => Agreement w₁ w₂ where
  start w₁ d r h hK hd _ := by
    refine ⟨h.progress.started (started_of_bapMay hK.1) hd, h.reported, ?_, h.reconciles, h.marked, h.agreed⟩
    intro e r' peer action payload hr' hsent
    rcases World.request?_of_started hr' with ⟨-, rfl⟩ | hr'
    · cases r with
      | sendReconcile t => cases hsent
      | _ => exact hK.1 peer action payload hsent
    · exact h.delivered e r' peer action payload hr' hsent
  exec w₁ d r o c h _ hr ho :=
    ⟨h.progress.asked hr ho, h.reported, h.delivered, h.reconciles, h.marked, h.agreed⟩

/-- A reconcile settles its row before it answers. -/
private theorem agreed_of_mayAsk (h : Agreement w₁ w₂) {d : Nat} {r : Bpp.Request} (hr : w₂.request? d = some r)
    {payload : Fields} (ho : Bpp.MayAsk s₂ r (w₂.exchanges d) (.post .bapWebhook "on_reconcile" payload)) :
    w₂.store.Numbered (Bpp.transactionID payload) ∧ w₂.store.Settled (Bpp.transactionID payload) := by
  generalize hh : w₂.exchanges d = hist at ho
  cases ho with
  | agree req row reply settled t₁ t₂ =>
    rw [Bpp.transactionID_onReconcile]
    refine ⟨h.reconciles d req hr, h.marked d req settled hr ?_⟩
    rw [hh]
    simp

private theorem agreement_exec (h : Agreement w₁ w₂) {d : Nat} {r : Bpp.Request} {o : Bpp.Op} {c : Bpp.Choice}
    (hc : c.sqlError = none) (hr : w₂.request? d = some r) (ho : Bpp.MayAsk s₂ r (w₂.exchanges d) o) :
    Agreement w₁ ((Bpp.machine s₂).asked w₂ d o c) where
  progress := h.progress
  reported := h.reported.asked ho
  delivered e r' peer action payload hr' hsent := (h.delivered e r' peer action payload hr' hsent).asked d o c
  reconciles e req hr' := (h.reconciles e req hr').exec o c
  marked := by
    intro e req a hr' hx
    rcases Machine.exchange_asked hx with hold | ⟨rfl, rfl, -⟩
    · exact (h.marked e req a hr' hold).exec o c
    · exact Bpp.markSettled_settled hc (h.reconciles e req hr')
  agreed := by
    rintro payload ⟨e, a, hx⟩
    rcases Machine.exchange_asked hx with hold | ⟨rfl, rfl, -⟩
    · obtain ⟨hn, hs⟩ := h.agreed payload ⟨e, a, hold⟩
      exact ⟨hn.exec o c, hs.exec o c⟩
    · obtain ⟨hn, hs⟩ := agreed_of_mayAsk h hr ho
      exact ⟨hn.exec _ c, hs.exec _ c⟩

/-- The steps of the BPP keep the agreement. -/
private theorem agreement_right (w₁ : Bap.BapWorld) :
    (Bpp.protocol s₂).Keeps ((sqlRules s₁ s₂).right w₁) fun w₂ => Agreement w₁ w₂ where
  start w₂ d r h hK hd he := by
    refine ⟨h.progress, (Bpp.reported_keeps s₂).start w₂ d r h.reported trivial hd he, h.delivered, ?_, ?_, h.agreed⟩
    · intro e req hr'
      rcases World.request?_of_started hr' with ⟨-, rfl⟩ | hr'
      · -- the BAP sends a reconcile only after it was told of the issued policy
        obtain ⟨m, hsent, rfl⟩ := hK.1 _ _ _ rfl
        rw [transactionID_received]
        exact h.confirmed (h.progress.reconcile m hsent)
      · exact h.reconciles e req hr'
    · intro e req a hr' hx
      exact h.marked e req a (World.request?_of_asked he hr' hx) hx
  exec w₂ d r o c h hK hr ho := agreement_exec h hK.2 hr ho

theorem agreement_start : Agreement start.1.world start.2.world where
  progress := Bap.progress_start
  reported := Bpp.reported_start
  delivered _ _ _ _ _ h := by cases h
  reconciles _ _ h := by cases h
  marked _ _ _ h := by cases h
  agreed _ := by
    rintro ⟨d, a, hx⟩
    cases hx

end

/-- In every run of the two services over the network, a transaction that the BAP calls confirmed, reconciling or
settled is paid and numbered at the BPP, and one that it calls settled is settled there. -/
theorem cross_party_agreement (s₁ : Bap.ClientService) (s₂ : Bpp.BecknService) (k : NetConfig)
    (h : (sqlRules s₁ s₂).Runs start k) (t : String) :
    (k.1.world.store.HasStatus t "CONFIRMED" ∨ k.1.world.store.HasStatus t "RECONCILING" ∨
        k.1.world.store.HasStatus t "SETTLED" → k.2.world.store.Numbered t) ∧
      (k.1.world.store.HasStatus t "SETTLED" → k.2.world.store.Settled t) := by
  have hk : Agreement k.1.world k.2.world :=
    Rules.invariant ⟨agreement_left, agreement_right⟩ (Protocol.Obeyed.init _) (Protocol.Obeyed.init _) agreement_start h
  constructor
  · rintro (hc | hr | hs)
    · exact hk.confirmed (hk.progress.confirmed t hc)
    · exact hk.confirmed (hk.progress.reconciling t hr)
    · exact (hk.settled (hk.progress.settled t hs)).1
  · intro hs
    exact (hk.settled (hk.progress.settled t hs)).2

/-- An issued policy is reconciled, and the `on_reconcile` arrives. -/
def settleSchedule (t : String) : List Label :=
  issueSchedule t ++ [.toBap 0] ++ bapSteps 3 2 ++ [.bap (.start (.sendReconcile t))] ++ bapSteps 6 3 ++ [.toBpp 0] ++
    bppSteps 6 3 ++ [.toBap 0] ++ bapSteps 2 4

/-- The test of `sqlSucceeds`. -/
def sqlTest (_ : Bap.BapWorld) (_ : Bpp.BppWorld) : Action Bpp.Choice Bpp.Request Bpp.Op → Bool
  | .start _ => true
  | .exec _ _ c => c.sqlError.isNone

theorem cross_party_agreement_settled :
    ∃ k : NetConfig, k.1.world.store.HasStatus "txn-0001" "SETTLED" ∧ k.2.world.store.Numbered "txn-0001" ∧
      k.2.world.store.Settled "txn-0001" := by
  have hrun : ((run? {} {} (fun _ _ => true) sqlTest start (settleSchedule "txn-0001")).any fun k =>
      (k.1.world.store.transaction "txn-0001").any fun p => p.status = "SETTLED") = true := by
    decide +kernel
  obtain ⟨k, hk, hsome⟩ := (Option.any_eq_true _ _).1 hrun
  obtain ⟨p, hp, hs⟩ := (Option.any_eq_true _ _).1 hsome
  have hsettled : k.1.world.store.HasStatus "txn-0001" "SETTLED" := ⟨p, hp, of_decide_eq_true hs⟩
  have hruns : (sqlRules {} {}).Runs start k := by
    refine Rules.Runs.mono (fun w₂ w₁ a h => ?_) (fun w₁ w₂ a h => ?_) (run?_runs hk)
    · exact ⟨h.1, trivial⟩
    · refine ⟨h.1, ?_⟩
      cases a with
      | start => trivial
      | exec d o c => exact Option.isNone_iff_eq_none.1 h.2
  obtain ⟨hnumbered, hagreed⟩ := cross_party_agreement {} {} k hruns "txn-0001"
  exact ⟨k, hsettled, hnumbered (.inr (.inr hsettled)), hagreed hsettled⟩

end IonInsurance.Network
