import IonInsurance.Bap.Isolation

/-!
# The stages of a transaction

The upsert of a status does not look at the status that is there, so a request or a callback that comes late takes the
transaction back.  In a run in which none comes late, a confirmed transaction never falls behind.
-/

namespace IonInsurance.Bap

open Interleave

/-- The statuses in the order in which a transaction reaches them. -/
def stages : List String :=
  ["SELECT_SENT", "QUOTE_RECEIVED", "INIT_SENT", "INIT_RECEIVED", "CONFIRM_SENT", "CONFIRMED", "RECONCILING", "SETTLED"]

/-- A strictly earlier stage; a status that is no stage is neither earlier nor later. -/
def Earlier (status status' : String) : Prop :=
  status ∈ stages ∧ status' ∈ stages ∧ stages.idxOf status < stages.idxOf status'

instance (status status' : String) : Decidable (Earlier status status') := inferInstanceAs (Decidable (_ ∧ _ ∧ _))

theorem not_earlier_self (status : String) : ¬Earlier status status := fun h => Nat.lt_irrefl _ h.2.2

/-- The stages that are not to be left. -/
def confirmedStages : List String := ["CONFIRMED", "RECONCILING", "SETTLED"]

/-- A status that may follow `reached`. -/
def MayFollow (reached status : String) : Prop := ¬Earlier status reached ∧ (reached = "SETTLED" → status = "SETTLED")

instance (reached status : String) : Decidable (MayFollow reached status) := inferInstanceAs (Decidable (_ ∧ _))

theorem mayFollow_self (status : String) : MayFollow status status := ⟨not_earlier_self status, id⟩

/-- A callback is late once one of these stages has been reached. -/
def callbackLateAfter (onAction : String) : List String :=
  if onAction = "on_select" ∨ onAction = "on_init" then confirmedStages
  else if onAction = "on_confirm" then ["RECONCILING", "SETTLED"]
  else if onAction = "on_cancel" then ["SETTLED"]
  else []

/-- A request is late once one of these stages has been reached. -/
def Request.lateAfter : Request → List String
  | .select _ | .init _ | .confirm _ => confirmedStages
  | .search _ | .cancel _ | .sendReconcile _ => ["SETTLED"]
  | .callback onAction _ => callbackLateAfter onAction
  | _ => []

/-- No program records a status of `t` when its request is late. -/
def Timely (t : String) (w : BapWorld) : Action Choice Request Op → Prop
  | .exec d (.upsertTransaction u _ _) c =>
    u = t → c.sqlError = none → ∀ r, w.request? d = some r → ∀ reached ∈ r.lateAfter, ¬w.Once (·.HasStatus t reached)
  | _ => True

private theorem callback_mayFollow {onAction status : String}
    (h : (onAction, status) ∈ [("on_select", "QUOTE_RECEIVED"), ("on_init", "INIT_RECEIVED"), ("on_confirm", "CONFIRMED"),
      ("on_reconcile", "SETTLED"), ("on_cancel", "CANCELLED")]) :
    ∀ reached ∈ confirmedStages, reached ∉ callbackLateAfter onAction → MayFollow reached status := by
  have hall : ∀ x ∈ [("on_select", "QUOTE_RECEIVED"), ("on_init", "INIT_RECEIVED"), ("on_confirm", "CONFIRMED"),
      ("on_reconcile", "SETTLED"), ("on_cancel", "CANCELLED")], ∀ reached ∈ confirmedStages,
        reached ∉ callbackLateAfter x.1 → MayFollow reached x.2 := by decide +kernel
  exact hall _ h

/-- What is recorded in time may follow every stage that has been reached. -/
theorem mayFollow_of_mayAsk {r : Request} {h : History} {t action status : String}
    (ho : MayAsk r h (.upsertTransaction t action status)) :
    ∀ reached ∈ confirmedStages, reached ∉ r.lateAfter → MayFollow reached status := by
  rcases mayAsk_upsert ho with hrec | ⟨onAction, payload, rfl, -, hs⟩ | ⟨rfl, -, rfl⟩
  · cases r with
    | select | init | confirm => exact fun reached hreached hlate => absurd hreached hlate
    | search | cancel =>
      obtain ⟨-, rfl⟩ := Prod.mk.inj (Option.some.inj hrec)
      show ∀ reached ∈ confirmedStages, reached ∉ ["SETTLED"] → MayFollow reached _
      decide +kernel
    | _ => cases hrec
  · exact callback_mayFollow (callbackStatus_mem hs)
  · show ∀ reached ∈ confirmedStages, reached ∉ ["SETTLED"] → MayFollow reached "RECONCILING"
    decide +kernel

/-- The status of `t` may follow all the stages that `t` has reached. -/
def Advanced (t : String) (w : BapWorld) : Prop :=
  ∀ reached ∈ confirmedStages, w.Once (·.HasStatus t reached) → ∀ status, w.store.HasStatus t status →
    MayFollow reached status

private theorem advanced_keeps (s : ClientService) (t : String) : (protocol s).Keeps (Timely t) (Advanced t) where
  start w d r h _ _ _ reached hreached honce status hs := h reached hreached ((World.once_started ..).1 honce) status hs
  exec w d r o c h hK hr ho := by
    intro reached hreached honce status hs
    rcases (Machine.once_asked ..).1 honce with hnow | hbefore
    · obtain rfl := Db.HasStatus.unique hnow hs
      exact mayFollow_self _
    · rcases hasStatus_exec hs with hold | ⟨action, rfl, hc, -⟩
      · exact h reached hreached hbefore status hold
      · refine mayFollow_of_mayAsk ho reached hreached fun hlate => ?_
        exact hK rfl hc r hr reached hlate hbefore

/-- In a run in which no request and no callback of the transaction records its status late, a transaction that was
confirmed, reconciling or settled is never at an earlier stage, and a settled one stays settled. -/
theorem status_never_regresses (s : ClientService) (t : String) (k₁ k₂ : BapConfig)
    (h₁ : (machine s).Runs (Timely t) start k₁) (h₂ : (machine s).Runs (Timely t) k₁ k₂) (reached : String)
    (hreached : reached ∈ confirmedStages) (hk : k₁.world.store.HasStatus t reached) (status : String)
    (hs : k₂.world.store.HasStatus t status) : ¬Earlier status reached ∧ (reached = "SETTLED" → status = "SETTLED") := by
  have hadvanced : Advanced t k₂.world := by
    refine Protocol.invariant (advanced_keeps s t) (Protocol.Obeyed.init _) ?_ (h₁.trans h₂)
    intro reached _ _ status hs
    obtain ⟨p, hp, -⟩ := hs
    cases hp
  exact hadvanced reached hreached (h₂.once (.inl hk)) status hs

/-! ### A transaction that is settled, and one that falls behind -/

/-- Every request of the list is started when the one before it has taken its number of steps. -/
def inTurn (requests : List (Request × Nat)) : List (Machine.Label Choice Request) :=
  requests.zipIdx.flatMap fun ((r, steps), d) => .start r :: .replicate steps (.exec d {})

/-- The messages of a transaction up to its `on_confirm`. -/
def confirmation (t : String) : List (Request × Nat) :=
  [(.select [("transaction_id", .str t)], 8), (.callback "on_select" (contextOnly t), 5),
    (.init [("transaction_id", .str t)], 8), (.callback "on_init" (contextOnly t), 8),
    (.confirm [("transaction_id", .str t)], 8), (.callback "on_confirm" (contextOnly t), 5)]

private def statusAt (t reached : String) : Event Db Request Op Op.Ans → Bool
  | .exec _ s _ _ => (s.transaction t).any fun p => p.status = reached
  | .start .. => false

private def wasAt (w : BapWorld) (t reached : String) : Bool :=
  ((w.store.transaction t).any fun p => p.status = reached) || w.trace.any (statusAt t reached)

private def timelyTest (t : String) (w : BapWorld) : Action Choice Request Op → Bool
  | .exec d (.upsertTransaction _ _ _) _ =>
    (w.request? d).all fun r => r.lateAfter.all fun reached => !wasAt w t reached
  | _ => true

private theorem wasAt_of_once {w : BapWorld} {t reached : String} (h : w.Once (·.HasStatus t reached)) :
    wasAt w t reached = true := by
  have hany : ∀ {s : Db}, s.HasStatus t reached → ((s.transaction t).any fun p => p.status = reached) = true := by
    rintro s ⟨p, hp, hs⟩
    exact (Option.any_eq_true _ _).2 ⟨p, hp, decide_eq_true hs⟩
  unfold wasAt
  rw [Bool.or_eq_true]
  rcases h with hnow | ⟨d, s, o, a, hev, hs⟩
  · exact .inl (hany hnow)
  · exact .inr (List.any_eq_true.2 ⟨_, hev, hany hs⟩)

private theorem timely_of_test (t : String) (w : BapWorld) (a : Action Choice Request Op)
    (h : timelyTest t w a = true) : Timely t w a := by
  cases a with
  | start r => trivial
  | exec d o c =>
    cases o with
    | upsertTransaction u action status =>
      intro _ _ r hr reached hreached honce
      have hall : ((w.request? d).all fun r => r.lateAfter.all fun reached => !wasAt w t reached) = true := h
      rw [hr] at hall
      have hnot := List.all_eq_true.1 hall reached hreached
      rw [wasAt_of_once honce] at hnot
      cases hnot
    | _ => trivial

private def isAt (k : BapConfig) (t status : String) : Bool :=
  (k.world.store.transaction t).any fun p => p.status = status

private theorem hasStatus_of_isAt {k : BapConfig} {t status : String} (h : isAt k t status = true) :
    k.world.store.HasStatus t status := by
  obtain ⟨p, hp, hs⟩ := (Option.any_eq_true _ _).1 h
  exact ⟨p, hp, of_decide_eq_true hs⟩

/-- The reconcile after an `on_confirm`, and its answer. -/
private def settlement (t : String) : List (Machine.Label Choice Request) :=
  .start (.sendReconcile t) :: .replicate 5 (.exec 6 {}) ++
    .start (.callback "on_reconcile" (contextOnly t)) :: .replicate 3 (.exec 7 {})

theorem status_never_regresses_settled : ∃ k₁ k₂ : BapConfig, k₁.world.store.HasStatus "txn-0001" "CONFIRMED" ∧
    k₂.world.store.HasStatus "txn-0001" "SETTLED" ∧
      ∀ status, k₂.world.store.HasStatus "txn-0001" status → ¬Earlier status "CONFIRMED" := by
  have hrun : (((machine {}).run? (timelyTest "txn-0001") start (inTurn (confirmation "txn-0001"))).any fun k₁ =>
      isAt k₁ "txn-0001" "CONFIRMED" &&
        ((machine {}).run? (timelyTest "txn-0001") k₁ (settlement "txn-0001")).any fun k₂ =>
          isAt k₂ "txn-0001" "SETTLED") = true := by decide +kernel
  obtain ⟨k₁, h₁, hend⟩ := (Option.any_eq_true _ _).1 hrun
  obtain ⟨hconfirmed, hrest⟩ := Bool.and_eq_true_iff.1 hend
  obtain ⟨k₂, h₂, hsettled⟩ := (Option.any_eq_true _ _).1 hrest
  have hmono := timely_of_test "txn-0001"
  refine ⟨k₁, k₂, hasStatus_of_isAt hconfirmed, hasStatus_of_isAt hsettled, fun status hs => ?_⟩
  exact (status_never_regresses {} "txn-0001" k₁ k₂ ((Machine.run?_runs h₁).mono hmono)
    ((Machine.run?_runs h₂).mono hmono) "CONFIRMED" (by decide) (hasStatus_of_isAt hconfirmed) status hs).1

/-- No goroutine is started. -/
def startedTest (_ : BapWorld) : Action Choice Request Op → Bool
  | .start (.sendReconcile _) => false
  | _ => true

theorem started_of_test (w : BapWorld) (a : Action Choice Request Op) (h : startedTest w a = true) :
    Started w a := by
  cases a with
  | start r =>
    cases r with
    | sendReconcile t => cases h
    | _ => trivial
  | exec d o c => trivial

/-- The `on_init` of a confirmed transaction is delivered again. -/
theorem late_onInit_regresses :
    ¬∀ (s : ClientService) (t : String) (k₁ k₂ : BapConfig), (machine s).Runs Started start k₁ →
      (machine s).Runs Started k₁ k₂ → ∀ reached ∈ confirmedStages, k₁.world.store.HasStatus t reached →
        ∀ status, k₂.world.store.HasStatus t status →
          ¬Earlier status reached ∧ (reached = "SETTLED" → status = "SETTLED") := by
  intro hall
  have hrun : (((machine {}).run? startedTest start (inTurn (confirmation "txn-0001"))).any fun k₁ =>
      isAt k₁ "txn-0001" "CONFIRMED" &&
        ((machine {}).run? startedTest k₁
          (.start (.callback "on_init" (contextOnly "txn-0001")) :: .replicate 6 (.exec 6 {}))).any fun k₂ =>
            isAt k₂ "txn-0001" "INIT_RECEIVED") = true := by decide +kernel
  obtain ⟨k₁, h₁, hend⟩ := (Option.any_eq_true _ _).1 hrun
  obtain ⟨hconfirmed, hrest⟩ := Bool.and_eq_true_iff.1 hend
  obtain ⟨k₂, h₂, hback⟩ := (Option.any_eq_true _ _).1 hrest
  have hnot := (hall {} "txn-0001" k₁ k₂ ((Machine.run?_runs h₁).mono started_of_test)
    ((Machine.run?_runs h₂).mono started_of_test) "CONFIRMED" (by decide) (hasStatus_of_isAt hconfirmed) "INIT_RECEIVED"
      (hasStatus_of_isAt hback)).1
  exact hnot (by decide)

end IonInsurance.Bap
