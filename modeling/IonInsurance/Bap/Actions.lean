import IonInsurance.Bap.Listing

/-!
# The action of a transaction

`upsertTransaction` takes an action and a status, but a row that exists keeps its action.  `GetStatus` and `ListOrders`
report the two together, so from the second kind of request on they report a pair that nobody has recorded.
-/

namespace IonInsurance.Bap

open Interleave

/-- The action and the status in the row of a transaction. -/
def Db.pair (s : Db) (t : String) : Option (String × String) := (s.transaction t).map fun p => (p.action, p.status)

/-! ### GetStatus -/

/-- The first of the snapshots of a transaction, latest first. -/
def selectLatest (s : Db) (txnID : String) : Except String (String × Fields) :=
  match latestOf s txnID with
  | some x => .ok (x.onAction, x.payload)
  | none => .error noRows

/-- The answer of `GetStatus`, whose queries find the tables `s₁` and `s₂`. -/
def getStatus (c₁ c₂ : Choice) (s₁ s₂ : Db) (txnID : String) : Except String Fields :=
  match (statement c₁.sqlError s₁ (s₁.selectTransaction txnID fun p => (p.action, p.status), s₁)).1 with
  | .error err => .error ("transaction not found: " ++ err)
  | .ok (action, status) =>
    let result := [("transaction_id", .str txnID), ("action", .str action), ("status", .str status)]
    match (statement c₂.sqlError s₂ (selectLatest s₂ txnID, s₂)).1 with
    | .ok (onAction, snap) => .ok (result ++ [("latest_snapshot", .obj snap), ("latest_on_action", .str onAction)])
    -- an error of the second query is dropped
    | .error _ => .ok result

/-- `GetStatus` reports the pair of the row. -/
theorem getStatus_pair {c₁ c₂ : Choice} {s₁ s₂ : Db} {t : String} {result : Fields}
    (h : getStatus c₁ c₂ s₁ s₂ t = .ok result) :
    ∃ action status, s₁.pair t = some (action, status) ∧ result.get "action" = .str action ∧
      result.get "status" = .str status := by
  unfold getStatus at h
  split at h
  · cases h
  · rename_i action status hrow
    have hpair : s₁.pair t = some (action, status) := by
      cases hc : c₁.sqlError with
      | some err =>
        rw [hc] at hrow
        cases hrow
      | none =>
        rw [hc, statement_none] at hrow
        unfold Db.selectTransaction at hrow
        unfold Db.pair
        cases hp : s₁.transaction t with
        | none =>
          rw [hp] at hrow
          cases hrow
        | some p =>
          rw [hp] at hrow
          exact congrArg some (Except.ok.inj hrow)
    refine ⟨action, status, hpair, ?_⟩
    split at h
    · obtain rfl := Except.ok.inj h
      exact ⟨rfl, rfl⟩
    · obtain rfl := Except.ok.inj h
      exact ⟨rfl, rfl⟩

/-- `ListOrders` lists the pairs of the rows. -/
theorem listOrders_pair {c : Choice} {s : Db} {orders : List OrderEntry} (h : listOrders c s = .ok orders)
    {x : OrderEntry} (hx : x ∈ orders) : s.pair x.transactionID = some (x.action, x.status) := by
  obtain ⟨u, p, hp, rfl⟩ := exists_row_of_mem h hx
  show s.pair u = some (p.action, p.status)
  unfold Db.pair
  rw [hp, Option.map_some]

/-! ### The pairs that are recorded -/

/-- The pair of an `upsertTransaction` of `t` that has succeeded. -/
def upsertOf (t : String) : Event Db Request Op Op.Ans → Option (String × String)
  | .exec _ _ (.upsertTransaction u action status) (.ok _) => if u = t then some (action, status) else none
  | _ => none

/-- The pairs passed to the `upsertTransaction` calls of `t` that have succeeded, latest first. -/
def upserts (w : BapWorld) (t : String) : List (String × String) := w.trace.filterMap (upsertOf t)

/-- What a row keeps of the pairs: the action of the first one and the status of the latest. -/
def kept : List (String × String) → Option (String × String)
  | [] => none
  | (action, status) :: earlier => some (((kept earlier).map Prod.fst).getD action, status)

theorem kept_action (us : List (String × String)) : (kept us).map Prod.fst = us.getLast?.map Prod.fst := by
  induction us with
  | nil => rfl
  | cons x us ih =>
    show some (((kept us).map Prod.fst).getD x.1) = (x :: us).getLast?.map Prod.fst
    rw [ih, List.getLast?_cons]
    cases us.getLast? with
    | none => rfl
    | some y => rfl

theorem kept_status (us : List (String × String)) : (kept us).map Prod.snd = us.head?.map Prod.snd := by
  cases us with
  | nil => rfl
  | cons x us => rfl

/-- The row keeps the latest pair exactly if that has the action of the first one. -/
theorem kept_eq_head?_iff (us : List (String × String)) :
    kept us = us.head? ↔ us.head?.map Prod.fst = us.getLast?.map Prod.fst := by
  constructor
  · intro h
    rw [← kept_action, h]
  · intro h
    have haction : (kept us).map Prod.fst = us.head?.map Prod.fst := by rw [kept_action, h]
    have hstatus := kept_status us
    cases us with
    | nil => rfl
    | cons x us =>
      obtain ⟨action, status⟩ := x
      exact congrArg some (Prod.ext (Option.some.inj haction) (Option.some.inj hstatus))

/-! ### What an operation does to the pair -/

section

variable {s : Db} {t : String}

theorem pair_putTransaction (s : Db) (t u : String) (p : Transaction) :
    (s.putTransaction u p).pair t = if t = u then some (p.action, p.status) else s.pair t := by
  unfold Db.pair
  rw [Db.transaction_putTransaction]
  split <;> rfl

/-- The checkout of a row leaves the pair alone. -/
private theorem pair_updateTransaction {f : Transaction → Transaction}
    (hf : ∀ p, (f p).action = p.action ∧ (f p).status = p.status) (s : Db) (t u : String) :
    (s.updateTransaction u f).pair t = s.pair t := by
  unfold Db.pair
  rw [Db.transaction_updateTransaction]
  split
  · cases s.transaction t with
    | none => rfl
    | some p => exact congrArg some (Prod.ext (hf p).1 (hf p).2)
  · rfl

/-- An upsert that succeeds puts the status into the row, and the action only into a new one. -/
theorem pair_upsertTransaction {u action status : String} {now : Time} {s' : Db}
    (h : s.upsertTransaction u action status now = (.ok (), s')) :
    s'.pair t = if t = u then some (((s.pair t).map Prod.fst).getD action, status) else s.pair t := by
  -- in both cases one row is put into the table
  have hput : ∀ p : Transaction, (p.action, p.status) = (((s.pair u).map Prod.fst).getD action, status) →
      (s.putTransaction u p).pair t =
        if t = u then some (((s.pair t).map Prod.fst).getD action, status) else s.pair t := by
    intro p hp
    rw [pair_putTransaction, hp]
    by_cases htu : t = u
    · rw [if_pos htu, if_pos htu, htu]
    · rw [if_neg htu, if_neg htu]
  unfold Db.upsertTransaction at h
  split at h
  · cases hp : s.transaction u with
    | none =>
      rw [hp] at h
      obtain rfl := (Prod.mk.inj h).2
      apply hput
      rw [Db.pair, hp]
      rfl
    | some p =>
      rw [hp] at h
      obtain rfl := (Prod.mk.inj h).2
      unfold Db.updateTransaction
      rw [hp]
      apply hput
      rw [Db.pair, hp]
      rfl
  · cases h

/-- An upsert that fails changes nothing. -/
theorem upsertTransaction_error {u action status : String} {now : Time} {err : String} {s' : Db}
    (h : s.upsertTransaction u action status now = (.error err, s')) : s' = s := by
  unfold Db.upsertTransaction at h
  split at h
  · cases hp : s.transaction u with
    | none =>
      rw [hp] at h
      cases h
    | some p =>
      rw [hp] at h
      cases h
  · exact (Prod.mk.inj h).2.symm

/-- The other operations leave the pair alone. -/
theorem pair_exec {o : Op} (ho : ∀ u action status, o ≠ .upsertTransaction u action status) (c : Choice) (s : Db)
    (t : String) : (exec o c s).2.pair t = s.pair t := by
  have hstatement : ∀ {α : Type} (e : Option String) (run : Except String α × Db), run.2.pair t = s.pair t →
      (statement e s run).2.pair t = s.pair t := by
    intro α e run h
    exact statement_keeps (P := fun s' : Db => s'.pair t = s.pair t) e rfl h
  cases o with
  | upsertTransaction u action status => exact absurd rfl (ho u action status)
  | setCheckoutRequestID u rid =>
    refine hstatement _ _ ?_
    unfold Db.setCheckoutRequestID
    split
    · apply pair_updateTransaction
      exact fun p => ⟨rfl, rfl⟩
    · rfl
  | setCheckout u invoice url total =>
    refine hstatement _ _ ?_
    unfold Db.setCheckout
    split
    · apply pair_updateTransaction
      exact fun p => ⟨rfl, rfl⟩
    · rfl
    · rfl
  | saveSnapshot | setPending | deletePending | publish => exact hstatement _ _ rfl
  | selectForReconcile | selectForNotify | selectOnInit => exact hstatement _ _ rfl
  | existsPending key =>
    simp only [exec, statement_read]
    split <;> rfl
  | receive n =>
    show (if c.timeout = true then (none, s) else s.receive n).2.pair t = s.pair t
    split
    · rfl
    · unfold Db.receive
      split <;> rfl
  | now | newUUID | post | goSendReconcile | subscribe | close => rfl

end

/-! ### Runs -/

/-- The pair that a reader sees for `t`, in the table, from `GetStatus` and from `ListOrders`, is the one that was passed
to the latest `upsertTransaction` of `t` that has succeeded. -/
def Together (w : BapWorld) (t : String) : Prop :=
  w.store.pair t = (upserts w t).head? ∧
    (∀ c₁ c₂ s₂ result, getStatus c₁ c₂ w.store s₂ t = .ok result →
      ∃ action status, (upserts w t).head? = some (action, status) ∧ result.get "action" = .str action ∧
        result.get "status" = .str status) ∧
    ∀ c orders, listOrders c w.store = .ok orders → ∀ x ∈ orders, x.transactionID = t →
      (upserts w t).head? = some (x.action, x.status)

/-- The readers report the pair of the row. -/
theorem together_iff (w : BapWorld) (t : String) : Together w t ↔ w.store.pair t = (upserts w t).head? := by
  constructor
  · exact fun h => h.1
  · intro h
    refine ⟨h, fun c₁ c₂ s₂ result hresult => ?_, fun c orders horders x hx hxt => ?_⟩
    · obtain ⟨action, status, hpair, hfields⟩ := getStatus_pair hresult
      exact ⟨action, status, h.symm.trans hpair, hfields⟩
    · subst hxt
      exact h.symm.trans (listOrders_pair horders hx)

private theorem upserts_asked (s : ClientService) (w : BapWorld) (d : Nat) (o : Op) (c : Choice) (t : String) :
    upserts ((machine s).asked w d o c) t =
      (upsertOf t (.exec d w.store o (exec o c w.store).1)).toList ++ upserts w t := by
  show (Event.exec d w.store o (exec o c w.store).1 :: w.trace).filterMap (upsertOf t) = _
  rw [List.filterMap_cons]
  cases upsertOf t (.exec d w.store o (exec o c w.store).1) with
  | none => rfl
  | some x => rfl

/-- One step leaves in the row what it keeps of the pairs. -/
private theorem pair_asked (s : ClientService) {w : BapWorld} {t : String} (h : w.store.pair t = kept (upserts w t))
    (d : Nat) (o : Op) (c : Choice) :
    ((machine s).asked w d o c).store.pair t = kept (upserts ((machine s).asked w d o c) t) := by
  rw [upserts_asked, Machine.asked_store]
  show (exec o c w.store).2.pair t = _
  by_cases ho : ∃ u action status, o = .upsertTransaction u action status
  · obtain ⟨u, action, status, rfl⟩ := ho
    cases hrun : exec (.upsertTransaction u action status) c w.store with
    | mk answer s' =>
      cases hc : c.sqlError with
      | some err =>
        have hfailed : (.error err, w.store) = (answer, s') := by
          rw [← hrun, exec, hc, statement_some]
          rfl
        obtain ⟨rfl, rfl⟩ := Prod.mk.inj hfailed
        exact h
      | none =>
        rw [exec, hc, statement_none] at hrun
        cases answer with
        | error err =>
          obtain rfl := upsertTransaction_error hrun
          exact h
        | ok =>
          rw [pair_upsertTransaction hrun, h]
          show _ = kept ((if u = t then some (action, status) else none).toList ++ upserts w t)
          by_cases hut : u = t
          · rw [if_pos hut, if_pos hut.symm]
            rfl
          · rw [if_neg hut, if_neg (Ne.symm hut)]
            rfl
  · have hno : ∀ u action status, o ≠ .upsertTransaction u action status :=
      fun u action status h => ho ⟨u, action, status, h⟩
    have hnone : upsertOf t (.exec d w.store o (exec o c w.store).1) = none := by
      cases o with
      | upsertTransaction u action status => exact absurd rfl (hno u action status)
      | _ => rfl
    rw [pair_exec hno, hnone]
    exact h

/-- Every run leaves in the row what it keeps of the pairs. -/
theorem pair_run {s : ClientService} {K : BapWorld → Action Choice Request Op → Prop} {k : BapConfig}
    (h : (machine s).Runs K start k) (t : String) : k.world.store.pair t = kept (upserts k.world t) := by
  induction h with
  | refl => rfl
  | tail _ hs ih =>
    cases hs with
    | start r hK => exact ih
    | exec c hp hK => exact pair_asked s ih _ _ c

/-- An upsert of `t` that finds a row and succeeds passes the action of that row. -/
def SameAction (t : String) (w : BapWorld) : Action Choice Request Op → Prop
  | .exec _ (.upsertTransaction u action _) c =>
    u = t → c.sqlError = none → ∀ p, w.store.transaction t = some p → p.action = action
  | _ => True

/-- The latest pair has the action of the first one. -/
def KeepsAction (us : List (String × String)) : Prop := us.head?.map Prod.fst = us.getLast?.map Prod.fst

/-- A pair comes from an upsert that the environment lets through. -/
private theorem eq_upsert_of_upsertOf {t : String} {d : Nat} {s : Db} {o : Op} {c : Choice} {x : String × String}
    (h : upsertOf t (.exec d s o (exec o c s).1) = some x) :
    o = .upsertTransaction t x.1 x.2 ∧ c.sqlError = none := by
  cases o with
  | upsertTransaction u action status =>
    cases hc : c.sqlError with
    | some err =>
      rw [exec, hc, statement_some] at h
      cases h
    | none =>
      refine ⟨?_, rfl⟩
      unfold upsertOf at h
      split at h
      · rename_i u action status _ _ _ hev
        obtain ⟨-, -, hop, -⟩ := Event.exec.inj hev
        split at h
        · rename_i hut
          rw [hop, hut, ← Option.some.inj h]
        · cases h
      · cases h
  | _ => cases h

/-- One step whose upsert passes the action of the row. -/
private theorem keepsAction_asked (s : ClientService) {w : BapWorld} {t : String}
    (hpair : w.store.pair t = kept (upserts w t)) (h : KeepsAction (upserts w t)) {d : Nat} {o : Op} {c : Choice}
    (hK : SameAction t w (.exec d o c)) : KeepsAction (upserts ((machine s).asked w d o c) t) := by
  rw [upserts_asked]
  cases hnew : upsertOf t (.exec d w.store o (exec o c w.store).1) with
  | none => exact h
  | some x =>
    obtain ⟨rfl, hc⟩ := eq_upsert_of_upsertOf hnew
    show some x.1 = (x :: upserts w t).getLast?.map Prod.fst
    rw [List.getLast?_cons]
    cases hlast : (upserts w t).getLast? with
    | none => rfl
    | some first =>
      have haction : (w.store.pair t).map Prod.fst = some first.1 := by
        rw [hpair, kept_action, hlast, Option.map_some]
      obtain ⟨q, hq, hfirst⟩ := Option.map_eq_some_iff.1 haction
      obtain ⟨p, hp, rfl⟩ := Option.map_eq_some_iff.1 hq
      show some x.1 = some first.1
      rw [← hfirst, hK rfl hc p hp]

theorem keepsAction_run {s : ClientService} {t : String} {k : BapConfig} (h : (machine s).Runs (SameAction t) start k) :
    KeepsAction (upserts k.world t) := by
  induction h with
  | refl => rfl
  | tail hr hs ih =>
    cases hs with
    | start r hK => exact ih
    | exec c hp hK => exact keepsAction_asked s (pair_run hr t) ih hK

/-- The pair that is reported for a transaction is the latest one exactly if that has the action of the first one; so it
is in every state of a run in which every upsert passes the action of the row. -/
theorem pair_of_latest_upsert_iff (s : ClientService) (t : String) :
    (∀ k : BapConfig, (machine s).Runs Started start k → (Together k.world t ↔ KeepsAction (upserts k.world t))) ∧
      ∀ k : BapConfig, (machine s).Runs (SameAction t) start k → Together k.world t := by
  have hiff : ∀ {K : BapWorld → Action Choice Request Op → Prop} {k : BapConfig}, (machine s).Runs K start k →
      (Together k.world t ↔ KeepsAction (upserts k.world t)) := by
    intro K k hk
    rw [together_iff, pair_run hk]
    exact kept_eq_head?_iff _
  exact ⟨fun k hk => hiff hk, fun k hk => (hiff hk).2 (keepsAction_run hk)⟩

/-- A quote, with its answer. -/
private def quoting (t : String) : List (Request × Nat) :=
  [(.select [("transaction_id", .str t)], 8), (.callback "on_select" (contextOnly t), 5)]

private def sameActionTest (w : BapWorld) : Action Choice Request Op → Bool
  | .exec _ (.upsertTransaction u action _) _ => (w.store.transaction u).all fun p => p.action = action
  | a => startedTest w a

private theorem sameAction_of_test (t : String) (w : BapWorld) (a : Action Choice Request Op)
    (h : sameActionTest w a = true) : Started w a ∧ SameAction t w a := by
  cases a with
  | start r => exact ⟨started_of_test w _ h, trivial⟩
  | exec d o c =>
    refine ⟨trivial, ?_⟩
    cases o with
    | upsertTransaction u action status =>
      rintro rfl _ p hp
      have htest : ((w.store.transaction u).all fun p => p.action = action) = true := h
      rw [hp] at htest
      exact of_decide_eq_true htest
    | _ => trivial

/-- A transaction that is quoted. -/
theorem pair_of_latest_upsert_quoted :
    (ran start (inTurn (quoting "txn-0001"))).world.store.pair "txn-0001" = some ("select", "QUOTE_RECEIVED") ∧
      KeepsAction (upserts (ran start (inTurn (quoting "txn-0001"))).world "txn-0001") ∧
      Together (ran start (inTurn (quoting "txn-0001"))).world "txn-0001" := by
  have hrun : (machine {}).run? sameActionTest start (inTurn (quoting "txn-0001")) =
      some (ran start (inTurn (quoting "txn-0001"))) := rfl
  have hruns := (Machine.run?_runs hrun).mono (sameAction_of_test "txn-0001")
  obtain ⟨hiff, hsame⟩ := pair_of_latest_upsert_iff {} "txn-0001"
  have htogether := hsame _ (hruns.mono fun w a h => h.2)
  exact ⟨rfl, (hiff _ (hruns.mono fun w a h => h.1)).1 htogether, htogether⟩

/-- A transaction that is quoted and then confirmed stays a `select`. -/
theorem confirmed_pair_not_latest :
    ¬∀ (s : ClientService) (t : String) (k : BapConfig), (machine s).Runs Started start k → Together k.world t := by
  intro hall
  have hrun : (machine {}).run? startedTest start (inTurn (confirmation "txn-0001")) =
      some (ran start (inTurn (confirmation "txn-0001"))) := rfl
  have htogether := (hall {} "txn-0001" _ ((Machine.run?_runs hrun).mono started_of_test)).1
  revert htogether
  decide +kernel

end IonInsurance.Bap
