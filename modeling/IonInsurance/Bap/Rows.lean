import IonInsurance.Bap.Client

/-!
# What an operation does to the tables of the BAP

`DbStep` says what an operation does to the rows, the snapshots, the keys and the subscriptions (`exec_dbStep`); what an
operation leaves alone is read off from it.
-/

namespace IonInsurance.Bap

/-- The operation may change a subscription. -/
def Op.mails : Op → Bool
  | .subscribe _ | .receive _ | .close _ | .publish .. => true
  | _ => false

/-- What an operation does to the tables: it records a status, updates the checkout of a row, stores a snapshot, changes
the keys or the subscriptions, or leaves them alone. -/
inductive DbStep (s : Db) : Op → Choice → Db → Prop where
  | keep (o : Op) (c : Choice) : DbStep s o c s
  | upsert {c : Choice} (t action status : String) (p : Transaction) (hp : p.status = status) (hc : c.sqlError = none)
      (hfit : fitsVarchar 255 t = true) : DbStep s (.upsertTransaction t action status) c (s.putTransaction t p)
  | checkout {o : Op} {c : Choice} (t : String) (f : Transaction → Transaction) (hf : ∀ p, (f p).status = p.status) :
      DbStep s o c (s.updateTransaction t f)
  | snapshot {c : Choice} (t onAction : String) (payload : Fields) (hc : c.sqlError = none)
      (hrow : (s.transaction t).isSome = true) (hfit : fitsJsonbFields payload = true) :
      DbStep s (.saveSnapshot t onAction payload) c
        { s with snapshots := s.snapshots ++ [⟨t, onAction, payload, c.now.toMicro⟩] }
  | keys (o : Op) (c : Choice) (pending : List String) : DbStep s o c { s with pending := pending }
  | mail {o : Op} {c : Choice} (ho : o.mails = true) (subscriptions : List Subscription) :
      DbStep s o c { s with subscriptions := subscriptions }

private theorem dbStep_upsert {s : Db} {c : Choice} (t action status : String) (hc : c.sqlError = none) :
    DbStep s (.upsertTransaction t action status) c (s.upsertTransaction t action status c.now).2 := by
  unfold Db.upsertTransaction
  split
  · rename_i hfit
    simp only [Bool.and_eq_true] at hfit
    cases hp : s.transaction t with
    | none => exact .upsert t action status _ rfl hc hfit.1.1
    | some p =>
      simp only [Db.updateTransaction, hp]
      exact .upsert t action status _ rfl hc hfit.1.1
  · exact .keep ..

private theorem dbStep_saveSnapshot {s : Db} {c : Choice} (t onAction : String) (payload : Fields)
    (hc : c.sqlError = none) :
    DbStep s (.saveSnapshot t onAction payload) c (s.saveSnapshot t onAction payload c.now).2 := by
  unfold Db.saveSnapshot
  dsimp only
  by_cases hrow : (s.transaction t).isNone = true
  · rw [if_pos hrow]
    exact .keep ..
  · rw [if_neg hrow]
    by_cases hfit : (fitsVarchar 50 onAction && fitsJsonbFields payload) = true
    · rw [if_pos hfit]
      exact .snapshot t onAction payload hc (by simpa [Option.isSome_iff_ne_none] using hrow) (Bool.and_eq_true_iff.1 hfit).2
    · rw [if_neg hfit]
      exact .keep ..

/-- Every operation changes the tables in one of these ways. -/
theorem exec_dbStep (o : Op) (c : Choice) (s : Db) : DbStep s o c (exec o c s).2 := by
  have hstatement : ∀ {α : Type} (e : Option String) (run : Except String α × Db), (e = none → DbStep s o c run.2) →
      DbStep s o c (statement e s run).2 := by
    intro α e run h
    cases e with
    | none => exact h rfl
    | some err => exact .keep ..
  cases o with
  | upsertTransaction t action status => exact hstatement _ _ fun hc => dbStep_upsert t action status hc
  | saveSnapshot t onAction payload => exact hstatement _ _ fun hc => dbStep_saveSnapshot t onAction payload hc
  | setCheckoutRequestID t rid =>
    refine hstatement _ _ fun _ => ?_
    unfold Db.setCheckoutRequestID
    split
    · exact .checkout t _ fun p => rfl
    · exact .keep ..
  | setCheckout t invoice url total =>
    refine hstatement _ _ fun _ => ?_
    unfold Db.setCheckout
    split
    · exact .checkout t _ fun p => rfl
    · exact .keep ..
    · exact .keep ..
  | selectForReconcile | selectForNotify | selectOnInit => exact hstatement _ _ fun _ => .keep ..
  | setPending | deletePending => exact hstatement _ _ fun _ => .keys ..
  | existsPending key =>
    simp only [exec, statement_read]
    split
    · exact .keys ..
    · exact .keep ..
  | subscribe | close => exact .mail rfl _
  | publish => exact hstatement _ _ fun _ => .mail rfl _
  | receive n =>
    show DbStep s (.receive n) c (if c.timeout = true then (none, s) else s.receive n).2
    split
    · exact .keep ..
    · unfold Db.receive
      split
      · exact .mail rfl _
      · exact .keep ..
  | now | newUUID | post | goSendReconcile => exact .keep ..

@[simp] theorem snapshots_updateTransaction (s : Db) (t : String) (f : Transaction → Transaction) :
    (s.updateTransaction t f).snapshots = s.snapshots := by
  unfold Db.updateTransaction
  split <;> rfl

@[simp] theorem subscriptions_updateTransaction (s : Db) (t : String) (f : Transaction → Transaction) :
    (s.updateTransaction t f).subscriptions = s.subscriptions := by
  unfold Db.updateTransaction
  split <;> rfl

/-- Most operations leave the subscriptions alone. -/
theorem exec_subscriptions {o : Op} (ho : o.mails = false) (c : Choice) (s : Db) :
    (exec o c s).2.subscriptions = s.subscriptions := by
  have hstep := exec_dbStep o c s
  generalize (exec o c s).2 = s' at hstep ⊢
  cases hstep with
  | keep => rfl
  | upsert => rfl
  | checkout t f => exact subscriptions_updateTransaction s t f
  | snapshot => rfl
  | keys => rfl
  | mail hm =>
    rw [ho] at hm
    cases hm

/-- The snapshots stay, or one has just been stored. -/
theorem snapshots_exec (o : Op) (c : Choice) (s : Db) :
    (exec o c s).2.snapshots = s.snapshots ∨ ∃ t onAction payload, o = .saveSnapshot t onAction payload ∧
      c.sqlError = none ∧ (exec o c s).2.snapshots = s.snapshots ++ [⟨t, onAction, payload, c.now.toMicro⟩] := by
  have hstep := exec_dbStep o c s
  generalize (exec o c s).2 = s' at hstep ⊢
  cases hstep with
  | keep => exact .inl rfl
  | upsert => exact .inl rfl
  | checkout t f => exact .inl (snapshots_updateTransaction s t f)
  | snapshot t onAction payload hc hrow hfit => exact .inr ⟨t, onAction, payload, rfl, hc, rfl⟩
  | keys => exact .inl rfl
  | mail => exact .inl rfl

/-- A snapshot was there, or it has just been stored: its transaction has a row, and its payload fits. -/
theorem mem_snapshots {o : Op} {c : Choice} {s : Db} {x : Snapshot} (h : x ∈ (exec o c s).2.snapshots) :
    x ∈ s.snapshots ∨ ∃ payload, o = .saveSnapshot x.transactionID x.onAction payload ∧ c.sqlError = none ∧
      (s.transaction x.transactionID).isSome = true ∧ fitsJsonbFields payload = true := by
  have hstep := exec_dbStep o c s
  generalize (exec o c s).2 = s' at hstep h
  cases hstep with
  | keep => exact .inl h
  | upsert => exact .inl h
  | checkout t f =>
    rw [snapshots_updateTransaction] at h
    exact .inl h
  | snapshot t onAction payload hc hrow hfit =>
    rcases List.mem_append.1 h with hold | hnew
    · exact .inl hold
    · obtain rfl := List.mem_singleton.1 hnew
      exact .inr ⟨payload, rfl, hc, hrow, hfit⟩
  | keys => exact .inl h
  | mail => exact .inl h

/-! ### Statuses -/

/-- The row of `t` has that status. -/
def Db.HasStatus (s : Db) (t status : String) : Prop := ∃ p, s.transaction t = some p ∧ p.status = status

theorem Db.HasStatus.unique {s : Db} {t status status' : String} (h : s.HasStatus t status)
    (h' : s.HasStatus t status') : status = status' := by
  obtain ⟨p, hp, rfl⟩ := h
  obtain ⟨q, hq, rfl⟩ := h'
  rw [hp] at hq
  rw [Option.some.inj hq]

private theorem hasStatus_update {s : Db} {t u status : String} {f : Transaction → Transaction}
    (hf : ∀ p, (f p).status = p.status) (h : (s.updateTransaction u f).HasStatus t status) : s.HasStatus t status := by
  obtain ⟨p', hp', hs⟩ := h
  rw [Db.transaction_updateTransaction] at hp'
  split at hp'
  · obtain ⟨p, hp, rfl⟩ := Option.map_eq_some_iff.1 hp'
    exact ⟨p, hp, (hf p).symm.trans hs⟩
  · exact ⟨p', hp', hs⟩

private theorem hasStatus_put {s : Db} {t u status : String} {p : Transaction}
    (h : (s.putTransaction u p).HasStatus t status) : s.HasStatus t status ∨ u = t ∧ p.status = status := by
  obtain ⟨p', hp', hs⟩ := h
  rw [Db.transaction_putTransaction] at hp'
  split at hp'
  · rename_i htu
    obtain rfl := Option.some.inj hp'
    exact .inr ⟨htu.symm, hs⟩
  · exact .inl ⟨p', hp', hs⟩

/-- A row has a status that it had before, or it has just been recorded by a statement that has succeeded. -/
theorem hasStatus_exec {o : Op} {c : Choice} {s : Db} {t status : String} (h : (exec o c s).2.HasStatus t status) :
    s.HasStatus t status ∨ ∃ action, o = .upsertTransaction t action status ∧ c.sqlError = none ∧
      fitsVarchar 255 t = true := by
  have hstep := exec_dbStep o c s
  generalize (exec o c s).2 = s' at hstep h
  cases hstep with
  | keep => exact .inl h
  | upsert u action status' p hp hc hfit =>
    rcases hasStatus_put h with hold | ⟨rfl, rfl⟩
    · exact .inl hold
    · exact .inr ⟨action, by rw [hp], hc, hfit⟩
  | checkout u f hf => exact .inl (hasStatus_update hf h)
  | snapshot => exact .inl h
  | keys => exact .inl h
  | mail => exact .inl h

end IonInsurance.Bap
