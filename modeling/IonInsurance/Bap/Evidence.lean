import IonInsurance.Bap.Stages

/-!
# The evidence of an outcome

A callback stores its snapshot before it records its status, and a failed insertion is only logged.  The snapshot needs
a row of the transaction, which the status update then creates, so the outcome of a transaction that the BAP does not
know is recorded without its snapshot.  An `on_init` records its status first.
-/

namespace IonInsurance.Bap

open Interleave

/-- The callbacks that report an outcome, each with the status that it records. -/
def outcomes : List (String × String) :=
  [("on_select", "QUOTE_RECEIVED"), ("on_init", "INIT_RECEIVED"), ("on_confirm", "CONFIRMED"),
    ("on_reconcile", "SETTLED"), ("on_cancel", "CANCELLED")]

/-- A snapshot of `t` for that callback is stored. -/
def Db.HasSnapshot (s : Db) (t onAction : String) : Prop :=
  ∃ x ∈ s.snapshots, x.transactionID = t ∧ x.onAction = onAction

private theorem outcomes_unique {onAction onAction' status : String} (h : (onAction, status) ∈ outcomes)
    (h' : (onAction', status) ∈ outcomes) : onAction = onAction' := by
  have hall : ∀ x ∈ outcomes, ∀ y ∈ outcomes, x.2 = y.2 → x.1 = y.1 := by decide
  exact hall _ h _ h' rfl

/-! ### Snapshots -/

theorem hasSnapshot_exec {o : Op} {c : Choice} {s : Db} {t onAction : String} (h : s.HasSnapshot t onAction) :
    (exec o c s).2.HasSnapshot t onAction := by
  obtain ⟨x, hx, hfor⟩ := h
  refine ⟨x, ?_, hfor⟩
  rcases snapshots_exec o c s with hkeep | ⟨_, _, _, _, _, hnew⟩
  · rw [hkeep]
    exact hx
  · rw [hnew]
    exact List.mem_append_left _ hx

/-- An insertion that finds the row of its transaction, and a payload that fits, stores the snapshot. -/
theorem hasSnapshot_saveSnapshot {c : Choice} {s : Db} {t onAction : String} {payload : Fields} (hc : c.sqlError = none)
    (hrow : (s.transaction t).isSome = true) (hon : fitsVarchar 50 onAction = true)
    (hfit : fitsJsonbFields payload = true) :
    (exec (.saveSnapshot t onAction payload) c s).2.HasSnapshot t onAction := by
  have hnone : ¬(s.transaction t).isNone = true := by
    rw [Option.isNone_iff_eq_none]
    intro h
    rw [h] at hrow
    cases hrow
  have hstored : (exec (.saveSnapshot t onAction payload) c s).2.snapshots =
      s.snapshots ++ [⟨t, onAction, payload, c.now.toMicro⟩] := by
    rw [exec, hc, statement_none]
    unfold Db.saveSnapshot
    dsimp only
    rw [if_neg hnone, hon, hfit]
    rfl
  refine ⟨⟨t, onAction, payload, c.now.toMicro⟩, ?_, rfl, rfl⟩
  rw [hstored]
  exact List.mem_append_right _ (List.mem_singleton.2 rfl)

/-! ### The order of the statements of a callback -/

def Op.isUpsert : Op → Bool
  | .upsertTransaction .. => true
  | _ => false

def Op.isSave : Op → Bool
  | .saveSnapshot .. => true
  | _ => false

/-- The operation stores the snapshot of a callback. -/
def Saves (onAction : String) (payload : Fields) (o : Op) : Prop :=
  ∃ payload', o = .saveSnapshot (transactionID payload) onAction payload' ∧
    callbackStatus onAction payload' = callbackStatus onAction payload

/-- A callback that names a transaction has asked for its snapshot to be stored. -/
def Stored (onAction : String) (payload : Fields) (h : History) : Prop :=
  transactionID payload ≠ "" → ∃ x ∈ h, Saves onAction payload x.1

/-- A callback stores only its own snapshot, and records its status after that; an `on_init` also does before it. -/
def Orders : Request → History → Op → Prop
  | .callback onAction payload, h, .upsertTransaction _ _ _ =>
    (onAction = "on_init" ∧ ∀ x ∈ h, x.1.isSave = false) ∨ Stored onAction payload h
  | .callback onAction payload, _, .saveSnapshot t onAction' payload' =>
    Saves onAction payload (.saveSnapshot t onAction' payload')
  | _, _, _ => True

/-- A callback has asked for its snapshot to be stored when it returns. -/
def Returns : Request → History → Except String Fields → Prop
  | .callback onAction payload, h, _ => Stored onAction payload h
  | _, _, _ => True

section

variable {onAction : String} {payload payload' : Fields} {h : History}

private def plain (o : Op) : Prop := o.isUpsert = false ∧ o.isSave = false

end

/-- A callback that records a status names a transaction, and its snapshot is there or can be stored: the transaction has
a row, the payload fits, and the insertion does not fail. -/
def Backed (w : BapWorld) : Action Choice Request Op → Prop
  | .start (.callback onAction payload) => (callbackStatus onAction payload).isSome = true → transactionID payload ≠ ""
  | .exec _ (.saveSnapshot t onAction payload) c =>
    (callbackStatus onAction payload).isSome = true → fitsVarchar 255 t = true →
      w.store.HasSnapshot t onAction ∨
        c.sqlError = none ∧ (w.store.transaction t).isSome = true ∧ fitsJsonbFields payload = true
  | _ => True

/-- An `on_init` of `t` has not come to its snapshot yet. -/
def Enriching (w : BapWorld) (t : String) : Prop :=
  ∃ d payload, w.request? d = some (.callback "on_init" payload) ∧ transactionID payload = t ∧
    ∀ x ∈ w.exchanges d, x.1.isSave = false

/-- What a run keeps whose callbacks are backed. -/
structure Backing (w : BapWorld) : Prop where
  named : ∀ d onAction payload, w.request? d = some (.callback onAction payload) →
    (callbackStatus onAction payload).isSome = true → transactionID payload ≠ ""
  saved : ∀ d t onAction payload answer, ⟨.saveSnapshot t onAction payload, answer⟩ ∈ w.exchanges d →
    (callbackStatus onAction payload).isSome = true → fitsVarchar 255 t = true → w.store.HasSnapshot t onAction
  evidence : ∀ onAction status, (onAction, status) ∈ outcomes → ∀ t, w.store.HasStatus t status →
    w.store.HasSnapshot t onAction ∨ onAction = "on_init" ∧ fitsVarchar 255 t = true ∧ Enriching w t

private theorem not_outcome {onAction status : String}
    (h : status ∈ ["INITIATED", "SELECT_SENT", "INIT_SENT", "CONFIRM_SENT", "CANCEL_SENT", "RECONCILING"]) :
    (onAction, status) ∉ outcomes := by
  have hall : ∀ x ∈ outcomes,
      x.2 ∉ ["INITIATED", "SELECT_SENT", "INIT_SENT", "CONFIRM_SENT", "CANCEL_SENT", "RECONCILING"] := by decide
  exact fun hout => hall _ hout h

section

variable {s : ClientService} {w : BapWorld}

private theorem Backing.started (h : Backing w) {d : Nat} {r : Request} (hK : Backed w (.start r))
    (hd : w.request? d = none) : Backing (w.started d r) where
  named e onAction payload hr hs := by
    rcases World.request?_of_started hr with ⟨-, rfl⟩ | hold
    · exact hK hs
    · exact h.named e onAction payload hold hs
  saved := h.saved
  evidence onAction status hout t hst := by
    rcases h.evidence onAction status hout t hst with hsnap | ⟨hon, hfit, e, payload, hr, ht, hno⟩
    · exact .inl hsnap
    · exact .inr ⟨hon, hfit, e, payload, World.request?_stays hd hr, ht, hno⟩

/-- The snapshot of a backed callback is there after its insertion. -/
private theorem hasSnapshot_of_backed {d : Nat} {t onAction : String} {payload : Fields} {c : Choice}
    (hK : Backed w (.exec d (.saveSnapshot t onAction payload) c))
    (hs : (callbackStatus onAction payload).isSome = true) (hfit : fitsVarchar 255 t = true) :
    (exec (.saveSnapshot t onAction payload) c w.store).2.HasSnapshot t onAction := by
  rcases hK hs hfit with hthere | ⟨hc, hrow, hjson⟩
  · exact hasSnapshot_exec hthere
  · obtain ⟨⟨action, status⟩, hstatus⟩ := Option.isSome_iff_exists.1 hs
    have hon : ∀ x ∈ outcomes, fitsVarchar 50 x.1 = true := by decide +kernel
    exact hasSnapshot_saveSnapshot hc hrow (hon _ (callbackStatus_mem hstatus)) hjson

/-- An `on_init` that has not come to its snapshot yet still has not, or its snapshot has just been stored. -/
private theorem enriching_asked {d : Nat} {r : Request} {o : Op} {c : Choice} {t : String}
    (hK : Backed w (.exec d o c)) (hr : w.request? d = some r) (ho : Orders r (w.exchanges d) o)
    (hfit : fitsVarchar 255 t = true) (h : Enriching w t) :
    (exec o c w.store).2.HasSnapshot t "on_init" ∨ Enriching ((machine s).asked w d o c) t := by
  obtain ⟨e, payload, hre, ht, hno⟩ := h
  by_cases hsave : e = d ∧ o.isSave = true
  · left
    obtain ⟨rfl, hsave⟩ := hsave
    obtain rfl := Option.some.inj (hre.symm.trans hr)
    cases o with
    | saveSnapshot u onAction payload' =>
      obtain ⟨_, heq, hs⟩ := ho
      obtain ⟨rfl, rfl, rfl⟩ := Op.saveSnapshot.inj heq
      subst ht
      exact hasSnapshot_of_backed hK (by rw [hs]; rfl) hfit
    | _ => cases hsave
  · right
    refine ⟨e, payload, hre, ht, fun x hx => ?_⟩
    rcases Machine.mem_exchanges_asked hx with hold | ⟨hed, rfl⟩
    · exact hno x hold
    · exact Bool.eq_false_iff.2 fun hsaves => hsave ⟨hed, hsaves⟩

/-- A status that has just been recorded by a callback. -/
private theorem evidence_of_upsert (h : Backing w) {d : Nat} {onAction t action status : String} {payload : Fields}
    {c : Choice} (hr : w.request? d = some (.callback onAction payload)) (ht : transactionID payload = t)
    (hs : callbackStatus onAction payload = some (action, status)) (hfit : fitsVarchar 255 t = true)
    (ho : Orders (.callback onAction payload) (w.exchanges d) (.upsertTransaction t action status)) :
    (exec (.upsertTransaction t action status) c w.store).2.HasSnapshot t onAction ∨
      onAction = "on_init" ∧ Enriching ((machine s).asked w d (.upsertTransaction t action status) c) t := by
  have hsome : (callbackStatus onAction payload).isSome = true := by rw [hs]; rfl
  rcases ho with ⟨rfl, hno⟩ | hstored
  · right
    refine ⟨rfl, d, payload, hr, ht, fun x hx => ?_⟩
    rcases Machine.mem_exchanges_asked hx with hold | ⟨-, rfl⟩
    · exact hno x hold
    · rfl
  · left
    obtain ⟨⟨o, answer⟩, hx, payload', rfl, hs'⟩ := hstored (h.named d onAction payload hr hsome)
    rw [ht] at hx
    exact hasSnapshot_exec (h.saved d t onAction payload' answer hx (hs' ▸ hsome) hfit)

private theorem Backing.asked (h : Backing w) {d : Nat} {r : Request} {o : Op} {c : Choice}
    (hK : Backed w (.exec d o c)) (hr : w.request? d = some r) (ho : MayAsk r (w.exchanges d) o)
    (horder : Orders r (w.exchanges d) o) : Backing ((machine s).asked w d o c) where
  named := h.named
  saved e t onAction payload answer hx hs hfit := by
    show (exec o c w.store).2.HasSnapshot t onAction
    rcases Machine.exchange_asked hx with hold | ⟨rfl, rfl, -⟩
    · exact hasSnapshot_exec (h.saved e t onAction payload answer hold hs hfit)
    · exact hasSnapshot_of_backed hK hs hfit
  evidence onAction status hout t hst := by
    show (exec o c w.store).2.HasSnapshot t onAction ∨ _
    rcases hasStatus_exec hst with hold | ⟨action, rfl, -, hfit⟩
    · rcases h.evidence onAction status hout t hold with hsnap | ⟨rfl, hfit, henriching⟩
      · exact .inl (hasSnapshot_exec hsnap)
      · rcases enriching_asked (s := s) hK hr horder hfit henriching with hsnap | hstill
        · exact .inl hsnap
        · exact .inr ⟨rfl, hfit, hstill⟩
    · rcases mayAsk_upsert ho with hrec | ⟨onAction', payload, rfl, ht, hs⟩ | ⟨-, -, rfl⟩
      · have hmem := List.mem_append_left ["RECONCILING"] (Request.records_status hrec)
        exact absurd hout (not_outcome hmem)
      · obtain rfl := outcomes_unique (callbackStatus_mem hs) hout
        rcases evidence_of_upsert (s := s) h hr ht hs hfit horder with hsnap | ⟨hon, henriching⟩
        · exact .inl hsnap
        · exact .inr ⟨hon, hfit, henriching⟩
      · exact absurd hout (not_outcome (by decide))

end

/-- No statement is made to fail. -/
def Succeeds : Action Choice Request Op → Prop
  | .exec _ _ c => c.sqlError = none
  | .start _ => True

end IonInsurance.Bap
