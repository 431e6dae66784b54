import IonInsurance.Interleave.Compose
import IonInsurance.Interleave.Count
import IonInsurance.Bap.Protocol
import IonInsurance.Bap.Rows

/-!
# How far a transaction has come

A status that says that a policy has been confirmed or settled is recorded for a callback, and a reconcile is sent for
an `on_confirm` without an error: the BAP records nothing that it was not told.
-/

namespace IonInsurance.Bap

open Interleave

/-! ### What a status rests on -/

/-- The BAP has received a callback for `t` that records a status. -/
def Received (w : BapWorld) (onAction t : String) : Prop :=
  ∃ d payload, w.request? d = some (.callback onAction payload) ∧ transactionID payload = t ∧
    (callbackStatus onAction payload).isSome = true

/-- The steps of the BAP: a goroutine runs only after it was started. -/
def Started (w : BapWorld) : Action Choice Request Op → Prop
  | .start (.sendReconcile t) => w.Asked (.goSendReconcile t)
  | _ => True

structure Progress (w : BapWorld) : Prop where
  confirmed : ∀ t, w.store.HasStatus t "CONFIRMED" → Received w "on_confirm" t
  reconciling : ∀ t, w.store.HasStatus t "RECONCILING" → Received w "on_confirm" t
  settled : ∀ t, w.store.HasStatus t "SETTLED" → Received w "on_reconcile" t
  go : ∀ t, w.Asked (.goSendReconcile t) → Received w "on_confirm" t
  goroutine : ∀ d t, w.request? d = some (.sendReconcile t) → Received w "on_confirm" t
  reconcile : ∀ payload, w.Asked (.post .bppWebhook "reconcile" payload) → Received w "on_confirm" (transactionID payload)

theorem Received.started {w : BapWorld} {onAction t : String} (h : Received w onAction t) {d : Nat} (r : Request)
    (hd : w.request? d = none) : Received (w.started d r) onAction t := by
  obtain ⟨e, payload, hr, ht, hs⟩ := h
  exact ⟨e, payload, World.request?_stays hd hr, ht, hs⟩

theorem Received.asked {s : ClientService} {w : BapWorld} {onAction t : String} (h : Received w onAction t) (d : Nat)
    (o : Op) (c : Choice) : Received ((machine s).asked w d o c) onAction t := h

theorem reportsIssued_iff {onAction : String} {payload : Fields} (h : reportsIssued onAction payload = true) :
    onAction = "on_confirm" ∧ (callbackStatus onAction payload).isSome = true := by
  unfold reportsIssued at h
  simp only [Bool.and_eq_true, Bool.not_eq_true', decide_eq_true_eq] at h
  obtain ⟨⟨rfl, he⟩, -⟩ := h
  refine ⟨rfl, ?_⟩
  simp [callbackStatus, he]

section

variable {s : ClientService} {w : BapWorld} {d : Nat} {r : Request} {o : Op} {c : Choice}

/-- An upsert that records such a status does so for a callback, or in a goroutine. -/
private theorem recorded (hw : Progress w) (hr : w.request? d = some r) {t action status : String}
    (ho : MayAsk r (w.exchanges d) (.upsertTransaction t action status)) :
    (status = "CONFIRMED" → Received w "on_confirm" t) ∧ (status = "RECONCILING" → Received w "on_confirm" t) ∧
      (status = "SETTLED" → Received w "on_reconcile" t) := by
  rcases mayAsk_upsert ho with hrec | ⟨onAction, payload, rfl, ht, hs⟩ | ⟨rfl, -, rfl⟩
  · -- a call of the frontend records none of them
    have hmem := Request.records_status hrec
    refine ⟨?_, ?_, ?_⟩ <;> rintro rfl <;> exact absurd hmem (by decide)
  · have hmem := callbackStatus_mem hs
    have hreceived : Received w onAction t := ⟨d, payload, hr, ht, by rw [hs]; rfl⟩
    refine ⟨?_, ?_, ?_⟩
    · rintro rfl
      have hon : onAction = "on_confirm" := by simpa using hmem
      exact hon ▸ hreceived
    · rintro rfl
      exact absurd hmem (by simp)
    · rintro rfl
      have hon : onAction = "on_reconcile" := by simpa using hmem
      exact hon ▸ hreceived
  · exact ⟨fun h => absurd h (by decide), fun _ => hw.goroutine d t hr, fun h => absurd h (by decide)⟩

theorem Progress.asked (hw : Progress w) (hr : w.request? d = some r) (ho : MayAsk r (w.exchanges d) o) :
    Progress ((machine s).asked w d o c) := by
  have hstatus : ∀ t status, ((machine s).asked w d o c).store.HasStatus t status →
      w.store.HasStatus t status ∨ ∃ action, o = .upsertTransaction t action status := by
    intro t status h
    rcases hasStatus_exec h with hold | ⟨action, ho, -⟩
    · exact .inl hold
    · exact .inr ⟨action, ho⟩
  constructor
  · intro t h
    rcases hstatus t _ h with hold | ⟨action, rfl⟩
    · exact hw.confirmed t hold
    · exact (recorded hw hr ho).1 rfl
  · intro t h
    rcases hstatus t _ h with hold | ⟨action, rfl⟩
    · exact hw.reconciling t hold
    · exact (recorded hw hr ho).2.1 rfl
  · intro t h
    rcases hstatus t _ h with hold | ⟨action, rfl⟩
    · exact hw.settled t hold
    · exact (recorded hw hr ho).2.2 rfl
  · rintro t ⟨e, a, hx⟩
    rcases Machine.exchange_asked hx with hold | ⟨rfl, rfl, -⟩
    · exact hw.go t ⟨e, a, hold⟩
    · cases ho with
      | quiet _ _ hq => cases hq
      | @go onAction payload hi =>
        obtain ⟨rfl, hsome⟩ := reportsIssued_iff hi
        exact ⟨e, payload, hr, rfl, hsome⟩
  · exact hw.goroutine
  · rintro payload ⟨e, a, hx⟩
    rcases Machine.exchange_asked hx with hold | ⟨rfl, rfl, -⟩
    · exact hw.reconcile payload ⟨e, a, hold⟩
    · cases ho with
      | quiet _ _ hq => cases hq
      | reconcile ht =>
        rw [ht]
        exact hw.goroutine e _ hr

theorem Progress.started (hw : Progress w) (hK : Started w (.start r)) (hd : w.request? d = none) :
    Progress (w.started d r) where
  confirmed t h := (hw.confirmed t h).started r hd
  reconciling t h := (hw.reconciling t h).started r hd
  settled t h := (hw.settled t h).started r hd
  go t h := (hw.go t h).started r hd
  goroutine e t hr := by
    rcases World.request?_of_started hr with ⟨-, rfl⟩ | hr
    · exact (hw.go t hK).started _ hd
    · exact (hw.goroutine e t hr).started r hd
  reconcile payload h := (hw.reconcile payload h).started r hd

end

/-- The BAP before its first request. -/
def start : BapConfig := Config.init {}

theorem progress_start : Progress start.world where
  confirmed _ := by
    rintro ⟨p, hp, -⟩
    cases hp
  reconciling _ := by
    rintro ⟨p, hp, -⟩
    cases hp
  settled _ := by
    rintro ⟨p, hp, -⟩
    cases hp
  go _ := by
    rintro ⟨d, a, hx⟩
    cases hx
  goroutine _ _ h := by cases h
  reconcile _ := by
    rintro ⟨d, a, hx⟩
    cases hx

end IonInsurance.Bap
