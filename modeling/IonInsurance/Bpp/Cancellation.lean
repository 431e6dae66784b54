import IonInsurance.Bpp.Issuance

/-!
# Cancelled policies

A cancelled row comes back to life in two ways: a confirm reads it after it was cancelled (also by way of a redelivered
init), or a cancel takes effect between the read of a confirm and its update.  In a run without such steps, a row that
was cancelled is never `ACTIVE` again.
-/

namespace IonInsurance.Bpp

open Interleave

/-- No confirm reads an issuable row of `t` that was cancelled before, and no cancel of `t` takes effect between the
read of a confirm and its update. -/
def CleanCancel (t : String) (w : BppWorld) : Action Choice Request Op → Prop
  | .exec _ (.selectForConfirm u) c =>
    u = t → c.sqlError = none → w.Once (·.HasStatus t .cancelled) → ¬w.store.Issuable t
  | .exec _ (.cancelPending u) c =>
    u = t → c.sqlError = none → w.store.HasStatus t .pendingIssuance → ∀ d, ¬Issuing w d t
  | _ => True

/-- A row that was cancelled is not active, and nobody is about to activate it. -/
def CancelledFinal (t : String) (w : BppWorld) : Prop :=
  w.Once (·.HasStatus t .cancelled) → ¬w.store.HasStatus t .active ∧ ∀ d, ¬Issuing w d t

variable {s : BecknService} {t : String} {w : BppWorld} {d : Nat} {o : Op} {c : Choice}

/-- The database is as before if the statement fails. -/
private theorem store_of_sqlError (hc : c.sqlError ≠ none) (t : String) :
    ((machine s).asked w d (.cancelPending t) c).store = w.store := by
  cases he : c.sqlError with
  | none => exact absurd he hc
  | some err => simp only [Machine.asked_store, machine, exec, he, statement_some]

private theorem cancelledFinal_keeps (s : BecknService) (t : String) :
    (protocol s).Keeps (CleanCancel t) (CancelledFinal t) where
  start w d r h _ _ _ hc := by
    obtain ⟨hact, hiss⟩ := h ((World.once_started ..).1 hc)
    exact ⟨hact, fun e hi => hiss e ⟨hi.read, hi.waiting⟩⟩
  exec := by
    intro w d r o c h hK hr ho hc
    have hrow := exec_rowStep o c w.store t
    by_cases hold : w.Once (·.HasStatus t .cancelled)
    · obtain ⟨hact, hiss⟩ := h hold
      refine ⟨fun ha => ?_, fun e hi => ?_⟩
      · rcases hrow.active ha with ha | ⟨number, url, a, b, rfl⟩
        · exact hact ha
        · exact hiss d (issuing_of_mayAsk ho)
      · rcases issuing_asked hi with hi | ⟨-, rfl, he, hi⟩
        · exact hiss e hi
        · exact hK rfl he hold hi
    · -- the row is cancelled by this step
      have hnew : ((machine s).asked w d o c).store.HasStatus t .cancelled :=
        ((Machine.once_asked ..).1 hc).resolve_right hold
      rcases hrow.cancelled hnew with hcan | ⟨rfl, hpend⟩
      · exact absurd (.inl hcan) hold
      · have he : c.sqlError = none := by
          by_contra he
          rw [store_of_sqlError he] at hnew
          exact hold (.inl hnew)
        refine ⟨fun ha => ?_, fun e hi => ?_⟩
        · cases hnew.unique ha
        · rcases issuing_asked hi with hi | ⟨-, ho', -⟩
          · exact hK rfl he hpend e hi
          · cases ho'

/-- In a run whose steps are all clean, a policy that was cancelled is not active. -/
theorem cancelled_final (s : BecknService) (t : String) {k₁ k₂ : BppConfig}
    (h₁ : (machine s).Runs (CleanCancel t) start k₁) (h₂ : (machine s).Runs (CleanCancel t) k₁ k₂)
    (hc : k₁.world.store.HasStatus t .cancelled) : ¬k₂.world.store.HasStatus t .active := by
  have h₀ : CancelledFinal t start.world := by
    rintro (⟨p, hp, -⟩ | ⟨d, s', o, a, hev, -⟩)
    · cases hp
    · cases hev
  have hk := Protocol.invariant (cancelledFinal_keeps s t) (Protocol.Obeyed.init _) h₀ (h₁.trans h₂)
  exact (hk (h₂.once (.inl hc))).1

/-- No confirm has read anything before a cancel, and no confirm reads a paid row. -/
private def unreadTest (w : BppWorld) : Action Choice Request Op → Bool
  | .exec _ (.selectForConfirm t) _ => (w.store.policy t).all fun p => !p.paymentReceived
  | .exec _ (.cancelPending _) _ => w.trace.all fun
    | .exec _ _ (.selectForConfirm _) _ => false
    | _ => true
  | _ => true

private theorem cleanCancel_of_test (t : String) (w : BppWorld) (a : Action Choice Request Op)
    (h : unreadTest w a = true) : CleanCancel t w a := by
  cases a with
  | start r => trivial
  | exec d o c =>
    cases o with
    | selectForConfirm u =>
      rintro rfl - - ⟨p, hp, hi⟩
      have hpaid : p.paymentReceived = true := hi.paid
      simp [unreadTest, hp, hpaid] at h
    | cancelPending u =>
      rintro - - - e ⟨⟨row, -, hx⟩, -⟩
      obtain ⟨s', hs'⟩ := World.mem_exchanges.1 hx
      exact absurd (List.all_eq_true.1 h _ hs') (by simp)
    | _ => trivial

/-- The cancel comes before the payment: the confirm that follows is rejected. -/
theorem cancelled_final_unpaid :
    ∃ k₁ k₂ : BppConfig, k₁.world.store.HasStatus "t" .cancelled ∧ k₁.world.trace.length < k₂.world.trace.length ∧
      ¬k₂.world.store.HasStatus "t" .active := by
  have hrun : (((machine {}).run? unreadTest start
      ([.start (.init (bareMessage "t"))] ++ .replicate 4 (.exec 0 {}) ++
        [.start (.cancel (bareMessage "t"))] ++ .replicate 4 (.exec 1 {}))).any fun k₁ =>
      k₁.world.store.HasStatus "t" .cancelled ∧ ((machine {}).run? unreadTest k₁
        ([.start (.confirm (bareMessage "t"))] ++ .replicate 4 (.exec 2 {}))).any fun k₂ =>
          k₁.world.trace.length < k₂.world.trace.length) = true := by
    decide +kernel
  obtain ⟨k₁, h₁, hk₁⟩ := (Option.any_eq_true _ _).1 hrun
  obtain ⟨hc, hrun₂⟩ := of_decide_eq_true hk₁
  obtain ⟨k₂, h₂, hk₂⟩ := (Option.any_eq_true _ _).1 hrun₂
  refine ⟨k₁, k₂, hc, of_decide_eq_true hk₂, ?_⟩
  exact cancelled_final {} "t" ((Machine.run?_runs h₁).mono (cleanCancel_of_test "t"))
    ((Machine.run?_runs h₂).mono (cleanCancel_of_test "t")) hc

/-- A confirm after the cancel issues the policy all the same. -/
theorem confirm_revives_cancelled :
    ¬∀ (s : BecknService) (t : String) (k₁ k₂ : BppConfig), Reachable s k₁ → (machine s).Runs Machine.anything k₁ k₂ →
      k₁.world.store.HasStatus t .cancelled → ¬k₂.world.store.HasStatus t .active := by
  intro hall
  let k₁ : BppConfig := (machine {}).serveAll start
    [(.init (bareMessage "t"), fun _ => {}), (.simulatePayment "t", fun _ => {}), (.cancel (bareMessage "t"), fun _ => {})]
  refine hall {} "t" k₁ _ (Machine.serveAll_runs ..) (Machine.serve_runs k₁ (.confirm (bareMessage "t")) fun _ => {})
    ?_ ?_
  · decide +kernel
  · decide +kernel

end IonInsurance.Bpp
