import IonInsurance.Bpp.Answers
import IonInsurance.Bpp.Issuance
import IonInsurance.Network.Rules

/-!
# Cancellations on both sides

The BAP marks a transaction `CANCELLED` for an `on_cancel`, and the BPP sends one for every cancel that it processes.
If the BPP processes cancels only of rows that are cancelled or pending, then what the BAP has marked was cancelled at
the BPP; an `ACTIVE` row is where the two sides part.
-/

namespace IonInsurance.Network

open Interleave

/-- The BPP processes a cancel only of a row that is cancelled afterwards. -/
def cancelsCancellable (s₁ : Bap.ClientService) (s₂ : Bpp.BecknService) : Rules (Bap.machine s₁) (Bpp.machine s₂) where
  left _ _ _ := True
  right
    | _, w₂, .exec _ (.cancelPending t) c => w₂.store.Cancellable t c
    | _, _, _ => True

/-- The update of a cancel of `t`, asked of `db` and answered `a`, has left a cancelled row. -/
def Cancelled (db : Bpp.Db) (t : String) (a : Except String Unit) : Prop :=
  ∃ c, (Bpp.exec (.cancelPending t) c db).1 = a ∧ (Bpp.exec (.cancelPending t) c db).2.HasStatus t .cancelled

/-- An `on_cancel` that has arrived answers a cancel of its transaction, whose update was asked of a database and answered
with `P`. -/
def AnswersCancel (w₂ : Bpp.BppWorld) (payload : Fields) (P : Bpp.Db → Except String Unit → Prop) : Prop :=
  ∃ m d req db a, payload = receivedFields m ∧ w₂.request? d = some (.cancel req) ∧
    Bpp.transactionID req = Bpp.transactionID payload ∧ Bpp.Answered w₂ d "on_cancel" m ∧
      .exec d db (.cancelPending (Bpp.transactionID payload)) a ∈ w₂.trace ∧ P db a

/-- What the BAP has marked, and what the messages say. -/
structure CancelMessages (w₁ : Bap.BapWorld) (w₂ : Bpp.BppWorld) : Prop where
  marked : ∀ t, w₁.store.HasStatus t "CANCELLED" → Bap.Received w₁ "on_cancel" t
  delivered : ∀ d payload, w₁.request? d = some (.callback "on_cancel" payload) →
    PostedByBpp w₂ .onixBPPCaller "on_cancel" payload
  answered : ∀ d payload, Bpp.Answered w₂ d "on_cancel" payload →
    ∃ r, w₂.request? d = some r ∧ Bpp.Cancels r (w₂.exchanges d) payload

/-- Every cancel has found a row that was not active, and has left a cancelled one. -/
def CancelsInactive (w₂ : Bpp.BppWorld) : Prop :=
  ∀ d db t a, .exec d db (.cancelPending t) a ∈ w₂.trace → ¬db.HasStatus t .active ∧ Cancelled db t a

section

variable {s₁ : Bap.ClientService} {s₂ : Bpp.BecknService} {w₁ : Bap.BapWorld} {w₂ : Bpp.BppWorld}

/-- The BAP records a cancellation for an `on_cancel` only. -/
private theorem received_cancel {d : Nat} {r : Bap.Request} {h : Bap.History} {t action : String}
    (hr : w₁.request? d = some r) (ho : Bap.MayAsk r h (.upsertTransaction t action "CANCELLED")) :
    Bap.Received w₁ "on_cancel" t := by
  rcases Bap.mayAsk_upsert ho with hrec | ⟨onAction, payload, rfl, ht, hs⟩ | ⟨-, -, hstatus⟩
  · exact absurd (Bap.Request.records_status hrec) (by decide)
  · obtain rfl : onAction = "on_cancel" := by simpa using Bap.callbackStatus_mem hs
    exact ⟨d, payload, hr, ht, by rw [hs]; rfl⟩
  · exact absurd hstatus (by decide)

/-- The steps of the BAP keep what the messages say. -/
private theorem cancelMessages_left (w₂ : Bpp.BppWorld) :
    (Bap.protocol s₁).Keeps ((rules s₁ s₂).left w₂) fun w₁ => CancelMessages w₁ w₂ where
  start w₁ d r h hK hd _ := by
    refine ⟨fun t hs => (h.marked t hs).started r hd, ?_, h.answered⟩
    intro e payload hr
    rcases World.request?_of_started hr with ⟨-, rfl⟩ | hr
    · exact hK _ _ _ rfl
    · exact h.delivered e payload hr
  exec w₁ d r o c h _ hr ho := by
    refine ⟨fun t hs => ?_, h.delivered, h.answered⟩
    rcases Bap.hasStatus_exec hs with hold | ⟨action, rfl, -⟩
    · exact h.marked t hold
    · exact received_cancel hr ho

/-- The steps of the BPP keep what the messages say. -/
private theorem cancelMessages_right (w₁ : Bap.BapWorld) :
    (Bpp.cancelProtocol s₂).Keeps ((rules s₁ s₂).right w₁) fun w₂ => CancelMessages w₁ w₂ where
  start w₂ d r h _ hd _ := by
    refine ⟨h.marked, h.delivered, fun e payload ha => ?_⟩
    obtain ⟨r', hr', hc⟩ := h.answered e payload ha
    exact ⟨r', World.request?_stays hd hr', hc⟩
  exec w₂ d r o c h _ hr ho := by
    refine ⟨h.marked, fun e payload he => (h.delivered e payload he).asked d o c, ?_⟩
    rintro e payload ⟨reply, hx⟩
    -- the on_cancel was sent before, or this step sends it after the update of its cancel
    have hsub := Machine.exchanges_subset (Bpp.machine s₂) w₂ d e o c
    rcases Machine.exchange_asked hx with hold | ⟨rfl, rfl, -⟩
    · obtain ⟨r', hr', hreq, a, ha⟩ := h.answered e payload ⟨reply, hold⟩
      exact ⟨r', hr', hreq, a, hsub ha⟩
    · obtain ⟨hreq, a, ha⟩ := ho payload rfl
      exact ⟨r, hr, hreq, a, hsub ha⟩

/-- What the messages say holds in every run. -/
private theorem cancelMessages {n : NetConfig} (hn : (rules s₁ s₂).Runs start n) :
    CancelMessages n.1.world n.2.world := by
  have hstart : CancelMessages start.1.world start.2.world := by
    constructor
    · rintro t ⟨p, hp, -⟩
      cases hp
    · intro d payload h
      cases h
    · rintro d payload ⟨reply, hx⟩
      cases hx
  exact Rules.invariant (I := CancelMessages) ⟨cancelMessages_left, cancelMessages_right⟩ (Protocol.Obeyed.init _)
    (Protocol.Obeyed.init _) hstart hn

/-- A cancel of a row that is cancelled afterwards has not found an active one. -/
private theorem cancelsInactive_asked {d : Nat} {o : Bpp.Op} {c : Bpp.Choice} (h : CancelsInactive w₂)
    (hK : (cancelsCancellable s₁ s₂).right w₁ w₂ (.exec d o c)) :
    CancelsInactive ((Bpp.machine s₂).asked w₂ d o c) := by
  intro e db t a hev
  rcases List.mem_cons.1 hev with hnew | hold
  · cases hnew
    have hcan : w₂.store.Cancellable t c := hK
    refine ⟨?_, c, rfl, (Bpp.hasStatus_cancelPending ..).2 hcan⟩
    intro hactive
    rcases hcan with hcancelled | ⟨hpending, -⟩
    · cases hactive.unique hcancelled
    · cases hactive.unique hpending
  · exact h e db t a hold

private theorem cancelsInactive {n : NetConfig}
    (hn : ((rules s₁ s₂).and (cancelsCancellable s₁ s₂)).Runs start n) : CancelsInactive n.2.world := by
  have hkeeps : ((rules s₁ s₂).and (cancelsCancellable s₁ s₂)).Keeps (Bap.protocol s₁) (Bpp.protocol s₂)
      fun _ w₂ => CancelsInactive w₂ := by
    refine ⟨fun w₂ => ⟨fun _ _ _ h _ _ _ => h, fun _ _ _ _ _ h _ _ _ => h⟩, fun w₁ => ⟨?_, ?_⟩⟩
    · intro w₂ d r h _ _ _ e db t a hev
      rcases List.mem_cons.1 hev with hnew | hold
      · cases hnew
      · exact h e db t a hold
    · intro w₂ d r o c h hK _ _
      exact cancelsInactive_asked h hK.2
  refine Rules.invariant hkeeps (Protocol.Obeyed.init _) (Protocol.Obeyed.init _) ?_ hn
  intro d db t a hev
  cases hev

/-- The cancel behind an `on_cancel` that the BAP has received. -/
private theorem CancelMessages.answersCancel (h : CancelMessages w₁ w₂) (hin : CancelsInactive w₂) {d : Nat}
    {payload : Fields} (hr : w₁.request? d = some (.callback "on_cancel" payload)) :
    AnswersCancel w₂ payload fun db a =>
      ¬db.HasStatus (Bpp.transactionID payload) .active ∧ Cancelled db (Bpp.transactionID payload) a := by
  obtain ⟨m, ⟨e, reply, hx⟩, rfl⟩ := h.delivered d payload hr
  obtain ⟨r, hr', ⟨req, rfl, ht⟩, a, ha⟩ := h.answered e m ⟨reply, hx⟩
  obtain ⟨db, hev⟩ := World.mem_exchanges.1 ha
  refine ⟨m, e, req, db, a, rfl, hr', ?_, ⟨reply, hx⟩, ?_, ?_⟩
  · rwa [transactionID_received]
  · rwa [transactionID_received]
  · rw [transactionID_received]
    exact hin e db _ a hev

end

/-- An `on_cancel` is true of the row exactly if the row was cancelled already, or pending with a database that carries
out the update.  In a run of the network in which every cancel finds such a row, whatever the BAP has marked
`CANCELLED` was not `ACTIVE` when the cancel was processed, and was cancelled by it. -/
theorem cancel_agreement_iff (s₁ : Bap.ClientService) (s₂ : Bpp.BecknService) (k : Bpp.BppConfig) (req : Fields)
    (cs : Nat → Bpp.Choice) (n : NetConfig) (hn : ((rules s₁ s₂).and (cancelsCancellable s₁ s₂)).Runs start n) :
    ((Bpp.AnswersCancelled ((Bpp.machine s₂).serve k (.cancel req) cs).world k.progs.length →
        ((Bpp.machine s₂).serve k (.cancel req) cs).world.store.HasStatus (Bpp.transactionID req) .cancelled) ↔
      k.world.store.Cancellable (Bpp.transactionID req) (cs 0)) ∧
    ∀ t, n.1.world.store.HasStatus t "CANCELLED" → Bap.Received n.1.world "on_cancel" t ∧
      ∀ d payload, n.1.world.request? d = some (.callback "on_cancel" payload) → Bap.transactionID payload = t →
        AnswersCancel n.2.world payload fun db a => ¬db.HasStatus t .active ∧ Cancelled db t a := by
  constructor
  · obtain ⟨hstore, hanswer⟩ := Bpp.serve_cancel s₂ k req cs
    rw [hstore, Bpp.hasStatus_cancelPending]
    exact ⟨fun h => h hanswer, fun h _ => h⟩
  · have hmessages : CancelMessages n.1.world n.2.world :=
      cancelMessages hn.of_and
    refine fun t ht => ⟨hmessages.marked t ht, ?_⟩
    rintro d payload hr rfl
    exact hmessages.answersCancel (cancelsInactive hn) hr

/-! ### A cancel of an issued policy -/

/-- From the cancel at the BAP to the callback, as program `d` of the BAP, program `e` of the BPP and program `d + 1` of
the BAP. -/
def cancelSchedule (t : String) (d e : Nat) : List Label :=
  [.bap (.start (.cancel t))] ++ bapSteps 5 d ++ [.toBpp 0] ++ bppSteps 4 e ++ [.toBap 0] ++ bapSteps 2 (d + 1)

/-- An unpaid policy is initiated and cancelled. -/
def cancelPendingSchedule (t : String) : List Label :=
  [.bap (.start (.init [("transaction_id", .str t)]))] ++ bapSteps 5 0 ++ [.toBpp 0] ++ bppSteps 4 0 ++
    cancelSchedule t 1 1

/-- The test of `cancelsCancellable`. -/
def cancellableTest (_ : Bap.BapWorld) (w₂ : Bpp.BppWorld) : Action Bpp.Choice Bpp.Request Bpp.Op → Bool
  | .exec _ (.cancelPending t) c => w₂.store.Cancellable t c
  | _ => true

theorem cancel_agreement_iff_pending :
    ∃ n : NetConfig, n.1.world.store.HasStatus "txn-0001" "CANCELLED" ∧
      ((Bpp.AnswersCancelled ((Bpp.machine {}).serve n.2 (.cancel (Bpp.bareMessage "txn-0001")) fun _ => {}).world
          n.2.progs.length →
        ((Bpp.machine {}).serve n.2 (.cancel (Bpp.bareMessage "txn-0001")) fun _ => {}).world.store.HasStatus
          "txn-0001" .cancelled) ↔ n.2.world.store.Cancellable "txn-0001" {}) ∧
      Bap.Received n.1.world "on_cancel" "txn-0001" := by
  have hrun : ((run? {} {} (fun _ _ => true) cancellableTest start (cancelPendingSchedule "txn-0001")).any fun n =>
      (n.1.world.store.transaction "txn-0001").any fun p => p.status = "CANCELLED") = true := by
    decide +kernel
  obtain ⟨n, hn, hend⟩ := (Option.any_eq_true _ _).1 hrun
  obtain ⟨p, hp, hs⟩ := (Option.any_eq_true _ _).1 hend
  have hruns : ((rules {} {}).and (cancelsCancellable {} {})).Runs start n := by
    refine Rules.Runs.mono (fun w₂ w₁ a h => ?_) (fun w₁ w₂ a h => ?_) (run?_runs hn)
    · exact ⟨h.1, trivial⟩
    · refine ⟨h.1, ?_⟩
      have htest : cancellableTest w₁ w₂ a = true := h.2
      cases a with
      | start r => trivial
      | exec d o c =>
        cases o with
        | cancelPending t =>
          change decide (w₂.store.Cancellable t c) = true at htest
          have hcan := of_decide_eq_true htest
          exact hcan
        | _ => trivial
  have hmarked : n.1.world.store.HasStatus "txn-0001" "CANCELLED" := ⟨p, hp, of_decide_eq_true hs⟩
  obtain ⟨hcall, hnet⟩ := cancel_agreement_iff {} {} n.2 (Bpp.bareMessage "txn-0001") (fun _ => {}) n hruns
  exact ⟨n, hmarked, hcall, (hnet "txn-0001" hmarked).1⟩

/-- Every cancel of `t` in this event finds an `ACTIVE` row. -/
private def cancelsActive (t : String) : Event Bpp.Db Bpp.Request Bpp.Op Bpp.Op.Ans → Bool
  | .exec _ db (.cancelPending _) _ => db.HasStatus t .active
  | _ => true

/-- The policy is issued, the customer cancels, and the BAP believes the `on_cancel`. -/
theorem issued_policy_cancelled_at_bap :
    (¬∀ (s : Bpp.BecknService) (k : Bpp.BppConfig), Bpp.Reachable s k → ∀ req cs,
      Bpp.AnswersCancelled ((Bpp.machine s).serve k (.cancel req) cs).world k.progs.length →
        ((Bpp.machine s).serve k (.cancel req) cs).world.store.HasStatus (Bpp.transactionID req) .cancelled) ∧
    ¬∀ (s₁ : Bap.ClientService) (s₂ : Bpp.BecknService) (n : NetConfig), (rules s₁ s₂).Runs start n →
      ∀ t, n.1.world.store.HasStatus t "CANCELLED" →
        ∀ d payload, n.1.world.request? d = some (.callback "on_cancel" payload) → Bap.transactionID payload = t →
          AnswersCancel n.2.world payload fun db _ => ¬db.HasStatus t .active := by
  constructor
  · intro hall
    have hcan := hall {} _ (Bpp.issuedRun_reachable "t") (Bpp.bareMessage "t") (fun _ => {}) (Bpp.serve_cancel ..).2
    revert hcan
    decide +kernel
  · intro hall
    have hrun : ((run? {} {} (fun _ _ => true) (fun _ _ _ => true) start
        (issueSchedule "txn-0001" ++ cancelSchedule "txn-0001" 2 3)).any fun n =>
      ((n.1.world.store.transaction "txn-0001").any fun p => p.status = "CANCELLED") &&
        n.2.world.trace.all (cancelsActive "txn-0001")) = true := by decide +kernel
    obtain ⟨n, hn, hend⟩ := (Option.any_eq_true _ _).1 hrun
    obtain ⟨hmarked, hactive⟩ := Bool.and_eq_true_iff.1 hend
    obtain ⟨p, hp, hs⟩ := (Option.any_eq_true _ _).1 hmarked
    have hruns : (rules {} {}).Runs start n := (run?_runs hn).of_and
    have hstatus : n.1.world.store.HasStatus "txn-0001" "CANCELLED" := ⟨p, hp, of_decide_eq_true hs⟩
    obtain ⟨d, payload, hd, ht, -⟩ := (cancelMessages hruns).marked "txn-0001" hstatus
    obtain ⟨m, e, req, db, a, -, -, -, -, hev, hnot⟩ := hall {} {} n hruns "txn-0001" hstatus d payload hd ht
    exact hnot (of_decide_eq_true (List.all_eq_true.1 hactive _ hev))

end IonInsurance.Network
