import IonInsurance.Interleave.Count
import IonInsurance.Bap.Progress
import IonInsurance.Bpp.Reports
import IonInsurance.Network.Transport

/-!
# The network between the BAP and the BPP

A message is delivered if the other side has sent it: at any later time, any number of times or never.  What is delivered
is the payload as it is decoded from JSON.  Nothing else is delivered, except that customers, ION and the sandbox may call
at any time.  A goroutine of the BAP runs once for each time it was started.
-/

namespace IonInsurance.Network

open Interleave

/-- The message of the BAP that a delivery to the BPP takes: whom it was posted to, as what, and what has arrived. -/
def sentByBap : Bpp.Request → Option (Bap.Peer × String × Fields)
  | .search req => some (.onixBAPCaller, "discover", req)
  | .select req => some (.onixBAPCaller, "select", req)
  | .init req => some (.onixBAPCaller, "init", req)
  | .confirm req => some (.onixBAPCaller, "confirm", req)
  | .status req => some (.onixBAPCaller, "status", req)
  | .cancel req => some (.onixBAPCaller, "cancel", req)
  | .rate req => some (.onixBAPCaller, "rate", req)
  | .support req => some (.onixBAPCaller, "support", req)
  | .reconcile req => some (.bppWebhook, "reconcile", req)
  | .paymentReceived .. | .simulatePayment _ => none

/-- The message of the BPP that a callback of the BAP takes: an `on_reconcile` is posted directly. -/
def sentByBpp : Bap.Request → Option (Bpp.Peer × String × Fields)
  | .callback "on_reconcile" payload => some (.bapWebhook, "on_reconcile", payload)
  | .callback onAction payload => some (.onixBPPCaller, onAction, payload)
  | _ => none

/-- What has arrived was posted by the BAP, and decoded. -/
def PostedByBap (w : Bap.BapWorld) (peer : Bap.Peer) (action : String) (req : Fields) : Prop :=
  ∃ m, w.Asked (.post peer action m) ∧ req = receivedFields m

/-- What has arrived was posted by the BPP, and decoded. -/
def PostedByBpp (w : Bpp.BppWorld) (peer : Bpp.Peer) (action : String) (payload : Fields) : Prop :=
  ∃ m, w.Asked (.post peer action m) ∧ payload = receivedFields m

theorem PostedByBap.asked {w : Bap.BapWorld} {peer : Bap.Peer} {action : String} {req : Fields}
    (h : PostedByBap w peer action req) {s : Bap.ClientService} (d : Nat) (o : Bap.Op) (c : Bap.Choice) :
    PostedByBap ((Bap.machine s).asked w d o c) peer action req := by
  obtain ⟨m, hm, rfl⟩ := h
  exact ⟨m, hm.asked d o c, rfl⟩

theorem PostedByBpp.asked {w : Bpp.BppWorld} {peer : Bpp.Peer} {action : String} {payload : Fields}
    (h : PostedByBpp w peer action payload) {s : Bpp.BecknService} (d : Nat) (o : Bpp.Op) (c : Bpp.Choice) :
    PostedByBpp ((Bpp.machine s).asked w d o c) peer action payload := by
  obtain ⟨m, hm, rfl⟩ := h
  exact ⟨m, hm.asked d o c, rfl⟩

/-- The goroutine for `t`. -/
def isGoroutine (t : String) : Bap.Request → Bool
  | .sendReconcile u => u = t
  | _ => false

/-- The start of the goroutine for `t`. -/
def startsGoroutine (t : String) : Bap.Request → Bap.Op → Bool
  | _, .goSendReconcile u => u = t
  | _, _ => false

/-- What the BAP may do next. -/
def bapMay (w₂ : Bpp.BppWorld) (w₁ : Bap.BapWorld) : Action Bap.Choice Bap.Request Bap.Op → Prop
  | .start (.sendReconcile t) => (w₁.starters (isGoroutine t)).length < (w₁.askers (startsGoroutine t)).length
  | .start r => ∀ peer action payload, sentByBpp r = some (peer, action, payload) → PostedByBpp w₂ peer action payload
  | .exec .. => True

/-- What the BPP may do next. -/
def bppMay (w₁ : Bap.BapWorld) (_ : Bpp.BppWorld) : Action Bpp.Choice Bpp.Request Bpp.Op → Prop
  | .start r => ∀ peer action req, sentByBap r = some (peer, action, req) → PostedByBap w₁ peer action req
  | .exec .. => True

def rules (s₁ : Bap.ClientService) (s₂ : Bpp.BecknService) : Rules (Bap.machine s₁) (Bpp.machine s₂) where
  left := bapMay
  right := bppMay

abbrev NetConfig := Bap.BapConfig × Bpp.BppConfig

/-- Both services before their first request. -/
def start : NetConfig := (Bap.start, Bpp.start)

/-- A goroutine that may run was started. -/
theorem started_of_bapMay {w₂ : Bpp.BppWorld} {w₁ : Bap.BapWorld} {a : Action Bap.Choice Bap.Request Bap.Op}
    (h : bapMay w₂ w₁ a) : Bap.Started w₁ a := by
  cases a with
  | exec => trivial
  | start r =>
    cases r with
    | sendReconcile t =>
      have hpos : 0 < (w₁.askers (startsGoroutine t)).length := Nat.lt_of_le_of_lt (Nat.zero_le _) h
      obtain ⟨d, hd⟩ := List.exists_mem_of_length_pos hpos
      obtain ⟨r, o, a, -, hx, hQ⟩ := World.mem_askers.1 hd
      cases o with
      | goSendReconcile u =>
        obtain rfl := of_decide_eq_true hQ
        exact ⟨d, a, hx⟩
      | _ => cases hQ
    | _ => trivial

/-! ### Executing a schedule -/

/-- The delivery to the BPP that a message of the BAP leads to. -/
def deliveryToBpp : Bap.Op → Option Bpp.Request
  | .post .onixBAPCaller "discover" m => some (.search (receivedFields m))
  | .post .onixBAPCaller "select" m => some (.select (receivedFields m))
  | .post .onixBAPCaller "init" m => some (.init (receivedFields m))
  | .post .onixBAPCaller "confirm" m => some (.confirm (receivedFields m))
  | .post .onixBAPCaller "status" m => some (.status (receivedFields m))
  | .post .onixBAPCaller "cancel" m => some (.cancel (receivedFields m))
  | .post .onixBAPCaller "rate" m => some (.rate (receivedFields m))
  | .post .onixBAPCaller "support" m => some (.support (receivedFields m))
  | .post .bppWebhook "reconcile" m => some (.reconcile (receivedFields m))
  | _ => none

/-- The callback that a message of the BPP leads to. -/
def deliveryToBap : Bpp.Op → Option Bap.Request
  | .post .bapWebhook "on_reconcile" m => some (.callback "on_reconcile" (receivedFields m))
  | .post .onixBPPCaller onAction m =>
    if onAction = "on_reconcile" then none else some (.callback onAction (receivedFields m))
  | _ => none

theorem sentByBap_delivery {o : Bap.Op} {r : Bpp.Request} (h : deliveryToBpp o = some r) :
    ∃ peer action m, o = .post peer action m ∧ sentByBap r = some (peer, action, receivedFields m) := by
  unfold deliveryToBpp at h
  split at h <;> cases h <;> exact ⟨_, _, _, rfl, rfl⟩

theorem sentByBpp_delivery {o : Bpp.Op} {r : Bap.Request} (h : deliveryToBap o = some r) :
    ∃ peer action m, o = .post peer action m ∧ sentByBpp r = some (peer, action, receivedFields m) := by
  unfold deliveryToBap at h
  split at h
  · cases h
    exact ⟨_, _, _, rfl, rfl⟩
  · rename_i onAction m
    split at h
    · cases h
    · rename_i hne
      cases h
      refine ⟨_, _, _, rfl, ?_⟩
      unfold sentByBpp
      split
      · rename_i heq
        cases heq
        exact absurd rfl hne
      · rename_i heq
        cases heq
        rfl
      · rename_i hnot
        exact absurd rfl (hnot _ _)
  · cases h

/-- A step of one side without a message, or the delivery of the message that the other side sent in its `n`th event,
counted from the latest. -/
inductive Label : Type where
  | bap (l : Machine.Label Bap.Choice Bap.Request)
  | bpp (l : Machine.Label Bpp.Choice Bpp.Request)
  | toBap (n : Nat)
  | toBpp (n : Nat)

/-- The BAP may do this whatever the BPP has sent. -/
def bapFree (w₁ : Bap.BapWorld) : Action Bap.Choice Bap.Request Bap.Op → Bool
  | .start (.sendReconcile t) => (w₁.starters (isGoroutine t)).length < (w₁.askers (startsGoroutine t)).length
  | .start r => (sentByBpp r).isNone
  | .exec .. => true

/-- The BPP may do this whatever the BAP has sent. -/
def bppFree (_ : Bpp.BppWorld) : Action Bpp.Choice Bpp.Request Bpp.Op → Bool
  | .start r => (sentByBap r).isNone
  | .exec .. => true

/-- `n` operations of program `d` of the BAP. -/
def bapSteps (n d : Nat) : List Label := .replicate n (.bap (.exec d {}))

/-- `n` operations of program `d` of the BPP. -/
def bppSteps (n d : Nat) : List Label := .replicate n (.bpp (.exec d {}))

/-- From the init at the BAP to the `on_confirm` of the BPP. -/
def issueSchedule (t : String) : List Label :=
  [.bap (.start (.init [("transaction_id", .str t)]))] ++ bapSteps 5 0 ++ [.toBpp 0] ++ bppSteps 4 0 ++
    [.bpp (.start (.simulatePayment t))] ++ bppSteps 4 1 ++
    [.bap (.start (.confirm [("transaction_id", .str t)]))] ++ bapSteps 5 1 ++ [.toBpp 0] ++ bppSteps 9 2

/-- The message sent in an event. -/
def sentIn {σ ρ Op : Type} {Ans : Op → Type} : Option (Event σ ρ Op Ans) → Option Op
  | some (.exec _ _ o _) => some o
  | _ => none

section

variable (s₁ : Bap.ClientService) (s₂ : Bpp.BecknService)
  (g₁ : Bap.BapWorld → Action Bap.Choice Bap.Request Bap.Op → Bool)
  (g₂ : Bap.BapWorld → Bpp.BppWorld → Action Bpp.Choice Bpp.Request Bpp.Op → Bool)

/-- The step that a label names, if the tests allow it. -/
def step? (k : NetConfig) : Label → Option NetConfig
  | .bap l => ((Bap.machine s₁).step? (fun w a => bapFree w a && g₁ w a) k.1 l).map fun k₁ => (k₁, k.2)
  | .bpp l => ((Bpp.machine s₂).step? (fun w a => bppFree w a && g₂ k.1.world w a) k.2 l).map fun k₂ => (k.1, k₂)
  | .toBap n => do
    let r ← (sentIn k.2.world.trace[n]?).bind deliveryToBap
    ((Bap.machine s₁).step? g₁ k.1 (.start r)).map fun k₁ => (k₁, k.2)
  | .toBpp n => do
    let r ← (sentIn k.1.world.trace[n]?).bind deliveryToBpp
    ((Bpp.machine s₂).step? (g₂ k.1.world) k.2 (.start r)).map fun k₂ => (k.1, k₂)

def run? (k : NetConfig) (ls : List Label) : Option NetConfig := ls.foldlM (step? s₁ s₂ g₁ g₂) k

/-- The rules that the tests enforce. -/
def tests : Rules (Bap.machine s₁) (Bpp.machine s₂) where
  left _ w₁ a := g₁ w₁ a = true
  right w₁ w₂ a := g₂ w₁ w₂ a = true

variable {s₁ s₂ g₁ g₂}

private theorem asked_of_sentIn {σ ρ Op : Type} {Ans : Op → Type} {w : World σ ρ Op Ans} {n : Nat} {o : Op}
    (h : sentIn w.trace[n]? = some o) : w.Asked o := by
  unfold sentIn at h
  split at h
  · rename_i d s o' a hev
    obtain rfl := Option.some.inj h
    exact ⟨d, a, World.mem_exchanges.2 ⟨s, List.mem_of_getElem? hev⟩⟩
  · cases h

private theorem bapMay_of_free {w₂ : Bpp.BppWorld} {w₁ : Bap.BapWorld} {a : Action Bap.Choice Bap.Request Bap.Op}
    (h : bapFree w₁ a = true) : bapMay w₂ w₁ a := by
  cases a with
  | exec => trivial
  | start r =>
    cases r with
    | sendReconcile t =>
      change decide ((w₁.starters (isGoroutine t)).length < (w₁.askers (startsGoroutine t)).length) = true at h
      have hlt := of_decide_eq_true h
      exact hlt
    | callback onAction payload =>
      intro peer action arrived hsent
      change (sentByBpp (.callback onAction payload)).isNone = true at h
      rw [hsent] at h
      cases h
    | _ =>
      intro peer action payload hsent
      cases hsent

private theorem bppMay_of_free {w₂ : Bpp.BppWorld} {w₁ : Bap.BapWorld} {a : Action Bpp.Choice Bpp.Request Bpp.Op}
    (h : bppFree w₂ a = true) : bppMay w₁ w₂ a := by
  cases a with
  | exec => trivial
  | start r =>
    intro peer action req hsent
    change (sentByBap r).isNone = true at h
    rw [hsent] at h
    cases h

private theorem start_of_step? {σ χ ρ Op : Type} {Ans : Op → Type} {β : Type} {M : Machine σ χ ρ Op Ans β}
    {g : World σ ρ Op Ans → Action χ ρ Op → Bool} {K : World σ ρ Op Ans → Action χ ρ Op → Prop}
    {k k' : Config σ ρ Op Ans β} {r : ρ} (h : M.step? g k (.start r) = some k')
    (hK : g k.world (.start r) = true → K k.world (.start r)) : M.Step K k k' := by
  simp only [Machine.step?] at h
  split at h
  · rename_i hg
    obtain rfl := Option.some.inj h
    exact .start r (hK hg)
  · cases h

theorem step?_step {k k' : NetConfig} {l : Label} (h : step? s₁ s₂ g₁ g₂ k l = some k') :
    ((rules s₁ s₂).and (tests s₁ s₂ g₁ g₂)).Step k k' := by
  cases l with
  | bap l =>
    obtain ⟨k₁, hk₁, rfl⟩ := Option.map_eq_some_iff.1 h
    refine .left (Machine.Step.mono (fun w a hg => ?_) (Machine.step?_step hk₁))
    obtain ⟨hfree, hg⟩ := Bool.and_eq_true_iff.1 hg
    exact ⟨bapMay_of_free hfree, hg⟩
  | bpp l =>
    obtain ⟨k₂, hk₂, rfl⟩ := Option.map_eq_some_iff.1 h
    refine .right (Machine.Step.mono (fun w a hg => ?_) (Machine.step?_step hk₂))
    obtain ⟨hfree, hg⟩ := Bool.and_eq_true_iff.1 hg
    exact ⟨bppMay_of_free hfree, hg⟩
  | toBap n =>
    obtain ⟨r, hr, h⟩ := Option.bind_eq_some_iff.1 h
    obtain ⟨o, ho, hd⟩ := Option.bind_eq_some_iff.1 hr
    obtain ⟨k₁, hk₁, rfl⟩ := Option.map_eq_some_iff.1 h
    refine .left (start_of_step? hk₁ fun hg => ⟨?_, hg⟩)
    obtain ⟨peer, action, m, rfl, hsent⟩ := sentByBpp_delivery hd
    have hmay : ∀ peer action payload, sentByBpp r = some (peer, action, payload) →
        PostedByBpp k.2.world peer action payload := by
      intro peer' action' payload hsent'
      rw [hsent] at hsent'
      obtain ⟨rfl, hrest⟩ := Prod.mk.inj (Option.some.inj hsent')
      obtain ⟨rfl, rfl⟩ := Prod.mk.inj hrest
      exact ⟨m, asked_of_sentIn ho, rfl⟩
    cases r with
    | sendReconcile t => cases hsent
    | _ => exact hmay
  | toBpp n =>
    obtain ⟨r, hr, h⟩ := Option.bind_eq_some_iff.1 h
    obtain ⟨o, ho, hd⟩ := Option.bind_eq_some_iff.1 hr
    obtain ⟨k₂, hk₂, rfl⟩ := Option.map_eq_some_iff.1 h
    refine .right (start_of_step? hk₂ fun hg => ⟨?_, hg⟩)
    obtain ⟨peer, action, m, rfl, hsent⟩ := sentByBap_delivery hd
    intro peer' action' req hsent'
    rw [hsent] at hsent'
    obtain ⟨rfl, hrest⟩ := Prod.mk.inj (Option.some.inj hsent')
    obtain ⟨rfl, rfl⟩ := Prod.mk.inj hrest
    exact ⟨m, asked_of_sentIn ho, rfl⟩

/-- Executing a schedule is a run of the network whose steps all pass the tests. -/
theorem run?_runs {k k' : NetConfig} {ls : List Label} (h : run? s₁ s₂ g₁ g₂ k ls = some k') :
    ((rules s₁ s₂).and (tests s₁ s₂ g₁ g₂)).Runs k k' := by
  induction ls generalizing k with
  | nil => exact Option.some.inj h ▸ .refl
  | cons l ls ih =>
    simp only [run?, List.foldlM_cons, Option.bind_eq_bind, Option.bind_eq_some_iff] at h
    obtain ⟨m, hm, hrest⟩ := h
    exact .head (step?_step hm) (ih hrest)

end

end IonInsurance.Network
