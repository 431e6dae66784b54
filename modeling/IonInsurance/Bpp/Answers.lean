import IonInsurance.Interleave.Serve
import IonInsurance.Bpp.Rows

/-!
# What a delivery answers

A handler that answers through the network reads the clock twice and posts one message.  For a cancel that is served
to completion this says what the row is afterwards: `HandleCancel` answers that the policy is cancelled whatever its
update has done, so the answer is true exactly of a row that is cancelled already, or that is pending and whose update
the database carries out.
-/

namespace IonInsurance.Bpp

open Interleave

variable {s : BecknService} {d : Nat} {w : BppWorld}

/-- Delivery `d` has posted that message to the network. -/
def Answered (w : BppWorld) (d : Nat) (action : String) (payload : Fields) : Prop :=
  ∃ reply, (Op.post .onixBPPCaller action payload).answered reply ∈ w.exchanges d

/-- A response names the transaction of its request. -/
theorem transactionID_response (s : BecknService) (reqCtx : Fields) (action : String) (t₁ t₂ : Time) (rest : Fields) :
    transactionID (("context", .obj (responseContext s reqCtx action t₁ t₂)) :: rest) =
      (reqCtx.get "transaction_id").text := by
  simp [transactionID, contextOf, responseContext]

private theorem finish_callOnixCaller (action : String) (payload : Fields) (cs : Nat → Choice) :
    ((machine s).finish d (callOnixCaller action payload) cs w).2 =
      (machine s).asked w d (.post .onixBPPCaller action payload) (cs 0) := by
  unfold callOnixCaller
  rw [Machine.finish_call]
  generalize (machine s).answer w (.post .onixBPPCaller action payload) (cs 0) = reply
  change Reply at reply
  cases reply <;> rfl

/-- A response is posted, and the database stays as it is. -/
theorem finish_respond (req : Fields) (action : String) (response : Fields → Fields) (cs : Nat → Choice) :
    ((machine s).finish d (respond s req action response) cs w).2.store = w.store ∧
      ∃ t₁ t₂, Answered ((machine s).finish d (respond s req action response) cs w).2 d action
        (response (responseContext s (contextOf req) action t₁ t₂)) := by
  have hworld : ((machine s).finish d (respond s req action response) cs w).2 =
      (machine s).asked ((machine s).asked ((machine s).asked w d .now (cs 0)) d .now (cs 1)) d
        (.post .onixBPPCaller action (response (responseContext s (contextOf req) action (cs 0).now (cs 1).now)))
        (cs 2) :=
    finish_callOnixCaller (w := (machine s).asked ((machine s).asked w d .now (cs 0)) d .now (cs 1)) action _
      fun n => cs (n + 2)
  rw [hworld]
  refine ⟨rfl, (cs 0).now, (cs 1).now, (cs 2).reply, ?_⟩
  rw [Machine.exchanges_asked_self]
  exact List.mem_cons_self

/-! ### Cancellations -/

/-- The policy status that a message reports. -/
def policyStatusOf (payload : Fields) : String := ((commitmentAttributes payload).get "policyStatus").text

/-- Delivery `d` has answered that the policy is cancelled. -/
def AnswersCancelled (w : BppWorld) (d : Nat) : Prop :=
  ∃ payload, Answered w d "on_cancel" payload ∧ policyStatusOf payload = "CANCELLED"

/-- A cancel of `t` under the choice `c` leaves a cancelled row. -/
def Db.Cancellable (db : Db) (t : String) (c : Choice) : Prop :=
  db.HasStatus t .cancelled ∨ db.HasStatus t .pendingIssuance ∧ c.sqlError = none

instance (db : Db) (t : String) (c : Choice) : Decidable (db.Cancellable t c) :=
  inferInstanceAs (Decidable (_ ∨ _))

/-- The update of a cancel leaves a cancelled row in these two cases only. -/
theorem hasStatus_cancelPending (db : Db) (t : String) (c : Choice) :
    (exec (.cancelPending t) c db).2.HasStatus t .cancelled ↔ db.Cancellable t c := by
  unfold Db.Cancellable
  cases he : c.sqlError with
  | some err =>
    simp only [exec, he, statement_some]
    constructor
    · exact .inl
    · rintro (h | ⟨-, h⟩)
      · exact h
      · cases h
  | none =>
    simp only [exec, he, statement_none, Db.cancelPending, Db.HasStatus, Db.policy_updatePolicy_self]
    constructor
    · rintro ⟨q, hq, hs⟩
      obtain ⟨p, hp, rfl⟩ := Option.map_eq_some_iff.1 hq
      by_cases hpend : p.status = .pendingIssuance
      · exact .inr ⟨⟨p, hp, hpend⟩, trivial⟩
      · rw [if_neg hpend] at hs
        exact .inl ⟨p, hp, hs⟩
    · rintro (⟨p, hp, hs⟩ | ⟨⟨p, hp, hs⟩, -⟩)
      · refine ⟨p, ?_, hs⟩
        rw [hp, Option.map_some, if_neg]
        rw [hs]
        decide
      · refine ⟨p.cancel, ?_, rfl⟩
        rw [hp, Option.map_some, if_pos hs]
        rfl

/-- A served cancel always answers that the policy is cancelled, and it leaves the row as its update does. -/
theorem serve_cancel (s : BecknService) (k : BppConfig) (req : Fields) (cs : Nat → Choice) :
    ((machine s).serve k (.cancel req) cs).world.store =
        (exec (.cancelPending (transactionID req)) (cs 0) k.world.store).2 ∧
      AnswersCancelled ((machine s).serve k (.cancel req) cs).world k.progs.length := by
  obtain ⟨hstore, t₁, t₂, hanswer⟩ := finish_respond (s := s) (d := k.progs.length)
    (w := (machine s).asked (k.world.started k.progs.length (.cancel req)) k.progs.length
      (.cancelPending (transactionID req)) (cs 0)) req "on_cancel"
    (fun context => onCancel context (transactionID req)) fun n => cs (n + 1)
  exact ⟨hstore, _, hanswer, rfl⟩

/-- An `on_cancel` answers a cancel of its transaction, after the update. -/
structure Cancels (r : Request) (h : History) (payload : Fields) : Prop where
  request : ∃ req, r = .cancel req ∧ transactionID req = transactionID payload
  updated : ∃ a, (Op.cancelPending (transactionID payload)).answered a ∈ h

/-- Only a cancel answers `on_cancel`. -/
private theorem cancel_of_mayAsk {r : Request} {h : History} {payload : Fields}
    (ho : MayAsk s r h (.post .onixBPPCaller "on_cancel" payload)) : ∃ req, r = .cancel req := by
  generalize hop : Op.post .onixBPPCaller "on_cancel" payload = o at ho
  cases ho with
  | respond hr =>
    obtain ⟨-, rfl, -⟩ := Op.post.inj hop
    cases r with
    | cancel req => exact ⟨req, rfl⟩
    | search | select | init | status | rate | support => exact absurd (Option.some.inj hr) (by decide)
    | _ => cases hr
  | resend | reject | send => exact absurd (Op.post.inj hop).2.1 (by decide)
  | _ => cases hop

/-- What the BPP may ask, as far as an `on_cancel` goes. -/
def cancelProtocol (s : BecknService) : Protocol (machine s) where
  asks r h o := ∀ payload, o = .post .onixBPPCaller "on_cancel" payload → Cancels r h payload
  returns _ _ _ := True
  follows r := by
    by_cases hr : ∃ req, r = .cancel req
    · obtain ⟨req, rfl⟩ := hr
      refine Prog.follows_call (by rintro _ ⟨⟩) fun a => ?_
      refine Prog.follows_call (by rintro _ ⟨⟩) fun t₁ => Prog.follows_call (by rintro _ ⟨⟩) fun t₂ => ?_
      refine Prog.follows_call ?_ fun reply => ?_
      · rintro payload ⟨⟩
        have ht : transactionID (onCancel (responseContext s (contextOf req) "on_cancel" t₁ t₂) (transactionID req)) =
            transactionID req := transactionID_response ..
        refine ⟨⟨req, rfl, ht.symm⟩, a, ?_⟩
        rw [ht]
        simp
      · change Reply at reply
        cases reply <;> trivial
    · refine (((protocol s).follows r).imp fun h o ho payload he => ?_).mono fun _ _ _ => trivial
      subst he
      exact absurd (cancel_of_mayAsk ho) hr

end IonInsurance.Bpp
