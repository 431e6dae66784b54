import IonInsurance.Bpp.Answers
import IonInsurance.Bpp.Polling
import IonInsurance.Bpp.Reports

/-!
# Acknowledged deliveries

A delivery that returns without an error has done its work, and the work stays done.  So a payment that was acknowledged
and a confirm that came after it and was acknowledged leave an issued policy, whatever else is delivered before, between
and after them.
-/

namespace IonInsurance.Bpp

open Interleave

/-! ### What a delivery has done when it returns -/

/-- The notification has found its policy issued, or it has marked its row. -/
def Taken (t : String) (h : History) : Prop :=
  (∃ id, (Op.selectStatus t).answered (.ok (id, .active)) ∈ h) ∨
    ∃ rid, (Op.markPaid t rid).answered (.ok ()) ∈ h

/-- The confirm has answered; it has found its policy issued, or not paid, or it has issued it. -/
structure Confirmed (req : Fields) (h : History) : Prop where
  row : ∃ row, readForConfirm req row ∈ h ∧ (row.status = .active ∨ row.paymentReceived = false ∨
    ∃ issued, (issueUpdate req issued).answered (.ok ()) ∈ h)
  sent : ∃ payload, ∃ reply, (Op.post .onixBPPCaller "on_confirm" payload).answered reply ∈ h

/-- What a delivery has done that has returned without an error. -/
def Done : Request → History → Prop
  | .paymentReceived invoiceNumber _ _, h => ∃ t, invoiceNumber = "ins-" ++ t ∧ Taken t h
  | .simulatePayment t, h => Taken t h
  | .confirm req, h => Confirmed req h
  | _, _ => True

private abbrev Returns (r : Request) (h : History) (b : Except String Unit) : Prop :=
  b = .ok () → Done r h

section

variable {s : BecknService} {h : History}

private abbrev anyOp : History → Op → Prop := fun _ _ => True

/-- A response that is sent returns without an error, after its post. -/
private theorem respond_returns {req : Fields} {action : String} {response : Fields → Fields} {P : History → Prop}
    (hP : ∀ payload reply t₁ t₂, P ((Op.post .onixBPPCaller action payload).answered reply :: Op.now.answered t₂ ::
      Op.now.answered t₁ :: h)) :
    (respond s req action response).Follows anyOp (fun h b => b = .ok () → P h) h := by
  refine Prog.follows_call trivial fun t₁ => Prog.follows_call trivial fun t₂ => ?_
  refine Prog.follows_call trivial fun reply => ?_
  cases reply <;> exact fun _ => hP ..

private theorem handlePaymentReceived_returns (t rid : String) (amount : ℚ) :
    (handlePaymentReceived ("ins-" ++ t) rid amount).Follows anyOp (fun h b => b = .ok () → Taken t h) h := by
  unfold handlePaymentReceived
  rw [hasPrefix_append, if_pos rfl]
  dsimp only
  rw [trimPrefix_append]
  refine Prog.follows_call trivial fun r => ?_
  change Except String (Int × PolicyStatus) at r
  rcases r with err | ⟨id', status⟩
  · rintro ⟨⟩
  · dsimp only
    split
    · rename_i ha
      subst ha
      exact fun _ => .inl ⟨id', List.mem_cons_self⟩
    · refine Prog.follows_call trivial fun r => ?_
      change Except String Unit at r
      cases r with
      | error err => rintro ⟨⟩
      | ok _ =>
        refine Prog.follows_call trivial fun recorded => ?_
        exact fun _ => .inr ⟨storedRequestID rid, List.mem_cons_of_mem _ List.mem_cons_self⟩

private theorem handleConfirm_returns (req : Fields) :
    (handleConfirm s req).Follows anyOp (Returns (.confirm req)) [] := by
  refine Prog.follows_call trivial fun r => ?_
  change Except String ConfirmRow at r
  cases r with
  | error err => rintro ⟨⟩
  | ok row =>
    dsimp only
    split
    · rename_i ha
      refine Prog.follows_call trivial fun paid => respond_returns fun payload reply t₁ t₂ => ?_
      exact ⟨⟨row, by simp, .inl ha⟩, payload, reply, List.mem_cons_self⟩
    · split
      · refine Prog.follows_call trivial fun count => Prog.follows_call trivial fun now => ?_
        refine Prog.follows_call trivial fun coverageStart => Prog.follows_call trivial fun r => ?_
        change Except String Unit at r
        cases r with
        | error err => rintro ⟨⟩
        | ok _ =>
          refine Prog.follows_call trivial fun recorded => respond_returns fun payload reply t₁ t₂ => ?_
          have hissued : (issueUpdate req (newlyIssued count now coverageStart)).answered (.ok ()) ∈
              (Op.post .onixBPPCaller "on_confirm" payload).answered reply :: Op.now.answered t₂ :: Op.now.answered t₁ ::
                (Op.insertPayment row.policyID (confirmPayment req row).method (confirmPayment req row).ref
                  (confirmPayment req row).amount).answered recorded ::
                (issueUpdate req (newlyIssued count now coverageStart)).answered (.ok ()) ::
                  numbered req row count now coverageStart := by
            simp
          exact ⟨⟨row, by simp, .inr (.inr ⟨_, hissued⟩)⟩, payload, reply, List.mem_cons_self⟩
      · rename_i hp
        refine respond_returns fun payload reply t₁ t₂ => ?_
        exact ⟨⟨row, by simp, .inr (.inl (by simpa using hp))⟩, payload, reply, List.mem_cons_self⟩

/-- Of a request that is claimed to do nothing, every handler keeps the claim. -/
private theorem nothing_returns {r : Request} (hr : ∀ h, Done r h) :
    (handler s r).Follows anyOp (Returns r) [] := by
  have hasks : (handler s r).Asks fun _ => True := Prog.asks_of_forall (fun _ => trivial) _
  have hfollows := hasks.follows (A := anyOp) (J := fun _ => True) (h := []) (fun _ _ _ _ => trivial)
    (fun _ _ _ _ _ => trivial) trivial
  exact hfollows.mono fun h b _ _ => hr h

private theorem handler_returns (s : BecknService) (r : Request) :
    (handler s r).Follows anyOp (Returns r) [] := by
  cases r with
  | confirm req => exact handleConfirm_returns req
  | paymentReceived invoiceNumber rid amount =>
    by_cases hp : hasPrefix invoiceNumber "ins-" = true
    · rw [eq_append_of_hasPrefix hp]
      refine Prog.Follows.mono (handlePaymentReceived_returns (trimPrefix invoiceNumber "ins-") rid amount) ?_
      exact fun h b hb hok => ⟨_, rfl, hb hok⟩
    · change (handlePaymentReceived invoiceNumber rid amount).Follows _ _ _
      unfold handlePaymentReceived
      rw [if_neg hp]
      rintro ⟨⟩
  | simulatePayment t =>
    exact Prog.follows_call trivial fun idv => handlePaymentReceived_returns t "" _
  | _ => exact nothing_returns fun _ => trivial

end

/-- The handlers of the service, and what they have done when they return. -/
def ackProtocol (s : BecknService) : Protocol (machine s) where
  asks _ := anyOp
  returns := Returns
  follows := handler_returns s

theorem done_of_ack {k : BppConfig} (h : Reachable s k) {d : Nat} {r : Request} (hr : k.world.request? d = some r)
    (hack : k.progs[d]? = some (.ret (.ok ()))) : Done r (k.world.exchanges d) := by
  obtain ⟨r', hr', hf⟩ := Protocol.Obeyed.prog (P := ackProtocol s) ((Protocol.Obeyed.init _).run h) d _ hack
  obtain rfl := Option.some.inj (hr.symm.trans hr')
  exact hf rfl

/-! ### What stays -/

/-- The table has a row of `t`. -/
def Db.Known (s : Db) (t : String) : Prop := ∃ p, s.policy t = some p

theorem Db.Known.exec {s : Db} {t : String} (h : s.Known t) (o : Op) (c : Choice) : (exec o c s).2.Known t := by
  obtain ⟨p, hp⟩ := h
  have hstep := exec_rowStep o c s t
  rw [hp] at hstep
  exact hstep.row_stays

/-- What the notifications have read and marked stands. -/
structure Durable (w : BppWorld) : Prop where
  reported : Reported w
  found : ∀ d t id status, (Op.selectStatus t).answered (.ok (id, status)) ∈ w.exchanges d → w.store.Known t
  active : ∀ d t id, (Op.selectStatus t).answered (.ok (id, .active)) ∈ w.exchanges d → w.store.Paid t
  marked : ∀ d t rid, (Op.markPaid t rid).answered (.ok ()) ∈ w.exchanges d → w.store.Paid t

section

variable {s : BecknService} {w : BppWorld} {d : Nat} {r : Request} {o : Op} {c : Choice}

theorem mayAsk_markPaid {h : History} {t : String} {rid : Option String} (ho : MayAsk s r h (.markPaid t rid)) :
    ∃ id status, (Op.selectStatus t).answered (.ok (id, status)) ∈ h := by
  cases ho with
  | markPaid hn id status ha => exact ⟨id, status, List.mem_cons_self⟩

theorem Durable.asked (hw : Durable w) (ho : MayAsk s r (w.exchanges d) o) :
    Durable ((machine s).asked w d o c) where
  reported := hw.reported.asked ho
  found := by
    intro e t id status hx
    rcases Machine.exchange_asked hx with hold | ⟨rfl, rfl, hans⟩
    · exact (hw.found e t id status hold).exec o c
    · obtain ⟨p, hp, -⟩ := selectStatus_row hans
      exact Db.Known.exec ⟨p, hp⟩ _ c
  active := by
    intro e t id hx
    rcases Machine.exchange_asked hx with hold | ⟨rfl, rfl, hans⟩
    · exact (hw.active e t id hold).exec o c
    · obtain ⟨p, hp, hrow⟩ := selectStatus_row hans
      have ha : p.status = .active := (Prod.mk.inj hrow).2.symm
      exact Db.Paid.exec ⟨p, hp, (hw.reported.complete t p hp ha).paid⟩ _ c
  marked := by
    intro e t rid hx
    rcases Machine.exchange_asked hx with hold | ⟨rfl, rfl, hans⟩
    · exact (hw.marked e t rid hold).exec o c
    · obtain ⟨id, status, hread⟩ := mayAsk_markPaid ho
      obtain ⟨p, hp⟩ := hw.found e t id status hread
      refine ⟨p.markPaid rid, markPaid_row hp hans, ?_⟩
      cases rid <;> rfl

theorem durable_keeps (s : BecknService) : (protocol s).Keeps Machine.anything Durable where
  start _ _ _ hw _ hr he := ⟨(reported_keeps s).start _ _ _ hw.reported trivial hr he, hw.found, hw.active, hw.marked⟩
  exec _ _ _ _ _ hw _ _ ho := hw.asked ho

theorem durable_of_reachable {k : BppConfig} (h : Reachable s k) : Durable k.world := by
  refine Protocol.invariant (durable_keeps s) (Protocol.Obeyed.init _) ⟨reported_start, ?_, ?_, ?_⟩ h
  · intro d t id status hx
    cases hx
  · intro d t id hx
    cases hx
  · intro d t rid hx
    cases hx

theorem Durable.paid_of_taken (hw : Durable w) {t : String} (h : Taken t (w.exchanges d)) : w.store.Paid t := by
  rcases h with ⟨id, hx⟩ | ⟨rid, hx⟩
  · exact hw.active d t id hx
  · exact hw.marked d t rid hx

/-- The deliveries that take the payment of `t`. -/
inductive TakesPayment (t : String) : Request → Prop where
  | received (rid : String) (amount : ℚ) : TakesPayment t (.paymentReceived ("ins-" ++ t) rid amount)
  | simulated : TakesPayment t (.simulatePayment t)

/-- Once the payment of `t` has been acknowledged, its row is paid. -/
theorem paid_of_ack {k : BppConfig} (h : Reachable s k) {d : Nat} {t : String} (hr : k.world.request? d = some r)
    (ht : TakesPayment t r) (hack : k.progs[d]? = some (.ret (.ok ()))) : k.world.store.Paid t := by
  have hdone := done_of_ack h hr hack
  have hw := durable_of_reachable h
  cases ht with
  | received rid amount =>
    obtain ⟨t', heq, htaken⟩ := hdone
    have hsame := congrArg (fun x => trimPrefix x "ins-") heq
    simp only [trimPrefix_append] at hsame
    rw [hsame]
    exact hw.paid_of_taken htaken
  | simulated => exact hw.paid_of_taken hdone

/-! ### A purchase -/

/-- The deliveries from the `n`-th on find the issued policy of `t`, and their updates settle it. -/
structure Settling (n : Nat) (t : String) (w : BppWorld) : Prop where
  numbered : w.store.Numbered t
  settled : ∀ d, n ≤ d → (Op.markSettled t).answered (.ok ()) ∈ w.exchanges d → w.store.Settled t

theorem settling_keeps (s : BecknService) (n : Nat) (t : String) :
    (protocol s).Keeps Machine.anything (Settling n t) where
  start _ _ _ hw _ _ _ := ⟨hw.numbered, hw.settled⟩
  exec w d r o c hw _ _ ho := by
    refine ⟨hw.numbered.exec o c, ?_⟩
    intro e hn hx
    rcases Machine.exchange_asked hx with hold | ⟨rfl, rfl, hans⟩
    · exact (hw.settled e hn hold).exec o c
    · refine markSettled_settled ?_ hw.numbered
      cases hc : c.sqlError with
      | none => rfl
      | some err =>
        simp only [Machine.answer, machine, exec, hc, statement] at hans
        cases hans

/-- A confirm that was started after the payment and has been acknowledged has issued the policy and has said so. -/
theorem issued_of_ack {k k' : BppConfig} (h : Reachable s k) {t : String} (hpaid : k.world.store.Paid t)
    (hrun : (machine s).Runs Machine.anything k k') {d : Nat} (hd : k.progs.length ≤ d) {req : Fields}
    (hr : k'.world.request? d = some (.confirm req)) (ht : transactionID req = t)
    (hack : k'.progs[d]? = some (.ret (.ok ()))) :
    k'.world.store.Numbered t ∧ ∃ payload, Answered k'.world d "on_confirm" payload ∧ reportsActive payload := by
  have hreach : Reachable s k' := h.trans hrun
  have hconfirms := confirmsPaid_run h hpaid hrun
  obtain ⟨⟨row, hread, hcases⟩, payload, reply, hsent⟩ := done_of_ack hreach hr hack
  have hw := (durable_of_reachable hreach).reported
  refine ⟨?_, payload, ⟨reply, hsent⟩, hconfirms.sent d hd req hr ht payload reply hsent⟩
  subst ht
  rcases hcases with ha | hp | ⟨issued, hissued⟩
  · exact hw.read d req row hread ha
  · rw [hconfirms.read d hd row hread] at hp
    cases hp
  · exact hw.activated d _ _ _ _ _ hissued

end

/-- Once the payment of `t` has been acknowledged, and after that a confirm, the confirm has reported the issued policy.
In every later state the row is paid and numbered, and a reconcile that was started after the confirm and whose update
was carried out has settled it. -/
theorem purchase_completes (s : BecknService) {k₁ k₂ k₃ : BppConfig} (h₁ : Reachable s k₁)
    (h₂ : (machine s).Runs Machine.anything k₁ k₂) (h₃ : (machine s).Runs Machine.anything k₂ k₃) {t : String}
    (d₁ : Nat) {r : Request} (hr₁ : k₁.world.request? d₁ = some r) (hpay : TakesPayment t r)
    (hack₁ : k₁.progs[d₁]? = some (.ret (.ok ()))) (d₂ : Nat) (hd₂ : k₁.progs.length ≤ d₂) {req : Fields}
    (hr₂ : k₂.world.request? d₂ = some (.confirm req)) (ht : transactionID req = t)
    (hack₂ : k₂.progs[d₂]? = some (.ret (.ok ()))) :
    (∃ payload, Answered k₂.world d₂ "on_confirm" payload ∧ reportsActive payload) ∧
      k₃.world.store.Numbered t ∧
      ∀ d₃, k₂.progs.length ≤ d₃ → (Op.markSettled t).answered (.ok ()) ∈ k₃.world.exchanges d₃ →
        k₃.world.store.Settled t := by
  have hpaid : k₁.world.store.Paid t := paid_of_ack h₁ hr₁ hpay hack₁
  obtain ⟨hnumbered, hsent⟩ := issued_of_ack h₁ hpaid h₂ hd₂ hr₂ ht hack₂
  have hobeyed : (protocol s).Obeyed k₂ := (Protocol.Obeyed.init _).run (h₁.trans h₂)
  have hstart : Settling k₂.progs.length t k₂.world := by
    refine ⟨hnumbered, ?_⟩
    intro d hd hx
    rw [(hobeyed.fresh d hd).2] at hx
    cases hx
  have hend := Protocol.invariant (settling_keeps s k₂.progs.length t) hobeyed hstart h₃
  exact ⟨hsent, hend.numbered, hend.settled⟩

/-- The run of an issued policy, and a reconcile that comes after it. -/
def settledRun (t : String) : BppConfig :=
  (machine {}).serve (issuedRun t) (.reconcile (bareMessage t)) fun _ => {}

theorem purchase_completes_settled :
    (settledRun "t").world.store.Settled "t" := by
  have hrun₂ : (machine {}).Runs Machine.anything (paidRun "t") (issuedRun "t") := Machine.serve_runs ..
  have hrun₃ : (machine {}).Runs Machine.anything (issuedRun "t") (settledRun "t") := Machine.serve_runs ..
  obtain ⟨-, -, hsettled⟩ := purchase_completes {} (Machine.serveAll_runs ..) hrun₂ hrun₃ 1 rfl .simulated
    rfl 2 (Nat.le_refl 2) rfl rfl rfl
  refine hsettled 3 (Nat.le_refl 3) ?_
  exact List.mem_of_getElem? (i := 3) rfl

end IonInsurance.Bpp
