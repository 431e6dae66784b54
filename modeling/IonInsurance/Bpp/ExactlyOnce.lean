import IonInsurance.Bpp.Issuance

/-!
# Exactly one issue

Deliveries of a confirm for one paid transaction, each in a goroutine of its own.  `HandleConfirm` reads, counts and
updates in separate statements without a lock, so two deliveries that both read before either updates both issue.  If
no confirm reads while another is between its read and its update, one of them issues, and every `on_confirm` reports
the stored row.
-/

namespace IonInsurance.Bpp

open Interleave

/-- Delivery `d` has issued the policy of `t`. -/
def HasIssued (w : BppWorld) (d : Nat) (t : String) : Prop :=
  ∃ number url a b, (Op.activatePolicy number url a b t).answered (.ok ()) ∈ w.exchanges d

/-- Delivery `d` has stored a payment. -/
def HasStored (w : BppWorld) (d : Nat) : Prop :=
  ∃ id method ref amount answer, (Op.insertPayment id method ref amount).answered answer ∈ w.exchanges d

/-- The `on_confirm` carries what the row holds. -/
structure Agrees (payload : Fields) (p : Policy) : Prop where
  number : ∃ n, p.policyNumber = some n ∧ (commitmentAttributes payload).get "policyNumber" = .str n
  certificate : ∃ url, p.certificateURL = some url ∧ (commitmentAttributes payload).get "certificateUrl" = .str url
  coverageStart : ∃ a, p.coverageStart = some a ∧
    (commitmentAttributes payload).get "coverageStart" = .str a.rfc3339
  coverageEnd : ∃ b, p.coverageEnd = some b ∧ (commitmentAttributes payload).get "coverageEnd" = .str b.rfc3339

/-- One delivery issues the policy of `t` and stores its payment, and every `on_confirm` without an error agrees with
the row. -/
structure ExactlyOnce (w : BppWorld) (t : String) : Prop where
  issued : ∀ d e, HasIssued w d t → HasIssued w e t → d = e
  stored : ∀ d e, HasStored w d → HasStored w e → d = e
  agrees : ∀ d payload reply, (Op.post .onixBPPCaller "on_confirm" payload).answered reply ∈ w.exchanges d →
    payload.has "error" = false → ∃ p, w.store.policy t = some p ∧ Agrees payload p

/-- Deliveries of a confirm for `t`. -/
def ConfirmsOnly (t : String) (_ : BppWorld) : Action Choice Request Op → Prop
  | .start r => ∃ req, r = .confirm req ∧ transactionID req = t
  | _ => True

/-- Deliveries of a confirm for `t`, of which none reads while another is between its read and its update. -/
def OneAtATime (t : String) (w : BppWorld) : Action Choice Request Op → Prop
  | .start r => ∃ req, r = .confirm req ∧ transactionID req = t
  | .exec _ (.selectForConfirm _) c => c.sqlError = none → ∀ d, ¬Issuing w d t
  | _ => True

/-! ### Reports of an issued row -/

/-- `issued` says what the active row `p` holds; an `on_confirm` prints times to the second. -/
structure Reports (issued : Issued) (p : Policy) : Prop where
  active : p.status = .active
  number : p.policyNumber = some issued.policyNumber
  certificate : p.certificateURL = some issued.certURL
  coverageStart : ∃ a, p.coverageStart = some a ∧ a.rfc3339 = issued.coverageStart.rfc3339
  coverageEnd : ∃ b, p.coverageEnd = some b ∧ b.rfc3339 = issued.coverageEnd.rfc3339

theorem reports_activate (p : Policy) (number url : String) (a b : Time) :
    Reports ⟨number, url, a, b⟩ (p.activate number url a b) :=
  ⟨rfl, rfl, rfl, ⟨_, rfl, Time.rfc3339_toMicro a⟩, ⟨_, rfl, Time.rfc3339_toMicro b⟩⟩

/-- A row that can be reported is reported by what a confirm reads of it. -/
theorem Reports.confirmRow {issued : Issued} {p : Policy} (h : Reports issued p) : Reports p.confirmRow.issued p := by
  obtain ⟨a, ha, -⟩ := h.coverageStart
  obtain ⟨b, hb, -⟩ := h.coverageEnd
  refine ⟨h.active, ?_, ?_, ⟨a, ha, ?_⟩, ⟨b, hb, ?_⟩⟩
  · simp [ConfirmRow.issued, Policy.confirmRow, h.number]
  · simp [ConfirmRow.issued, Policy.confirmRow, h.certificate]
  · simp [ConfirmRow.issued, Policy.confirmRow, ha]
  · simp [ConfirmRow.issued, Policy.confirmRow, hb]

theorem Reports.agrees {issued : Issued} {p : Policy} (h : Reports issued p) (context : Fields) (t : String)
    (payment : PaymentProof) (b : PremiumBreakup) : Agrees (onConfirm context t issued payment b) p := by
  obtain ⟨x, hx, hx'⟩ := h.coverageStart
  obtain ⟨y, hy, hy'⟩ := h.coverageEnd
  exact ⟨⟨_, h.number, rfl⟩, ⟨_, h.certificate, rfl⟩, ⟨x, hx, by rw [hx']; rfl⟩, ⟨y, hy, by rw [hy']; rfl⟩⟩

/-- Delivery `d` knows the issued policy: it has issued it, or has read it as active. -/
def Knows (w : BppWorld) (d : Nat) (t : String) (issued : Issued) : Prop :=
  (∃ number url a b, issued = ⟨number, url, a, b⟩ ∧
    (Op.activatePolicy number url a b t).answered (.ok ()) ∈ w.exchanges d) ∨
  ∃ row, issued = row.issued ∧ row.status = .active ∧ (Op.selectForConfirm t).answered (.ok row) ∈ w.exchanges d

/-! ### The invariant -/

structure OneIssue (t : String) (w : BppWorld) : Prop where
  confirms : ∀ d r, w.request? d = some r → ∃ req, r = .confirm req ∧ transactionID req = t
  row : ∃ p, w.store.policy t = some p ∧ ((∃ issued, Reports issued p) ∨ p.confirmRow.Issuable)
  exclusive : ∀ d e, Issuing w d t → Issuing w e t → d = e
  done : w.store.HasStatus t .active → ∀ d, ¬Issuing w d t
  issuer : ∀ d e, HasIssued w d t → HasIssued w e t → d = e
  reported : ∀ d issued, Knows w d t issued → ∃ p, w.store.policy t = some p ∧ Reports issued p
  stored : ∀ d, HasStored w d → HasIssued w d t
  sent : ∀ d payload reply, (Op.post .onixBPPCaller "on_confirm" payload).answered reply ∈ w.exchanges d →
    payload.has "error" = false → ∃ issued context payment b, Knows w d t issued ∧
      payload = onConfirm context t issued payment b

variable {s : BecknService} {w : BppWorld} {d : Nat} {t : String} {o : Op} {c : Choice}

theorem OneIssue.exactlyOnce (h : OneIssue t w) : ExactlyOnce w t where
  issued := h.issuer
  stored d e hd he := h.issuer d e (h.stored d hd) (h.stored e he)
  agrees d payload reply hx herr := by
    obtain ⟨issued, context, payment, b, hk, rfl⟩ := h.sent d payload reply hx herr
    obtain ⟨p, hp, hr⟩ := h.reported d issued hk
    exact ⟨p, hp, hr.agrees ..⟩

private theorem Knows.mono {e : Nat} {issued : Issued} (h : Knows w e t issued) :
    Knows ((machine s).asked w d o c) e t issued := by
  have hsub := Machine.exchanges_subset (machine s) w d e o c
  rcases h with ⟨number, url, a, b, rfl, hx⟩ | ⟨row, rfl, ha, hx⟩
  · exact .inl ⟨number, url, a, b, rfl, hsub hx⟩
  · exact .inr ⟨row, rfl, ha, hsub hx⟩

private theorem HasIssued.mono {e : Nat} (h : HasIssued w e t) : HasIssued ((machine s).asked w d o c) e t := by
  obtain ⟨number, url, a, b, hx⟩ := h
  exact ⟨number, url, a, b, Machine.exchanges_subset _ w d e o c hx⟩

/-- Only a delivery that has issued stores a payment. -/
private theorem issued_of_stores {req : Fields} {id : Int} {method ref : String} {amount : Int}
    (ho : MayAsk s (.confirm req) (w.exchanges d) (.insertPayment id method ref amount)) :
    HasIssued w d (transactionID req) := by
  generalize hh : w.exchanges d = hist at ho
  cases ho with
  | recordConfirm _ row hrow count now coverageStart =>
    exact ⟨_, _, _, _, by rw [hh]; exact List.mem_cons_self⟩
  | recordPayment hn => cases hn

/-- An `on_confirm` without an error reports a policy that the delivery knows. -/
private theorem sends_known {req : Fields} {payload : Fields}
    (ho : MayAsk s (.confirm req) (w.exchanges d) (.post .onixBPPCaller "on_confirm" payload))
    (herr : payload.has "error" = false) : ∃ issued context payment b, Knows w d (transactionID req) issued ∧
      payload = onConfirm context (transactionID req) issued payment b := by
  obtain ⟨_, row, issued, payment, t₁, t₂, ⟨⟩, hread, rfl, hissued⟩ := mayAsk_onConfirm ho herr
  refine ⟨issued, _, _, _, ?_, rfl⟩
  rcases hissued with ⟨ha, rfl⟩ | hx
  · exact .inr ⟨row, rfl, ha, hread⟩
  · exact .inl ⟨_, _, _, _, rfl, hx⟩

/-- In a delivery of a confirm, only the update writes a row. -/
private theorem policy_of_mayAsk {req : Fields} (ho : MayAsk s (.confirm req) (w.exchanges d) o)
    (hact : ∀ number url a b u, o ≠ .activatePolicy number url a b u) :
    ((machine s).asked w d o c).store.policy t = w.store.policy t := by
  have hr := exec_rowStep o c w.store t
  change (exec o c w.store).2.policy t = w.store.policy t
  generalize w.exchanges d = hist at ho
  cases ho with
  | issue => exact absurd rfl (hact _ _ _ _ _)
  | readStatus hn | markPaid hn | recordPayment hn => cases hn
  | _ =>
    generalize (exec _ c w.store).2.policy t = p' at hr ⊢
    cases hr
    rfl

/-- Only an update issues. -/
private theorem hasIssued_of_asked (hact : ∀ number url a b u, o ≠ .activatePolicy number url a b u) {e : Nat}
    (h : HasIssued ((machine s).asked w d o c) e t) : HasIssued w e t := by
  obtain ⟨number, url, a, b, hx⟩ := h
  rcases Machine.exchange_asked hx with hold | ⟨-, hop, -⟩
  · exact ⟨number, url, a, b, hold⟩
  · exact absurd hop (hact _ _ _ _ _)

/-- After any other step, a delivery knows what it knew before, or it has just read the row as active. -/
private theorem knows_of_asked (hact : ∀ number url a b u, o ≠ .activatePolicy number url a b u) {e : Nat}
    {issued : Issued} (hk : Knows ((machine s).asked w d o c) e t issued) :
    Knows w e t issued ∨ ∃ p, w.store.policy t = some p ∧ p.status = .active ∧ issued = p.confirmRow.issued := by
  rcases hk with ⟨number, url, a, b, rfl, hx⟩ | ⟨row, rfl, ha, hx⟩
  · rcases Machine.exchange_asked hx with hold | ⟨-, hop, -⟩
    · exact .inl (.inl ⟨number, url, a, b, rfl, hold⟩)
    · exact absurd hop (hact _ _ _ _ _)
  · rcases Machine.exchange_asked hx with hold | ⟨-, rfl, hread⟩
    · exact .inl (.inr ⟨row, rfl, ha, hold⟩)
    · obtain ⟨p, hp, rfl⟩ := selectForConfirm_row hread
      exact .inr ⟨p, hp, ha, rfl⟩

/-- The steps before and after the update. -/
private theorem oneIssue_other (h : OneIssue t w) (hK : OneAtATime t w (.exec d o c)) {req : Fields}
    (ho : MayAsk s (.confirm req) (w.exchanges d) o) (ht : transactionID req = t)
    (hact : ∀ number url a b u, o ≠ .activatePolicy number url a b u) :
    OneIssue t ((machine s).asked w d o c) where
  confirms := h.confirms
  row := by
    rw [policy_of_mayAsk ho hact]
    exact h.row
  exclusive := by
    -- none reads while another one is issuing
    intro e e' he he'
    rcases issuing_asked he with hold | ⟨hed, rfl, hsql, -⟩
    · rcases issuing_asked he' with hold' | ⟨-, rfl, hsql, -⟩
      · exact h.exclusive e e' hold hold'
      · exact absurd hold (hK hsql e)
    · rcases issuing_asked he' with hold' | ⟨hed', -⟩
      · exact absurd hold' (hK hsql e')
      · rw [hed, hed']
  done := by
    rintro ⟨p, hp, ha⟩ e he
    rw [policy_of_mayAsk ho hact] at hp
    rcases issuing_asked he with hold | ⟨-, -, -, q, hq, hi⟩
    · exact h.done ⟨p, hp, ha⟩ e hold
    · rw [hp] at hq
      obtain rfl := Option.some.inj hq
      exact hi.unissued ha
  issuer e e' he he' := h.issuer e e' (hasIssued_of_asked hact he) (hasIssued_of_asked hact he')
  reported := by
    intro e issued hk
    rw [policy_of_mayAsk ho hact]
    rcases knows_of_asked hact hk with hold | ⟨p, hp, ha, rfl⟩
    · exact h.reported e issued hold
    · obtain ⟨q, hq, hq'⟩ := h.row
      rw [hp] at hq
      obtain rfl := Option.some.inj hq
      rcases hq' with ⟨issued, hr⟩ | hi
      · exact ⟨p, hp, hr.confirmRow⟩
      · exact absurd ha hi.unissued
  stored := by
    rintro e ⟨id, method, ref, amount, answer, hx⟩
    rcases Machine.exchange_asked hx with hold | ⟨rfl, rfl, -⟩
    · exact (h.stored e ⟨id, method, ref, amount, answer, hold⟩).mono
    · exact ht ▸ (issued_of_stores ho).mono
  sent := by
    intro e payload reply hx herr
    rcases Machine.exchange_asked hx with hold | ⟨rfl, rfl, -⟩
    · obtain ⟨issued, context, payment, b, hk, hp⟩ := h.sent e payload reply hold herr
      exact ⟨issued, context, payment, b, hk.mono, hp⟩
    · obtain ⟨issued, context, payment, b, hk, hp⟩ := sends_known ho herr
      rw [ht] at hk hp
      exact ⟨issued, context, payment, b, hk.mono, hp⟩

/-- After the update of a delivery, a delivery knows what it knew before, or it is this one and the update succeeded. -/
private theorem knows_activate {number url : String} {a b : Time} {e : Nat} {issued : Issued}
    (hk : Knows ((machine s).asked w d (.activatePolicy number url a b t) c) e t issued) :
    Knows w e t issued ∨ e = d ∧ issued = ⟨number, url, a, b⟩ ∧
      (machine s).answer w (.activatePolicy number url a b t) c = .ok () := by
  rcases hk with ⟨n', u', a', b', rfl, hx⟩ | ⟨row, rfl, ha, hx⟩
  · rcases Machine.exchange_asked hx with hold | ⟨hed, hop, hans⟩
    · exact .inl (.inl ⟨n', u', a', b', rfl, hold⟩)
    · cases hop
      exact .inr ⟨hed, rfl, hans.symm⟩
  · rcases Machine.exchange_asked hx with hold | ⟨-, hop, -⟩
    · exact .inl (.inr ⟨row, rfl, ha, hold⟩)
    · cases hop

/-- The update of the delivery that is issuing. -/
private theorem oneIssue_activate (h : OneIssue t w) {number url : String} {a b : Time} {r : Request}
    (ho : MayAsk s r (w.exchanges d) (.activatePolicy number url a b t)) :
    OneIssue t ((machine s).asked w d (.activatePolicy number url a b t) c) := by
  have hd : Issuing w d t := issuing_of_mayAsk ho
  have hnone : ∀ e, ¬Issuing ((machine s).asked w d (.activatePolicy number url a b t) c) e t := by
    intro e he
    rcases issuing_asked he with hold | ⟨-, hop, -⟩
    · -- the delivery that was issuing has asked for its update now
      obtain rfl := h.exclusive e d hold hd
      exact he.waiting number url a b _ (by rw [Machine.exchanges_asked_self]; exact List.mem_cons_self)
    · cases hop
  obtain ⟨p, hp, hpr⟩ := h.row
  have hunknown : ∀ e issued, ¬Knows w e t issued := by
    intro e issued hk
    obtain ⟨q, hq, hr⟩ := h.reported e issued hk
    exact h.done ⟨q, hq, hr.active⟩ d hd
  have hstored : ∀ e, HasStored ((machine s).asked w d (.activatePolicy number url a b t) c) e →
      HasIssued ((machine s).asked w d (.activatePolicy number url a b t) c) e t := by
    rintro e ⟨id, method, ref, amount, answer, hx⟩
    rcases Machine.exchange_asked hx with hold | ⟨-, hop, -⟩
    · exact (h.stored e ⟨id, method, ref, amount, answer, hold⟩).mono
    · cases hop
  have hsent : ∀ e payload reply, (Op.post .onixBPPCaller "on_confirm" payload).answered reply ∈
      ((machine s).asked w d (.activatePolicy number url a b t) c).exchanges e → payload.has "error" = false →
      ∃ issued context payment b', Knows ((machine s).asked w d (.activatePolicy number url a b t) c) e t issued ∧
        payload = onConfirm context t issued payment b' := by
    intro e payload reply hx herr
    rcases Machine.exchange_asked hx with hold | ⟨-, hop, -⟩
    · obtain ⟨issued, context, payment, b', hk, hpay⟩ := h.sent e payload reply hold herr
      exact ⟨issued, context, payment, b', hk.mono, hpay⟩
    · cases hop
  rcases activatePolicy_cases number url a b t c w.store with ⟨err, he⟩ | ⟨-, he⟩
  · -- the update has failed: nobody knows of an issue yet
    have hans : (machine s).answer w (.activatePolicy number url a b t) c = .error err := congrArg Prod.fst he
    have hstore : ((machine s).asked w d (.activatePolicy number url a b t) c).store = w.store := congrArg Prod.snd he
    have hknows : ∀ e issued, ¬Knows ((machine s).asked w d (.activatePolicy number url a b t) c) e t issued := by
      intro e issued hk
      rcases knows_activate hk with hold | ⟨-, -, hok⟩
      · exact hunknown e issued hold
      · rw [hans] at hok
        cases hok
    refine ⟨h.confirms, by rw [hstore]; exact h.row, fun e _ he _ => absurd he (hnone e), fun _ e => hnone e, ?_,
      fun e issued hk => absurd hk (hknows e issued), hstored, hsent⟩
    rintro e e' ⟨n', u', a', b', hx⟩
    exact absurd (.inl ⟨n', u', a', b', rfl, hx⟩) (hknows e ⟨n', u', a', b'⟩)
  · -- the row is active, and this delivery is the only one that knows
    have hstore : ((machine s).asked w d (.activatePolicy number url a b t) c).store.policy t =
        some (p.activate number url a b) := by
      have h' : ((machine s).asked w d (.activatePolicy number url a b t) c).store =
          w.store.updatePolicy t (·.activate number url a b) := congrArg Prod.snd he
      rw [h', Db.policy_updatePolicy_self, hp, Option.map_some]
    have hknows : ∀ e issued, Knows ((machine s).asked w d (.activatePolicy number url a b t) c) e t issued →
        e = d ∧ issued = ⟨number, url, a, b⟩ := by
      intro e issued hk
      rcases knows_activate hk with hold | ⟨hed, hissued, -⟩
      · exact absurd hold (hunknown e issued)
      · exact ⟨hed, hissued⟩
    refine ⟨h.confirms, ⟨_, hstore, .inl ⟨_, reports_activate p number url a b⟩⟩, fun e _ he _ => absurd he (hnone e),
      fun _ e => hnone e, ?_, ?_, hstored, hsent⟩
    · rintro e e' ⟨n', u', a', b', hx⟩ ⟨n'', u'', a'', b'', hx'⟩
      rw [(hknows e _ (.inl ⟨n', u', a', b', rfl, hx⟩)).1, (hknows e' _ (.inl ⟨n'', u'', a'', b'', rfl, hx'⟩)).1]
    · intro e issued hk
      obtain ⟨-, rfl⟩ := hknows e issued hk
      exact ⟨_, hstore, reports_activate p number url a b⟩

private theorem oneIssue_keeps (s : BecknService) (t : String) :
    (protocol s).Keeps (OneAtATime t) (OneIssue t) where
  start w d r h hK hr he := by
    refine ⟨?_, h.row, fun _ _ hd he => h.exclusive _ _ ⟨hd.read, hd.waiting⟩ ⟨he.read, he.waiting⟩,
      fun ha _ hd => h.done ha _ ⟨hd.read, hd.waiting⟩, h.issuer, h.reported, h.stored, h.sent⟩
    intro e r' hr'
    rcases World.request?_of_started hr' with ⟨-, rfl⟩ | hr'
    · exact hK
    · exact h.confirms e r' hr'
  exec w d r o c h hK hr ho := by
    obtain ⟨req, rfl, ht⟩ := h.confirms d r hr
    by_cases hact : ∃ number url a b u, o = .activatePolicy number url a b u
    · obtain ⟨number, url, a, b, u, rfl⟩ := hact
      have hu : u = t := by
        generalize w.exchanges d = hist at ho
        cases ho
        exact ht
      subst hu
      exact oneIssue_activate h ho
    · exact oneIssue_other h hK ho ht fun number url a b u h => hact ⟨number, url, a, b, u, h⟩

/-- Deliveries of a confirm for a paid policy that has not been issued, none of which reads while another is issuing:
one of them issues it, and all their answers agree with the row. -/
theorem issued_exactly_once (s : BecknService) (db : Db) (t : String) (hdb : db.Issuable t) {k : BppConfig}
    (h : (machine s).Runs (OneAtATime t) (Config.init db) k) : ExactlyOnce k.world t := by
  obtain ⟨p, hp, hi⟩ := hdb
  have h₀ : OneIssue t (Config.init db : BppConfig).world := by
    have hnone : ∀ d, ¬Issuing ⟨db, []⟩ d t := by
      rintro d ⟨⟨row, -, hx⟩, -⟩
      cases hx
    refine ⟨?_, ⟨p, hp, .inr hi⟩, fun d _ hd _ => absurd hd (hnone d), fun _ d => hnone d, ?_, ?_, ?_, ?_⟩
    · rintro d r ⟨⟩
    · rintro d e ⟨_, _, _, _, ⟨⟩⟩
    · rintro d issued (⟨_, _, _, _, -, ⟨⟩⟩ | ⟨_, -, -, ⟨⟩⟩)
    · rintro d ⟨_, _, _, _, _, ⟨⟩⟩
    · rintro d payload reply ⟨⟩
  exact (Protocol.invariant (oneIssue_keeps s t) (Protocol.Obeyed.init _) h₀ h).exactlyOnce

/-! ### Two deliveries -/

/-- The database after an init and a payment of `t`. -/
def paidDb (t : String) : Db :=
  ((machine {}).serveAll start [(.init (bareMessage t), fun _ => {}), (.simulatePayment t, fun _ => {})]).world.store

/-- Two deliveries of a confirm; the first has asked `m` operations when the second starts to ask its own. -/
def twoConfirms (t : String) (m n₁ n₂ : Nat) : List (Machine.Label Choice Request) :=
  [.start (.confirm (bareMessage t)), .start (.confirm (bareMessage t))] ++
    .replicate m (.exec 0 {}) ++ .replicate n₂ (.exec 1 {}) ++ .replicate n₁ (.exec 0 {})

private def updated (t : String) (w : BppWorld) (d : Nat) : Bool :=
  (w.exchanges d).any fun
    | ⟨.activatePolicy _ _ _ _ u, .ok _⟩ => u = t
    | _ => false

private theorem mem_of_updated {t : String} {w : BppWorld} {d : Nat} (h : updated t w d = true) : HasIssued w d t := by
  obtain ⟨⟨o, a⟩, hx, ho⟩ := List.any_eq_true.1 h
  cases o with
  | activatePolicy number url x y u =>
    change Except String Unit at a
    cases a with
    | error err => cases ho
    | ok _ =>
      obtain rfl := of_decide_eq_true ho
      exact ⟨number, url, x, y, hx⟩
  | _ => cases ho

/-- A confirm reads when the others that have read have also updated. -/
private def serialTest (t : String) (w : BppWorld) : Action Choice Request Op → Bool
  | .start (.confirm req) => transactionID req = t
  | .start _ => false
  | .exec _ (.selectForConfirm _) _ => w.trace.all fun
    | .exec e _ (.selectForConfirm _) _ => updated t w e
    | _ => true
  | _ => true

private theorem oneAtATime_of_test {t : String} (w : BppWorld) (a : Action Choice Request Op)
    (h : serialTest t w a = true) : OneAtATime t w a := by
  cases a with
  | start r =>
    cases r with
    | confirm req => exact ⟨req, rfl, of_decide_eq_true h⟩
    | _ => cases h
  | exec d o c =>
    cases o with
    | selectForConfirm u =>
      rintro - e ⟨⟨row, -, hx⟩, hwait⟩
      obtain ⟨s', hs'⟩ := World.mem_exchanges.1 hx
      obtain ⟨number, url, x, y, hact⟩ := mem_of_updated (List.all_eq_true.1 h _ hs')
      exact hwait number url x y _ hact
    | _ => trivial

theorem issued_exactly_once_serial : ∃ k : BppConfig, updated "t" k.world 0 = true ∧ k.world.trace.length = 16 ∧
    ExactlyOnce k.world "t" := by
  have hrun : ((machine {}).run? (serialTest "t") (Config.init (paidDb "t")) (twoConfirms "t" 9 0 5)).any (fun k =>
      updated "t" k.world 0 ∧ k.world.trace.length = 16) = true := by decide +kernel
  obtain ⟨k, hk, h⟩ := (Option.any_eq_true _ _).1 hrun
  obtain ⟨h₁, h₂⟩ := of_decide_eq_true h
  have hdb : ((paidDb "t").policy "t").any (fun p => p.status ≠ .active ∧ p.paymentReceived) = true := by
    decide +kernel
  obtain ⟨p, hp, hi⟩ := (Option.any_eq_true _ _).1 hdb
  obtain ⟨hi₁, hi₂⟩ := of_decide_eq_true hi
  exact ⟨k, h₁, h₂, issued_exactly_once {} (paidDb "t") "t" ⟨p, hp, hi₁, hi₂⟩
    ((Machine.run?_runs hk).mono oneAtATime_of_test)⟩

/-- Only confirms of `t` are started. -/
private def confirmsTest (t : String) (_ : BppWorld) : Action Choice Request Op → Bool
  | .start (.confirm req) => transactionID req = t
  | .start _ => false
  | .exec .. => true

/-- Two confirms that both read before either updates both issue the policy. -/
theorem concurrent_confirms_issue_twice :
    ¬∀ (s : BecknService) (db : Db) (t : String),
      (∃ p, db.policy t = some p ∧ p.status = .pendingIssuance ∧ p.paymentReceived = true) →
        ∀ k, (machine s).Runs (ConfirmsOnly t) (Config.init db) k → ExactlyOnce k.world t := by
  intro hall
  have hrun : ((machine {}).run? (confirmsTest "t") (Config.init (paidDb "t")) (twoConfirms "t" 1 8 9)).any (fun k =>
      updated "t" k.world 0 ∧ updated "t" k.world 1) = true := by decide +kernel
  obtain ⟨k, hk, h⟩ := (Option.any_eq_true _ _).1 hrun
  obtain ⟨h₁, h₂⟩ := of_decide_eq_true h
  have hdb : ((paidDb "t").policy "t").any (fun p => p.status = .pendingIssuance ∧ p.paymentReceived) = true := by
    decide +kernel
  obtain ⟨p, hp, hi⟩ := (Option.any_eq_true _ _).1 hdb
  have honce := hall {} (paidDb "t") "t" ⟨p, hp, of_decide_eq_true hi⟩ k ((Machine.run?_runs hk).mono (by
    rintro w (r | ⟨d, o, c⟩) h
    · cases r with
      | confirm req => exact ⟨req, rfl, of_decide_eq_true h⟩
      | _ => cases h
    · trivial))
  exact absurd (honce.issued 0 1 (mem_of_updated h₁) (mem_of_updated h₂)) (by decide)

end IonInsurance.Bpp
