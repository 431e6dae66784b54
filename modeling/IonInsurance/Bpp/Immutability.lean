import IonInsurance.Bpp.Issuance

/-!
# Messages after the policy has been issued

`HandleConfirm` and `HandlePaymentReceived` look for an `ACTIVE` row before they write, and the update of
`HandleCancel` is guarded; the upsert of `HandleInit` is not.  So a row stays as it was issued through handlers that
run to completion, except that an init of its transaction which reaches the database takes it back to
`PENDING_ISSUANCE`.  The transaction of an init is the one whose id the column stores for it.
-/

namespace IonInsurance.Bpp

open Interleave

/-- The row is `ACTIVE` and was issued as `p` was. -/
structure Policy.IssuedAs (q p : Policy) : Prop where
  status : q.status = .active
  number : q.policyNumber = p.policyNumber
  certificate : q.certificateURL = p.certificateURL
  coverageStart : q.coverageStart = p.coverageStart
  coverageEnd : q.coverageEnd = p.coverageEnd

def Db.IssuedAs (s : Db) (t : String) (p : Policy) : Prop := ∃ q, s.policy t = some q ∧ q.IssuedAs p

/-- The two operations that overwrite an issued row. -/
def Op.Overwrites (t : String) (o : Op) : Prop := o.Inits t ∨ ∃ number url a b, o = .activatePolicy number url a b t

private theorem RowStep.issuedAs {t : String} {o : Op} {p q : Policy} {r : Option Policy} (h : RowStep t o (some q) r)
    (ho : ¬o.Overwrites t) (hq : q.IssuedAs p) : ∃ q', r = some q' ∧ q'.IssuedAs p := by
  cases h with
  | keep => exact ⟨q, rfl, hq⟩
  | reinit _ _ hx ht => exact absurd (.inl ⟨_, hx, ht⟩) ho
  | activate => exact absurd (.inr ⟨_, _, _, _, rfl⟩) ho
  | paid _ rid => cases rid <;> exact ⟨_, rfl, hq.status, hq.number, hq.certificate, hq.coverageStart, hq.coverageEnd⟩
  | cancel _ hp => rw [hq.status] at hp; cases hp
  | settle => exact ⟨_, rfl, hq.status, hq.number, hq.certificate, hq.coverageStart, hq.coverageEnd⟩

theorem Db.IssuedAs.exec {s : Db} {t : String} {p : Policy} (h : s.IssuedAs t p) {o : Op} (ho : ¬o.Overwrites t)
    (c : Choice) : (exec o c s).2.IssuedAs t p := by
  obtain ⟨q, hq, hp⟩ := h
  have hr := exec_rowStep o c s t
  rw [hq] at hr
  exact hr.issuedAs ho hp

variable {s : BecknService} {d : Nat} {w : BppWorld} {t : String} {p : Policy}

/-- A confirm of an issued policy has read that it is issued. -/
def ReadIssued (w : BppWorld) (d : Nat) (t : String) : Prop :=
  ∀ req row, readForConfirm req row ∈ w.exchanges d → transactionID req = t → row.status = .active

/-- Except for an init, no delivery overwrites an issued row. -/
private theorem not_overwrites {r : Request} {o : Op} (hr : ∀ req, r ≠ .init req) (hw : ReadIssued w d t)
    (ho : MayAsk s r (w.exchanges d) o) : ¬o.Overwrites t := by
  generalize hh : w.exchanges d = hist at ho
  cases ho with
  | upsert req => exact absurd rfl (hr req)
  | issue req row hrow count now coverageStart =>
    have hread : readForConfirm req row ∈ w.exchanges d := by rw [hh]; simp [numbered]
    rintro (hinit | ⟨_, _, _, _, hop⟩)
    · exact hinit
    · injection hop with _ _ _ _ ht
      exact hrow.unissued (hw req row hread ht)
  | _ => rintro (hinit | ⟨_, _, _, _, hop⟩) <;> first | exact hinit | cases hop

private theorem readIssued_asked (h : ReadIssued w d t) (hw : w.store.IssuedAs t p) (o : Op) (c : Choice) :
    ReadIssued ((machine s).asked w d o c) d t := by
  rintro req row hx rfl
  rcases Machine.exchange_asked hx with hx | ⟨-, rfl, ha⟩
  · exact h req row hx rfl
  · obtain ⟨q, hq, rfl⟩ := selectForConfirm_row ha
    obtain ⟨q', hq', hi⟩ := hw
    rw [hq] at hq'
    obtain rfl := Option.some.inj hq'
    exact hi.status

/-- A request, and what the environment does while it is served. -/
abbrev Call := Request × (Nat → Choice)

/-- The message passes the check of `HandleInit`, and the columns take its texts. -/
def InitAccepted (s : BecknService) (req : Fields) : Prop :=
  ((initInput req).nik = "" ∨ nikRegex (initInput req).nik = true) ∧ (initTexts s req).isSome = true

/-- The call is an accepted init whose transaction id is stored as `t`, and the database does not fail its upsert. -/
def Call.Resets (s : BecknService) (t : String) : Call → Prop
  | (.init req, cs) => (initTexts s req).map PolicyTexts.txnID = some t ∧ InitAccepted s req ∧ (cs 0).sqlError = none
  | _ => False

/-- An init is rejected before it reaches the database, or its first operation is the upsert. -/
theorem handleInit_cases (s : BecknService) (req : Fields) :
    ((initInput req).nik ≠ "" ∧ nikRegex (initInput req).nik = false ∧ ∃ err, handleInit s req = .ret (.error err)) ∨
      ((initInput req).nik = "" ∨ nikRegex (initInput req).nik = true) ∧
        ∃ answer, handleInit s req = Prog.call (initUpsert s req) >>= answer := by
  unfold handleInit
  dsimp only
  split
  · rename_i h
    exact .inl ⟨h.1, by simpa using h.2, _, rfl⟩
  · rename_i h
    refine .inr ⟨?_, _, rfl⟩
    by_cases hn : (initInput req).nik = ""
    · exact .inl hn
    · exact .inr (by simpa [hn] using h)

/-- What an init does after its upsert does not touch the row. -/
theorem handleInit_rest {req : Fields} {answer : (initUpsert s req).Ans → Task (Except String Unit)}
    (h : handleInit s req = Prog.call (initUpsert s req) >>= answer) (hw : w.exchanges d = []) (c : Choice)
    {P : Option Policy → Prop} (hP : P (((machine s).asked w d (initUpsert s req) c).store.policy t)) :
    (machine s).Ends d (answer ((machine s).answer w (initUpsert s req) c)) (fun _ w' => P (w'.store.policy t))
      ((machine s).asked w d (initUpsert s req) c) := by
  have hf : (handleInit s req).Follows (MayAsk s (.init req)) _ [] := (protocol s).follows (.init req)
  rw [h] at hf
  have hends := Machine.ends_of_follows (M := machine s) (d := d) (w := (machine s).asked w d (initUpsert s req) c)
    (A := MayAsk s (.init req)) (B := fun h _ => Accounted (.init req) h)
    (P := fun w' => P (w'.store.policy t) ∧ w'.exchanges d ≠ [])
    (p := answer ((machine s).answer w (initUpsert s req) c)) ?_ ?_ ?_
  · exact fun cs => (hends cs).1
  · rw [Machine.exchanges_asked_self, hw]
    exact hf.2 _
  · intro w' o c' ⟨hp, hne⟩ ho
    refine ⟨?_, by simp⟩
    generalize w'.exchanges d = hist at ho hne
    cases ho with
    | upsert => exact absurd rfl hne
    | readStatus hn | markPaid hn | recordPayment hn => cases hn
    | _ => exact hp
  · exact ⟨hP, by simp⟩

/-- An upsert that fails changes nothing. -/
private theorem initUpsert_store (req : Fields) {c : Choice} (hc : c.sqlError ≠ none) (db : Db) :
    (exec (initUpsert s req) c db).2 = db := by
  cases he : c.sqlError with
  | none => exact absurd he hc
  | some err => simp only [initUpsert, exec, he, statement_some]

/-- An init that does not reset the row leaves it as it was issued. -/
private theorem handleInit_keeps (req : Fields) (cs : Nat → Choice) (he : w.exchanges d = [])
    (hw : w.store.IssuedAs t p) (hc : ¬Call.Resets s t (.init req, cs)) :
    ((machine s).finish d (handleInit s req) cs w).2.store.IssuedAs t p := by
  rcases handleInit_cases s req with ⟨-, -, err, h⟩ | ⟨hnik, answer, h⟩
  · rw [h]
    exact hw
  · rw [h, Machine.finish_call]
    refine handleInit_rest (P := fun r => ∃ q, r = some q ∧ q.IssuedAs p) h he (cs 0) ?_ _
    change (exec (initUpsert s req) (cs 0) w.store).2.IssuedAs t p
    by_cases he : (cs 0).sqlError = none
    · refine hw.exec (o := initUpsert s req) ?_ _
      rintro (⟨x, hx, ht⟩ | ⟨_, _, _, _, hop⟩)
      · have hx : initTexts s req = some x := hx
        exact hc ⟨by rw [hx, Option.map_some, ht], ⟨hnik, by rw [hx]; rfl⟩, he⟩
      · cases hop
    · rw [initUpsert_store req he]
      exact hw

/-- A call that is not such an init leaves the policy as it was issued. -/
theorem issuedAs_serve {k : BppConfig} (h : Reachable s k) (hk : k.world.store.IssuedAs t p) {call : Call}
    (hc : ¬call.Resets s t) : ((machine s).serve k call.1 call.2).world.store.IssuedAs t p := by
  obtain ⟨r, cs⟩ := call
  have hobeyed : (protocol s).Obeyed k := (Protocol.Obeyed.init _).run h
  have hfresh : (k.world.started k.progs.length r).exchanges k.progs.length = [] :=
    (hobeyed.fresh _ (Nat.le_refl _)).2
  by_cases hr : ∃ req, r = .init req
  · obtain ⟨req, rfl⟩ := hr
    exact handleInit_keeps req cs hfresh hk hc
  · refine (Machine.ends_of_follows (M := machine s) (w := k.world.started k.progs.length r)
      (P := fun w => w.store.IssuedAs t p ∧ ReadIssued w k.progs.length t)
      (hfresh ▸ (protocol s).follows r) ?_ ⟨hk, ?_⟩ cs).1
    · intro w o c ⟨hi, hread⟩ ho
      exact ⟨hi.exec (not_overwrites (fun req h => hr ⟨req, h⟩) hread ho) c, readIssued_asked hread hi o c⟩
    · intro req row hx
      rw [hfresh] at hx
      cases hx

theorem issuedAs_serveAll {k : BppConfig} (h : Reachable s k) (hk : k.world.store.IssuedAs t p) {calls : List Call}
    (hc : ∀ call ∈ calls, ¬call.Resets s t) : ((machine s).serveAll k calls).world.store.IssuedAs t p := by
  induction calls generalizing k with
  | nil => exact hk
  | cons call calls ih =>
    have h' : Reachable s ((machine s).serve k call.1 call.2) := h.trans (Machine.serve_runs ..)
    exact ih h' (issuedAs_serve h hk (hc call List.mem_cons_self)) fun c h => hc c (List.mem_cons_of_mem _ h)

/-! ### A redelivered init -/

/-- An accepted init takes any row back to `PENDING_ISSUANCE`. -/
theorem pending_of_resets {k : BppConfig} (h : Reachable s k) (hk : ∃ q, k.world.store.policy t = some q)
    {call : Call} (hc : call.Resets s t) :
    ((machine s).serve k call.1 call.2).world.store.HasStatus t .pendingIssuance := by
  obtain ⟨r, cs⟩ := call
  cases r with
  | init req =>
    obtain ⟨htexts, ⟨hnik, -⟩, he⟩ := hc
    obtain ⟨x, hx, rfl⟩ := Option.map_eq_some_iff.1 htexts
    obtain ⟨q, hq⟩ := hk
    have hobeyed : (protocol s).Obeyed k := (Protocol.Obeyed.init _).run h
    change ((machine s).finish k.progs.length (handleInit s req) cs
      (k.world.started k.progs.length (.init req))).2.store.HasStatus x.txnID .pendingIssuance
    rcases handleInit_cases s req with ⟨hn, hn', -⟩ | ⟨-, answer, ha⟩
    · rcases hnik with h | h
      · exact absurd h hn
      · rw [hn'] at h
        cases h
    · rw [ha, Machine.finish_call]
      refine handleInit_rest (w := k.world.started k.progs.length (.init req))
        (P := fun r => ∃ q, r = some q ∧ q.status = .pendingIssuance) ha
        (hobeyed.fresh _ (Nat.le_refl _)).2 (cs 0) ⟨q.reinit x.invoice, ?_, rfl⟩ _
      unfold initTexts at hx
      simp only [initUpsert, machine, Machine.asked_store, World.started_store, exec, he, statement_none,
        Db.insertPolicy, hx, hq, Db.policy_updatePolicy_self, Option.map_some]
      rfl
  | _ => exact hc.elim

/-- From every reachable state, an issued policy stays as it was issued, after every call, exactly when no call is an
accepted init of its transaction whose upsert the database carries out. -/
theorem issued_immutable_iff (s : BecknService) (k : BppConfig) (h : Reachable s k) (t : String) (p : Policy)
    (hp : k.world.store.policy t = some p) (ha : p.status = .active) (calls : List Call) :
    (∀ before, before <+: calls → ((machine s).serveAll k before).world.store.IssuedAs t p) ↔
      ∀ call ∈ calls, ¬call.Resets s t := by
  have hk : k.world.store.IssuedAs t p := ⟨p, hp, ha, rfl, rfl, rfl, rfl⟩
  constructor
  · intro hall call hcall hres
    obtain ⟨before, after, rfl⟩ := List.append_of_mem hcall
    obtain ⟨q, hq, -⟩ := hall before (List.prefix_append ..)
    obtain ⟨q₁, hq₁, hi⟩ := hall (before ++ [call]) (by simp)
    obtain ⟨q₂, hq₂, hpend⟩ := pending_of_resets (h.trans (Machine.serveAll_runs k before)) ⟨q, hq⟩ hres
    rw [Machine.serveAll_append, Machine.serveAll_cons, Machine.serveAll_nil, hq₂] at hq₁
    obtain rfl := Option.some.inj hq₁
    rw [hi.status] at hpend
    cases hpend
  · intro hall before hpre
    exact issuedAs_serveAll h hk fun call hcall => hall call (hpre.subset hcall)

theorem issued_immutable_iff_issuedRun :
    ∃ p, (issuedRun "t").world.store.policy "t" = some p ∧ p.status = .active ∧
      ((∀ before, before <+: [(Request.confirm (bareMessage "t"), fun _ => {})] →
          ((machine {}).serveAll (issuedRun "t") before).world.store.IssuedAs "t" p) ↔
        ∀ call ∈ [((Request.confirm (bareMessage "t"), fun _ => {}) : Call)], ¬Call.Resets {} "t" call) := by
  have h : ((issuedRun "t").world.store.policy "t").map Policy.status = some .active := by decide +kernel
  obtain ⟨p, hp, ha⟩ := Option.map_eq_some_iff.1 h
  exact ⟨p, hp, ha, issued_immutable_iff {} _ (issuedRun_reachable "t") "t" p hp ha _⟩

/-- An init redelivered after the policy has been issued takes it back. -/
theorem redelivered_init_reopens :
    ¬∀ (s : BecknService) (k : BppConfig), Reachable s k → ∀ t p, k.world.store.policy t = some p → p.status = .active →
      ∀ calls : List Call, ((machine s).serveAll k calls).world.store.IssuedAs t p := by
  intro hall
  have h : ((issuedRun "t").world.store.policy "t").map Policy.status = some .active := by decide +kernel
  obtain ⟨p, hp, ha⟩ := Option.map_eq_some_iff.1 h
  obtain ⟨q, hq, hi⟩ := hall {} _ (issuedRun_reachable "t") "t" p hp ha [(.init (bareMessage "t"), fun _ => {})]
  have hpend : (((machine {}).serveAll (issuedRun "t") [(.init (bareMessage "t"), fun _ => {})]).world.store.policy
      "t").map Policy.status = some .pendingIssuance := by decide +kernel
  rw [hq, Option.map_some, hi.status] at hpend
  cases hpend

end IonInsurance.Bpp
