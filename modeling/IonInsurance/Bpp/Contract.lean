import IonInsurance.Bpp.Answers
import IonInsurance.Bpp.Immutability
import IonInsurance.Bpp.Policyholders
import IonInsurance.Bpp.Quote
import IonInsurance.Bpp.Reports

/-!
# Which contract is insured

The conflict branch of the upsert of `HandleInit` leaves the identity number, the vehicle and the insured value of its
row alone, and so does every other operation.  A transaction keeps what its first successful init has named, as far as
the columns store it, and the price of its `on_confirm` is the price of that, while each `on_init` names the price of its
own message.
-/

namespace IonInsurance.Bpp

open Interleave

/-- What a row insures, in the words of the init. -/
def Policy.insured (p : Policy) : InitInput where
  nik := p.policyholderNIK
  vin := p.vehicleVIN
  idvIDR := p.idv

/-- What the row of `t` insures. -/
def Db.insured (s : Db) (t : String) : Option InitInput := (s.policy t).map Policy.insured

/-- A row insures what it was created for. -/
theorem RowStep.insured {t : String} {o : Op} {p : Policy} {r : Option Policy} (h : RowStep t o (some p) r) :
    r.map Policy.insured = some p.insured := by
  cases h with
  | paid _ rid => cases rid <;> rfl
  | _ => rfl

theorem insured_exec {s : Db} {t : String} {x : InitInput} (h : s.insured t = some x) (o : Op) (c : Choice) :
    (exec o c s).2.insured t = some x := by
  obtain ⟨p, hp, rfl⟩ := Option.map_eq_some_iff.1 h
  have hrow := exec_rowStep o c s t
  rw [hp] at hrow
  exact hrow.insured

/-- What a new row insures. -/
def PolicyTexts.insured (x : PolicyTexts) (idvIDR : Int) : InitInput where
  nik := x.nik
  vin := x.vin
  idvIDR := idvIDR

/-- A successful init creates its row, or leaves it insuring what it does. -/
theorem insured_upsert {s : BecknService} {req : Fields} {x : PolicyTexts} {c : Choice} {db : Db}
    (hx : initTexts s req = some x) (hc : c.sqlError = none) :
    (exec (initUpsert s req) c db).2.insured x.txnID =
      some ((db.insured x.txnID).getD (x.insured (initInput req).idvIDR)) := by
  unfold initTexts at hx
  simp only [initUpsert, exec, hc, statement_none, Db.insertPolicy, hx]
  cases hp : db.policy x.txnID with
  | none =>
    simp only [Db.insured, Db.policy, AList.lookup_insert] at hp ⊢
    rw [hp]
    rfl
  | some p =>
    simp only [Db.insured, Db.policy_updatePolicy_self, hp]
    rfl

/-- What a transaction insures stays in every run. -/
theorem insured_run {s : BecknService} {k k' : BppConfig} {t : String} {x : InitInput}
    (h : (machine s).Runs Machine.anything k k') (hk : k.world.store.insured t = some x) :
    k'.world.store.insured t = some x := by
  refine Machine.Runs.store (P := fun db : Db => db.insured t = some x) h ?_ hk
  intro w d o c _ hw
  exact insured_exec hw o c

/-- A served init leaves its row insuring what it did before, or else what the init names. -/
theorem insured_serve {s : BecknService} {k : BppConfig} (h : Reachable s k) {req : Fields} {x : PolicyTexts}
    {cs : Nat → Choice} (hnik : (initInput req).nik = "" ∨ nikRegex (initInput req).nik = true)
    (hx : initTexts s req = some x) (hc : (cs 0).sqlError = none) :
    ((machine s).serve k (.init req) cs).world.store.insured x.txnID =
      some ((k.world.store.insured x.txnID).getD (x.insured (initInput req).idvIDR)) := by
  have hobeyed : (protocol s).Obeyed k := (Protocol.Obeyed.init _).run h
  change ((machine s).finish k.progs.length (handleInit s req) cs
    (k.world.started k.progs.length (.init req))).2.store.insured x.txnID = _
  rcases handleInit_cases s req with ⟨hn, hn', -⟩ | ⟨-, answer, heq⟩
  · rcases hnik with h | h
    · exact absurd h hn
    · rw [hn'] at h
      cases h
  · rw [heq, Machine.finish_call]
    exact handleInit_rest (w := k.world.started k.progs.length (.init req))
      (P := fun r => r.map Policy.insured =
        some ((k.world.store.insured x.txnID).getD (x.insured (initInput req).idvIDR))) heq
      (hobeyed.fresh _ (Nat.le_refl _)).2 (cs 0) (insured_upsert hx hc) _

/-- The ids of the rows fit their column. -/
theorem length_txnID {s : BecknService} {k : BppConfig} (h : Reachable s k) {t : String} {p : Policy}
    (hp : k.world.store.policy t = some p) : t.toList.length ≤ 255 := by
  have hfits : ∀ t p, k.world.store.policy t = some p → t.toList.length ≤ 255 := by
    refine Machine.Runs.store (P := fun db : Db => ∀ t p, db.policy t = some p → t.toList.length ≤ 255) h ?_ ?_
    · intro w d o c _ hw t p hp
      have hstep := exec_rowStep o c w.store t
      cases hold : w.store.policy t with
      | some q => exact hw t q hold
      | none =>
        change (exec o c w.store).2.policy t = some p at hp
        rw [hold, hp] at hstep
        cases hstep with
        | insert _ _ hx ht =>
          rw [← ht]
          exact length_varchar (policyTexts_some hx).1
    · intro t p hp
      cases hp
  exact hfits t p hp

/-! ### The price of a confirm -/

/-- What confirms have read and sent about the insured value. -/
structure Priced (w : BppWorld) : Prop where
  read : ∀ d req row, readForConfirm req row ∈ w.exchanges d →
    ∃ x, w.store.insured (transactionID req) = some x ∧ x.idvIDR = row.idv
  sent : ∀ payload, w.Asked (.post .onixBPPCaller "on_confirm" payload) → payload.has "error" = false →
    ∃ x, w.store.insured (transactionID payload) = some x ∧
      totalAmountOf payload = some (((comprehensiveZone3 x.idvIDR).toOption.getD {}).totalIDR : ℚ)

section

variable {s : BecknService} {w : BppWorld} {d : Nat} {r : Request} {o : Op} {c : Choice}

/-- An `on_confirm` without an error is priced by the row that its confirm has read. -/
private theorem sent_priced (hw : Priced w) {payload : Fields}
    (ho : MayAsk s r (w.exchanges d) (.post .onixBPPCaller "on_confirm" payload))
    (he : payload.has "error" = false) :
    ∃ x, w.store.insured (transactionID payload) = some x ∧
      totalAmountOf payload = some (((comprehensiveZone3 x.idvIDR).toOption.getD {}).totalIDR : ℚ) := by
  obtain ⟨req, row, issued, payment, t₁, t₂, rfl, hread, rfl, -⟩ := mayAsk_onConfirm ho he
  obtain ⟨x, hx, hidv⟩ := hw.read d req row hread
  refine ⟨x, ?_, ?_⟩
  · rw [transactionID_onConfirm]
    exact hx
  · rw [totalAmountOf_onConfirm, hidv]

theorem Priced.asked (hw : Priced w) (ho : MayAsk s r (w.exchanges d) o) : Priced ((machine s).asked w d o c) where
  read := by
    intro e req row hx
    rcases Machine.exchange_asked hx with hold | ⟨rfl, rfl, hans⟩
    · obtain ⟨x, hx, hidv⟩ := hw.read e req row hold
      exact ⟨x, insured_exec hx o c, hidv⟩
    · obtain ⟨p, hp, rfl⟩ := selectForConfirm_row hans
      have hinsured : w.store.insured (transactionID req) = some p.insured := by
        unfold Db.insured
        rw [hp, Option.map_some]
      exact ⟨p.insured, insured_exec hinsured _ c, rfl⟩
  sent := by
    rintro payload ⟨e, reply, hx⟩ he
    rcases Machine.exchange_asked hx with hold | ⟨rfl, rfl, -⟩
    · obtain ⟨x, hx, htotal⟩ := hw.sent payload ⟨e, reply, hold⟩ he
      exact ⟨x, insured_exec hx o c, htotal⟩
    · obtain ⟨x, hx, htotal⟩ := sent_priced hw ho he
      exact ⟨x, insured_exec hx _ c, htotal⟩

private theorem priced_keeps (s : BecknService) : (protocol s).Keeps Machine.anything Priced where
  start _ _ _ hw _ _ _ := ⟨hw.read, hw.sent⟩
  exec _ _ _ _ _ hw _ _ ho := hw.asked ho

/-- In every reachable state, an `on_confirm` without an error that was ever sent names the price of what is insured. -/
theorem reachable_priced {k : BppConfig} (h : Reachable s k) : Priced k.world := by
  refine Protocol.invariant (priced_keeps s) (Protocol.Obeyed.init _) ⟨?_, ?_⟩ h
  · intro d req row hx
    cases hx
  · rintro payload ⟨d, reply, hx⟩
    cases hx

end

/-- The id of the init is stored as it is, and it has no row yet and its VIN is stored as it is, or its row is for the
same person, vehicle and insured value. -/
def InitInsures (db : Db) (req : Fields) : Prop :=
  (transactionID req).toList.length ≤ 255 ∧
    (db.policy (transactionID req) = none ∧ (initInput req).vin.toList.length ≤ 50 ∨
      ∃ p, db.policy (transactionID req) = some p ∧ p.insured = initInput req)

/-- What an accepted init leaves insured is what it names, exactly under this condition. -/
private theorem initInsures_iff {s : BecknService} {db db' : Db} {req : Fields} {x : PolicyTexts}
    (hnik : (initInput req).nik = "" ∨ nikRegex (initInput req).nik = true) (hx : initTexts s req = some x)
    (hfits : ∀ p, db'.policy (transactionID req) = some p → (transactionID req).toList.length ≤ 255)
    (hinsured : db'.insured x.txnID = some ((db.insured x.txnID).getD (x.insured (initInput req).idvIDR))) :
    db'.insured (transactionID req) = some (initInput req) ↔ InitInsures db req := by
  obtain ⟨htxn, hstored, hvin, -⟩ := policyTexts_some hx
  have hnik' : x.nik = (initInput req).nik := by
    refine (varchar_eq_self_iff hstored).2 ?_
    rcases hnik with hempty | hdigits
    · rw [hempty]
      decide
    · exact Nat.le_of_eq (isNIK_of_nikRegex hdigits).1
  -- a new row names the person and the value, and the vehicle if its column has not cut it
  have hnew : x.insured (initInput req).idvIDR = initInput req ↔ (initInput req).vin.toList.length ≤ 50 := by
    rw [← varchar_eq_self_iff hvin]
    constructor
    · intro h
      exact congrArg InitInput.vin h
    · intro h
      unfold PolicyTexts.insured
      rw [hnik', h]
  by_cases hid : (transactionID req).toList.length ≤ 255
  · rw [(varchar_eq_self_iff htxn).2 hid] at hinsured
    rw [hinsured, Option.some.injEq, InitInsures]
    unfold Db.insured
    cases db.policy (transactionID req) with
    | none => simp [hnew, hid]
    | some p => simp [hid]
  · refine ⟨fun h => ?_, fun h => absurd h.1 hid⟩
    obtain ⟨p, hp, -⟩ := Option.map_eq_some_iff.1 h
    exact absurd (hfits p hp) hid

/-- From every reachable state, an init is served with success, and the run goes on in any way.  The row then holds
what the init named, and every `on_confirm` of the transaction names the price of the `on_init`, exactly if the columns
store the id and the VIN as they are and the transaction had no row before, or its row was for the same person, vehicle
and insured value. -/
theorem last_init_insured_iff (s : BecknService) (k₀ : BppConfig) (h₀ : Reachable s k₀) (req : Fields)
    (cs : Nat → Choice) (ha : InitAccepted s req) (hc : (cs 0).sqlError = none) (k : BppConfig)
    (h : (machine s).Runs Machine.anything ((machine s).serve k₀ (.init req) cs) k) :
    (k.world.store.insured (transactionID req) = some (initInput req) ∧
        ∀ onInit payload, Answered k.world k₀.progs.length "on_init" onInit →
          k.world.Asked (.post .onixBPPCaller "on_confirm" payload) → transactionID payload = transactionID req →
            payload.has "error" = false → totalAmountOf payload = totalAmountOf onInit) ↔
      InitInsures k₀.world.store req := by
  have hk : Reachable s k := (h₀.trans (Machine.serve_runs ..)).trans h
  obtain ⟨hnik, hsome⟩ := ha
  obtain ⟨texts, htexts⟩ := Option.isSome_iff_exists.1 hsome
  have hinsured := insured_run h (insured_serve h₀ hnik htexts hc)
  rw [← initInsures_iff hnik htexts (fun p hp => length_txnID hk hp) hinsured]
  constructor
  · exact fun hprop => hprop.1
  · intro hsame
    refine ⟨hsame, ?_⟩
    rintro onInit payload ⟨reply, hx⟩ hsent ht he
    obtain ⟨x, hx', htotal⟩ := (reachable_priced hk).sent payload hsent he
    rw [ht, hsame] at hx'
    obtain rfl := Option.some.inj hx'
    rw [htotal, comprehensive_total (inInt64_initInput req)]
    -- the delivery that has answered is the init
    have hserved : (protocol s).Obeyed ((machine s).serve k₀ (.init req) cs) :=
      (Protocol.Obeyed.init _).run (h₀.trans (Machine.serve_runs ..))
    have hrequest : k.world.request? k₀.progs.length = some (.init req) :=
      hserved.request?_run h (Machine.serve_request? k₀ (.init req) cs)
    exact (Machine.asked_of_asks (M := machine s) (handleInit_asks s req) hk hrequest hx onInit rfl).symm

/-- The payment and the confirm of the sandbox. -/
def payAndConfirm (t : String) : List Call :=
  [(.simulatePayment t, fun _ => {}), (.confirm (bareMessage t), fun _ => {})]

theorem last_init_insured_iff_first :
    let req := kycMessage "t" "3175010101900001" "B1234XYZ" 100000000
    let k := (machine {}).serveAll ((machine {}).serve start (.init req) fun _ => {}) (payAndConfirm "t")
    (k.world.store.insured "t" = some (initInput req) ∧
        ∀ onInit payload, Answered k.world start.progs.length "on_init" onInit →
          k.world.Asked (.post .onixBPPCaller "on_confirm" payload) → transactionID payload = "t" →
            payload.has "error" = false → totalAmountOf payload = totalAmountOf onInit) ↔
      InitInsures start.world.store req := by
  have haccepted : InitAccepted {} (kycMessage "t" "3175010101900001" "B1234XYZ" 100000000) := by
    refine ⟨.inr ?_, ?_⟩
    · decide +kernel
    · decide +kernel
  exact last_init_insured_iff {} start .refl _ (fun _ => {}) haccepted rfl _ (Machine.serveAll_runs ..)

/-- The customer goes back and corrects the insured value: the row keeps the first one. -/
theorem corrected_kyc_ignored :
    ¬∀ (s : BecknService) (k₀ : BppConfig), Reachable s k₀ → ∀ req cs, InitAccepted s req → (cs 0).sqlError = none →
      ∀ k, (machine s).Runs Machine.anything ((machine s).serve k₀ (.init req) cs) k →
        k.world.store.insured (transactionID req) = some (initInput req) := by
  intro hall
  let k₀ := (machine {}).serve start (.init (kycMessage "t" "3175010101900001" "B1234XYZ" 100000000)) fun _ => {}
  have haccepted : InitAccepted {} (kycMessage "t" "3175010101900002" "B9876ABC" 200000000) := by
    refine ⟨.inr ?_, ?_⟩
    · decide +kernel
    · decide +kernel
  have hlast := hall {} k₀ (Machine.serve_runs ..) _ (fun _ => {}) haccepted rfl _ .refl
  have hidv : (((machine {}).serve k₀ (.init (kycMessage "t" "3175010101900002" "B9876ABC" 200000000)) fun _ =>
      {}).world.store.insured "t").map InitInput.idvIDR = some 100000000 := by
    decide +kernel
  change ((machine {}).serve k₀ _ _).world.store.insured "t" = _ at hlast
  rw [hlast, Option.map_some, Option.some.injEq] at hidv
  revert hidv
  decide +kernel

end IonInsurance.Bpp
