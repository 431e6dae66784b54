import IonInsurance.Bpp.Issuance

/-!
# Policyholders

`HandleInit` takes the NIK out of the first participant of the contract, with the empty text for every shape that does
not have it there, and checks it against sixteen digits unless it is empty.  A row keeps the NIK with which it was
inserted, so every NIK in the table has passed that check.
-/

namespace IonInsurance.Bpp

open Interleave

/-- Sixteen decimal digits. -/
def IsNIK (nik : String) : Prop := nik.toList.length = 16 ∧ ∀ ch ∈ nik.toList, ch.isDigit = true

theorem isNIK_of_nikRegex {nik : String} (h : nikRegex nik = true) : IsNIK nik := by
  unfold nikRegex at h
  rw [Bool.and_eq_true, decide_eq_true_eq, List.all_eq_true] at h
  exact h

/-- A row has the NIK it had before, or it has just been inserted. -/
theorem RowStep.nik {t : String} {o : Op} {p : Option Policy} {q' : Policy} (h : RowStep t o p (some q')) :
    (∃ q, p = some q ∧ q.policyholderNIK = q'.policyholderNIK) ∨
      ∃ txnID bapID bppID nik vin idv invoice, o = .insertPolicy txnID bapID bppID nik vin idv invoice ∧
        varchar 255 txnID = some t ∧ varchar 16 nik = some q'.policyholderNIK := by
  cases h with
  | keep => exact .inl ⟨q', rfl, rfl⟩
  | insert id idv hx ht =>
    obtain ⟨htxn, hnik, -⟩ := policyTexts_some hx
    exact .inr ⟨_, _, _, _, _, _, _, rfl, ht ▸ htxn, hnik⟩
  | reinit q => exact .inl ⟨q, rfl, rfl⟩
  | activate q => exact .inl ⟨q, rfl, rfl⟩
  | paid q rid =>
    refine .inl ⟨q, rfl, ?_⟩
    cases rid <;> rfl
  | cancel q => exact .inl ⟨q, rfl, rfl⟩
  | settle q => exact .inl ⟨q, rfl, rfl⟩

/-- An init whose transaction id is stored as `t` has named that NIK, and it was accepted. -/
def NamedNIK (w : BppWorld) (t nik : String) : Prop :=
  ∃ d req, w.request? d = some (.init req) ∧ varchar 255 (transactionID req) = some t ∧ (initInput req).nik = nik ∧
    (nik = "" ∨ IsNIK nik)

def NIKsNamed (w : BppWorld) : Prop := ∀ t p, w.store.policy t = some p → NamedNIK w t p.policyholderNIK

theorem NamedNIK.started {w : BppWorld} {t nik : String} (h : NamedNIK w t nik) {d : Nat} (r : Request)
    (hd : w.request? d = none) : NamedNIK (w.started d r) t nik := by
  obtain ⟨e, req, hreq, hrest⟩ := h
  exact ⟨e, req, World.request?_stays hd hreq, hrest⟩

/-- The rows that a permitted operation leaves have NIKs that inits have named. -/
theorem NIKsNamed.asked {s : BecknService} {w : BppWorld} (h : NIKsNamed w) {d : Nat} {r : Request} {o : Op}
    (c : Choice) (hr : w.request? d = some r) (ho : MayAsk s r (w.exchanges d) o) :
    NIKsNamed ((machine s).asked w d o c) := by
  intro t p hp
  have hstep := exec_rowStep o c w.store t
  rw [Machine.asked_store] at hp
  change (exec o c w.store).2.policy t = some p at hp
  rw [hp] at hstep
  rcases hstep.nik with ⟨q, hq, hnik⟩ | ⟨txnID, bapID, bppID, nik, vin, idv, invoice, hinsert, hstored, hnik⟩
  · rw [← hnik]
    exact h t q hq
  · -- only an init inserts a row, and it inserts what it has checked
    generalize w.exchanges d = hist at ho
    subst hinsert
    generalize hop : Op.insertPolicy txnID bapID bppID nik vin idv invoice = o at ho
    cases ho with
    | upsert req hvalid =>
      unfold initUpsert at hop
      injection hop with htxn _ _ hnamed
      subst htxn hnamed
      have hvalid : (initInput req).nik = "" ∨ IsNIK (initInput req).nik := hvalid.imp_right isNIK_of_nikRegex
      -- neither the empty text nor sixteen digits are cut
      have hwhole : p.policyholderNIK = (initInput req).nik := by
        refine (varchar_eq_self_iff hnik).2 ?_
        rcases hvalid with hempty | hdigits
        · rw [hempty]
          decide
        · exact Nat.le_of_eq hdigits.1
      rw [hwhole]
      exact ⟨d, req, hr, hstored, rfl, hvalid⟩
    | _ => cases hop

private theorem policyholders_keep (s : BecknService) : (protocol s).Keeps Machine.anything NIKsNamed where
  start w d r h _ hd _ := by
    intro t p hp
    exact (h t p hp).started r hd
  exec _ _ _ _ c h _ hr ho := h.asked c hr ho

/-- In every reachable state, the NIK of a row is one that an init of its transaction has named: it is empty, which
says that the init named none, or it has exactly sixteen digits.  The id of the init is the one of the row, but for blanks
that the column has cut off. -/
theorem policyholder_nik (s : BecknService) (k : BppConfig) (h : Reachable s k) (t : String) (p : Policy)
    (hp : k.world.store.policy t = some p) :
    (p.policyholderNIK = "" ∨ IsNIK p.policyholderNIK) ∧
      ∃ d req, k.world.request? d = some (.init req) ∧ varchar 255 (transactionID req) = some t ∧
        (initInput req).nik = p.policyholderNIK := by
  have hnamed : NIKsNamed k.world := by
    refine Protocol.invariant (policyholders_keep s) (Protocol.Obeyed.init _) ?_ h
    intro u q hq
    cases hq
  obtain ⟨d, req, hreq, htxn, hnik, hvalid⟩ := hnamed t p hp
  exact ⟨hvalid, d, req, hreq, htxn, hnik⟩

/-- An init that names a person, a vehicle and an insured value. -/
def kycMessage (t nik vin : String) (idv : Int) : Fields :=
  [("context", .obj [("transaction_id", .str t)]),
   ("message", .obj [("contract", .obj
     [("participants", .arr [.obj [("participantAttributes", .obj [("nik", .str nik)])]]),
      ("commitments", .arr [.obj [("commitmentAttributes", .obj [("vin", .str vin), ("idv", .int idv)])]])])])]

theorem policyholder_nik_named :
    let k := (machine {}).serve start (.init (kycMessage "t" "3175010101900001" "B1234XYZ" 100000000)) fun _ => {}
    ∃ p, k.world.store.policy "t" = some p ∧ p.policyholderNIK = "3175010101900001" ∧
      (p.policyholderNIK = "" ∨ IsNIK p.policyholderNIK) ∧
        ∃ d req, k.world.request? d = some (.init req) ∧ varchar 255 (transactionID req) = some "t" ∧
          (initInput req).nik = p.policyholderNIK := by
  intro k
  have hrow : (k.world.store.policy "t").map Policy.policyholderNIK = some "3175010101900001" := by decide +kernel
  obtain ⟨p, hp, hnik⟩ := Option.map_eq_some_iff.1 hrow
  exact ⟨p, hp, hnik, policyholder_nik {} k (Machine.serve_runs ..) "t" p hp⟩

/-- An init without participants creates a row with an empty NIK. -/
theorem anonymous_policyholder :
    ¬∀ (s : BecknService) (k : BppConfig), Reachable s k → ∀ t p, k.world.store.policy t = some p →
      IsNIK p.policyholderNIK := by
  intro hall
  have h : ((issuedRun "t").world.store.policy "t").map Policy.policyholderNIK = some "" := by decide +kernel
  obtain ⟨p, hp, hempty⟩ := Option.map_eq_some_iff.1 h
  have hnik := hall {} _ (issuedRun_reachable "t") "t" p hp
  rw [hempty] at hnik
  exact absurd hnik.1 (by decide)

end IonInsurance.Bpp
