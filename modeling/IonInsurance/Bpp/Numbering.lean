import IonInsurance.Bpp.Issuance

/-!
# Policy numbers

The number of a policy is one more than a `COUNT` of the active rows, read some statements before the update that
stores it.  It is fresh if the count still stands at the update and never falls: then the `i`-th activation stores
number `i`, and every stored number is at most the number of active rows.
-/

namespace IonInsurance.Bpp

open Interleave

private theorem toList_policyNumber (y i : Nat) :
    (policyNumber y i).toList = "POL-INS-".toList ++ (Nat.toDigits 10 y ++ '-' :: (pad 5 i).toList) := by
  unfold policyNumber
  simp only [String.toList_append]
  simp [toString, Nat.toList_repr]

/-- A policy number determines its sequence number. -/
theorem policyNumber_seq {y z i j : Nat} (h : policyNumber y i = policyNumber z j) : i = j := by
  have hdash : ∀ n, '-' ∉ Nat.toDigits 10 n := fun n hn =>
    absurd (Nat.isDigit_of_mem_toDigits (by decide) (by decide) hn) (by decide)
  have hdash' : '-' ∉ (pad 5 i).toList := by
    unfold pad
    rw [String.toList_ofList, List.mem_append, List.mem_replicate]
    rintro (⟨-, h0⟩ | h0)
    · cases h0
    · exact hdash i h0
  have hl := congrArg String.toList h
  rw [toList_policyNumber, toList_policyNumber, List.append_cancel_left_eq] at hl
  have hpad := ((List.append_cons_inj_of_notMem (hdash y) hdash').1 hl).2.2
  exact pad_injective 5 (String.toList_injective hpad)

/-- No activation has taken effect since the count of delivery `d`; the trace is read from its latest event. -/
def countStands (d : Nat) : List (Event Db Request Op Op.Ans) → Bool
  | [] => false
  | .exec e _ .countActive _ :: rest => e = d || countStands d rest
  | .exec _ _ (.activatePolicy ..) (.ok _) :: _ => false
  | _ :: rest => countStands d rest

/-- The upsert of an init that is carried out finds its row not active, counts do not fail, and an update finds its row
not active and its count still standing. -/
def CleanCount (w : BppWorld) : Action Choice Request Op → Prop
  | .exec _ (.insertPolicy txnID bapID bppID nik vin _ invoice) c =>
    c.sqlError = none → ∀ x ∈ policyTexts txnID bapID bppID nik vin invoice, ¬w.store.HasStatus x.txnID .active
  | .exec _ .countActive c => c.sqlError = none
  | .exec d (.activatePolicy _ _ _ _ t) c =>
    c.sqlError = none → ¬w.store.HasStatus t .active ∧ countStands d w.trace = true
  | _ => True

instance (w : BppWorld) (a : Action Choice Request Op) : Decidable (CleanCount w a) :=
  match a with
  | .exec _ (.insertPolicy txnID bapID bppID nik vin _ invoice) c =>
    inferInstanceAs (Decidable (c.sqlError = none →
      ∀ x ∈ policyTexts txnID bapID bppID nik vin invoice, ¬w.store.HasStatus x.txnID .active))
  | .exec _ .countActive c => inferInstanceAs (Decidable (c.sqlError = none))
  | .exec _ (.activatePolicy ..) c => inferInstanceAs (Decidable (c.sqlError = none → ¬_ ∧ _ = true))
  | .start _ | .exec _ .now _ | .exec _ (.post ..) _ | .exec _ .queryMatchingResources _
  | .exec _ (.selectForConfirm _) _ | .exec _ (.selectPayment _) _ | .exec _ (.insertPayment ..) _
  | .exec _ (.selectStatus _) _ | .exec _ (.markPaid ..) _ | .exec _ (.selectIDV _) _
  | .exec _ (.selectForRelease _) _ | .exec _ (.markSettled _) _ | .exec _ (.cancelPending _) _
  | .exec _ (.selectForStatus _) _ | .exec _ (.selectID _) _ | .exec _ (.insertRating ..) _
  | .exec _ (.insertTicket ..) _ => .isTrue trivial

/-- The numbers in use belong to active rows, are distinct, and are at most the number of active rows. -/
structure Db.Numbering (s : Db) : Prop where
  active : ∀ t p n, s.policy t = some p → p.policyNumber = some n → p.status = .active
  bounded : ∀ t p n, s.policy t = some p → p.policyNumber = some n → ∃ y i, i ≤ s.activeCount ∧ n = policyNumber y i
  distinct : ∀ t u p q n, s.policy t = some p → s.policy u = some q → p.policyNumber = some n →
    q.policyNumber = some n → t = u

/-- A count that stands is the number of active rows. -/
def CountsStand (w : BppWorld) : Prop :=
  ∀ d count, Op.countActive.answered count ∈ w.exchanges d → countStands d w.trace = true →
    count = .ok w.store.activeCount

variable {s : BecknService} {w : BppWorld} {d : Nat} {o : Op} {c : Choice}

/-- Without an activation that takes effect, a number is one that the row had before. -/
private theorem RowStep.number {t n : String} {o : Op} {p : Option Policy} {q' : Policy} (h : RowStep t o p (some q'))
    (hn : q'.policyNumber = some n) :
    (∃ q, p = some q ∧ q.policyNumber = some n) ∨ ∃ number url a b, o = .activatePolicy number url a b t := by
  cases h with
  | keep => exact .inl ⟨q', rfl, hn⟩
  | insert => cases hn
  | reinit p | cancel p | settle p => exact .inl ⟨p, rfl, hn⟩
  | activate => exact .inr ⟨_, _, _, _, rfl⟩
  | paid p rid => exact .inl ⟨p, rfl, by cases rid <;> exact hn⟩

/-- An active row stays active, unless an init takes it back. -/
private theorem RowStep.stays {t : String} {o : Op} {q q' : Policy} (h : RowStep t o (some q) (some q'))
    (ha : q.status = .active) :
    q'.status = .active ∨ o.Inits t := by
  cases h with
  | keep => exact .inl ha
  | reinit _ _ hx ht => exact .inr ⟨_, hx, ht⟩
  | activate => exact .inl rfl
  | paid p rid => exact .inl (by cases rid <;> exact ha)
  | cancel _ hp => rw [ha] at hp; cases hp
  | settle => exact .inl ha

/-! ### The stored numbers -/

/-- An operation that activates nothing keeps the stored numbers. -/
theorem Db.Numbering.exec {db : Db} (h : db.Numbering) (hact : ∀ number url a b t, o ≠ .activatePolicy number url a b t)
    (hinit : ∀ t, o.Inits t → c.sqlError = none → ¬db.HasStatus t .active) : (Bpp.exec o c db).2.Numbering := by
  have hcount := activeCount_exec hact hinit
  have hback : ∀ t p n, (Bpp.exec o c db).2.policy t = some p → p.policyNumber = some n →
      ∃ q, db.policy t = some q ∧ q.policyNumber = some n := by
    intro t p n hp hn
    have hr := exec_rowStep o c db t
    rw [hp] at hr
    rcases hr.number hn with h | ⟨_, _, _, _, rfl⟩
    · exact h
    · exact absurd rfl (hact _ _ _ _ _)
  refine ⟨?_, ?_, ?_⟩
  · intro t p n hp hn
    obtain ⟨q, hq, hqn⟩ := hback t p n hp hn
    have hr := exec_rowStep o c db t
    rw [hp, hq] at hr
    rcases hr.stays (h.active t q n hq hqn) with ha | hinits
    · exact ha
    · -- the init has failed: it would have met an active row
      cases he : c.sqlError with
      | none => exact absurd ⟨q, hq, h.active t q n hq hqn⟩ (hinit t hinits he)
      | some err =>
        have hsame : (Bpp.exec o c db).2 = db := by
          cases o with
          | insertPolicy => simp only [Bpp.exec, he, statement_some]
          | _ => exact hinits.elim
        rw [hsame, hq] at hp
        obtain rfl := Option.some.inj hp
        exact h.active t q n hq hqn
  · intro t p n hp hn
    obtain ⟨q, hq, hqn⟩ := hback t p n hp hn
    rw [hcount]
    exact h.bounded t q n hq hqn
  · intro t u p q n hp hq hpn hqn
    obtain ⟨p', hp', hpn'⟩ := hback t p n hp hpn
    obtain ⟨q', hq', hqn'⟩ := hback u q n hq hqn
    exact h.distinct t u p' q' n hp' hq' hpn' hqn'

/-- Numbering a row that is not active with the next number keeps the numbers distinct. -/
theorem Db.Numbering.activate {db : Db} (h : db.Numbering) {t : String} {p : Policy} (hp : db.policy t = some p)
    (hna : p.status ≠ .active) (y : Nat) (url : String) (a b : Time) :
    (db.updatePolicy t (·.activate (policyNumber y (db.activeCount + 1)) url a b)).Numbering := by
  have hcount : (db.updatePolicy t (·.activate (policyNumber y (db.activeCount + 1)) url a b)).activeCount =
      db.activeCount + 1 := by
    simpa [hna, Policy.activate] using
      Db.activeCount_updatePolicy hp (·.activate (policyNumber y (db.activeCount + 1)) url a b)
  -- the row of `t` has the new number, and the others have their old ones
  have hrow : ∀ u q n, (db.updatePolicy t
      (·.activate (policyNumber y (db.activeCount + 1)) url a b)).policy u = some q → q.policyNumber = some n →
      u = t ∧ q.status = .active ∧ n = policyNumber y (db.activeCount + 1) ∨ db.policy u = some q := by
    intro u q n hq hn
    rw [Db.policy_updatePolicy] at hq
    split at hq
    · rename_i hut
      obtain ⟨q', -, rfl⟩ := Option.map_eq_some_iff.1 hq
      exact .inl ⟨hut, rfl, (Option.some.inj hn).symm⟩
    · exact .inr hq
  have hfresh : ∀ u q, db.policy u = some q → q.policyNumber ≠ some (policyNumber y (db.activeCount + 1)) := by
    intro u q hq hn
    obtain ⟨z, i, hi, hz⟩ := h.bounded u q _ hq hn
    have hseq := policyNumber_seq hz
    omega
  refine ⟨?_, ?_, ?_⟩
  · intro u q n hq hn
    rcases hrow u q n hq hn with ⟨-, ha, -⟩ | hold
    · exact ha
    · exact h.active u q n hold hn
  · intro u q n hq hn
    rw [hcount]
    rcases hrow u q n hq hn with ⟨-, -, rfl⟩ | hold
    · exact ⟨y, _, Nat.le_refl _, rfl⟩
    · obtain ⟨z, i, hi, hz⟩ := h.bounded u q n hold hn
      exact ⟨z, i, Nat.le_succ_of_le hi, hz⟩
  · intro u v q r n hq hr hqn hrn
    rcases hrow u q n hq hqn with ⟨rfl, -, rfl⟩ | hq'
    · rcases hrow v r _ hr hrn with ⟨rfl, -, -⟩ | hr'
      · rfl
      · exact absurd hrn (hfresh v r hr')
    · rcases hrow v r n hr hrn with ⟨rfl, -, rfl⟩ | hr'
      · exact absurd hqn (hfresh u q hq')
      · exact h.distinct u v q r n hq' hr' hqn hrn

/-! ### The counts -/

/-- An event that is neither a count nor an activation does not matter to a count. -/
private theorem countStands_cons {e : Nat} {db : Db} {a : o.Ans} {rest : List (Event Db Request Op Op.Ans)}
    (hc : o ≠ .countActive) (ha : ∀ number url x y t, o ≠ .activatePolicy number url x y t) :
    countStands e (.exec d db o a :: rest) = countStands e rest := by
  cases o with
  | countActive => exact absurd rfl hc
  | activatePolicy => exact absurd rfl (ha _ _ _ _ _)
  | _ => rfl

/-- A confirm counts once. -/
private theorem not_counted {r : Request} (ho : MayAsk s r (w.exchanges d) .countActive) (count : Except String Nat) :
    Op.countActive.answered count ∉ w.exchanges d := by
  intro hx
  have hop := List.mem_map_of_mem (f := Sigma.fst) hx
  generalize w.exchanges d = hist at ho hop
  cases ho with
  | count => simp at hop

/-- The inits of a clean run find no active row. -/
private theorem not_active_of_clean (hK : CleanCount w (.exec d o c)) (t : String) (ho : o.Inits t)
    (hc : c.sqlError = none) : ¬w.store.HasStatus t .active := by
  cases o with
  | insertPolicy txnID bapID bppID nik vin idv invoice =>
    obtain ⟨x, hx, rfl⟩ := ho
    exact hK hc x hx
  | _ => exact ho.elim

private theorem countsStand_other (h : CountsStand w) (hK : CleanCount w (.exec d o c)) {r : Request}
    (ho : MayAsk s r (w.exchanges d) o) (hact : ∀ number url a b t, o ≠ .activatePolicy number url a b t) :
    CountsStand ((machine s).asked w d o c) := by
  have hcount : (exec o c w.store).2.activeCount = w.store.activeCount :=
    activeCount_exec hact (not_active_of_clean hK)
  intro e count hx hst
  change count = .ok (exec o c w.store).2.activeCount
  rw [hcount]
  rcases Machine.exchange_asked hx with hold | ⟨rfl, rfl, ha⟩
  · by_cases hc : o = .countActive
    · subst hc
      have hst' : (d = e || countStands e w.trace) = true := by simpa [countStands] using hst
      by_cases hde : d = e
      · subst hde
        exact absurd hold (not_counted ho count)
      · exact h e count hold (by simpa [hde] using hst')
    · refine h e count hold ?_
      rwa [Machine.asked_trace, countStands_cons hc hact] at hst
  · have he : c.sqlError = none := hK
    simpa only [Machine.answer, machine, exec, he, statement_none] using ha

/-- An update that fails leaves the counts alone, and one that takes effect makes them all stale. -/
private theorem countsStand_activate (h : CountsStand w) (number url : String) (a b : Time) (t : String) :
    CountsStand ((machine s).asked w d (.activatePolicy number url a b t) c) := by
  intro e count hx hst
  rcases activatePolicy_cases number url a b t c w.store with ⟨err, he⟩ | ⟨-, he⟩
  · have hans : (machine s).answer w (.activatePolicy number url a b t) c = .error err := congrArg Prod.fst he
    have hstore : ((machine s).asked w d (.activatePolicy number url a b t) c).store = w.store := congrArg Prod.snd he
    rw [Machine.asked_trace, hans] at hst
    rw [hstore]
    rcases Machine.exchange_asked hx with hold | ⟨-, hop, -⟩
    · exact h e count hold hst
    · cases hop
  · have hans : (machine s).answer w (.activatePolicy number url a b t) c = .ok () := congrArg Prod.fst he
    rw [Machine.asked_trace, hans] at hst
    cases hst

/-- The number that a confirm stores is the next one, if its count stands. -/
private theorem next_of_stands (h : CountsStand w) {number url : String} {a b : Time} {t : String} {r : Request}
    (ho : MayAsk s r (w.exchanges d) (.activatePolicy number url a b t)) (hst : countStands d w.trace = true) :
    ∃ y, number = policyNumber y (w.store.activeCount + 1) := by
  obtain ⟨req, row, count, now, coverageStart, -, hh, hop⟩ := mayAsk_activate ho
  cases hop
  have hx : Op.countActive.answered count ∈ w.exchanges d := by rw [hh]; simp [numbered]
  exact ⟨now.year, by rw [h d count hx hst]; rfl⟩

private theorem numbering_keeps (s : BecknService) :
    (protocol s).Keeps CleanCount fun w => w.store.Numbering ∧ CountsStand w where
  start w d r h _ _ _ := ⟨h.1, fun e count hx hst => h.2 e count hx (by simpa [countStands] using hst)⟩
  exec w d r o c h hK _ ho := by
    by_cases hact : ∃ number url a b t, o = .activatePolicy number url a b t
    · obtain ⟨number, url, a, b, t, rfl⟩ := hact
      refine ⟨?_, countsStand_activate h.2 number url a b t⟩
      change (exec (.activatePolicy number url a b t) c w.store).2.Numbering
      rcases activatePolicy_cases number url a b t c w.store with ⟨err, he⟩ | ⟨hsql, he⟩
      · rw [he]
        exact h.1
      · obtain ⟨hidle, hst⟩ := hK hsql
        obtain ⟨y, rfl⟩ := next_of_stands h.2 ho hst
        rw [he]
        cases hp : w.store.policy t with
        | none =>
          simp only [Db.updatePolicy, hp]
          exact h.1
        | some p => exact h.1.activate hp (fun ha => hidle ⟨p, hp, ha⟩) y url a b
    · have hact' : ∀ number url a b t, o ≠ .activatePolicy number url a b t :=
        fun number url a b t h => hact ⟨number, url, a, b, t, h⟩
      exact ⟨h.1.exec hact' (not_active_of_clean hK), countsStand_other h.2 hK ho hact'⟩

/-- In a run whose steps are all clean, two rows never hold the same number, in whatever years they were issued. -/
theorem policyNumber_unique (s : BecknService) {k : BppConfig} (h : (machine s).Runs CleanCount start k)
    {t u : String} (htu : t ≠ u) {p q : Policy} (hp : k.world.store.policy t = some p)
    (hq : k.world.store.policy u = some q) {n : String} (hn : p.policyNumber = some n) : q.policyNumber ≠ some n := by
  have h₀ : start.world.store.Numbering ∧ CountsStand start.world := by
    refine ⟨⟨?_, ?_, ?_⟩, ?_⟩
    · rintro _ _ _ ⟨⟩
    · rintro _ _ _ ⟨⟩
    · rintro _ _ _ _ _ ⟨⟩
    · rintro _ _ ⟨⟩
  have hk := Protocol.invariant (numbering_keeps s) (Protocol.Obeyed.init _) h₀ h
  exact fun hqn => htu (hk.1.distinct t u p q n hp hq hn hqn)

/-- The row of `t` has the number `n`. -/
def Db.HasNumber (s : Db) (t n : String) : Prop := ∃ p, s.policy t = some p ∧ p.policyNumber = some n

instance (s : Db) (t n : String) : Decidable (s.HasNumber t n) :=
  decidable_of_iff ((s.policy t).any fun p => p.policyNumber = some n) (by simp [Db.HasNumber, Option.any_eq_true])

/-- An init, a payment and a confirm of `t`, as deliveries `d`, `d + 1` and `d + 2`. -/
def issueSchedule (t : String) (d : Nat) : List (Machine.Label Choice Request) :=
  [.start (.init (bareMessage t))] ++ .replicate 4 (.exec d {}) ++
    [.start (.simulatePayment t)] ++ .replicate 4 (.exec (d + 1) {}) ++
    [.start (.confirm (bareMessage t))] ++ .replicate 9 (.exec (d + 2) {})

theorem policyNumber_unique_two : ∃ k p q, (machine {}).Runs CleanCount start k ∧
    k.world.store.policy "t" = some p ∧ k.world.store.policy "u" = some q ∧
      p.policyNumber = some "POL-INS-1-00001" ∧ q.policyNumber ≠ some "POL-INS-1-00001" := by
  have hrun : ((machine {}).run? (fun w a => decide (CleanCount w a)) start
      (issueSchedule "t" 0 ++ issueSchedule "u" 3)).any (fun k =>
        k.world.store.HasNumber "t" "POL-INS-1-00001" ∧ k.world.store.HasStatus "u" .active) = true := by
    decide +kernel
  obtain ⟨k, hk, h⟩ := (Option.any_eq_true _ _).1 hrun
  obtain ⟨⟨p, hp, hn⟩, ⟨q, hq, -⟩⟩ := of_decide_eq_true h
  have hr := (Machine.run?_runs hk).mono fun _ _ => of_decide_eq_true
  exact ⟨k, p, q, hr, hp, hq, hn, policyNumber_unique {} hr (by decide) hp hq hn⟩

/-- All readings of the clock are in the year `y`. -/
def InYear (w : BppWorld) (y : Nat) : Prop := ∀ d db now, .exec d db .now now ∈ w.trace → now.year = y

/-- The event reads the clock in the year 1, or it does not read it. -/
private def inYearOne : Event Db Request Op Op.Ans → Bool
  | .exec _ _ .now now => now.year = 1
  | _ => true

/-- After a redelivered init, the next policy to be issued gets the number of the first. -/
theorem reopened_number_reused :
    ¬∀ (s : BecknService) (k : BppConfig) (y : Nat), Reachable s k → InYear k.world y →
      ∀ t u p q n, t ≠ u → k.world.store.policy t = some p → k.world.store.policy u = some q →
        p.policyNumber = some n → q.policyNumber ≠ some n := by
  intro hall
  let k : BppConfig := (machine {}).serveAll start
    [(.init (bareMessage "t"), fun _ => {}), (.simulatePayment "t", fun _ => {}),
      (.confirm (bareMessage "t"), fun _ => {}), (.init (bareMessage "t"), fun _ => {}),
      (.init (bareMessage "u"), fun _ => {}), (.simulatePayment "u", fun _ => {}),
      (.confirm (bareMessage "u"), fun _ => {})]
  have hyear : InYear k.world 1 := by
    have h : k.world.trace.all inYearOne = true := by decide +kernel
    intro d db now hev
    exact of_decide_eq_true (List.all_eq_true.1 h _ hev)
  have hnum : k.world.store.HasNumber "t" "POL-INS-1-00001" ∧ k.world.store.HasNumber "u" "POL-INS-1-00001" := by
    decide +kernel
  obtain ⟨⟨p, hp, hpn⟩, ⟨q, hq, hqn⟩⟩ := hnum
  exact hall {} k 1 (Machine.serveAll_runs ..) hyear "t" "u" p q _ (by decide) hp hq hpn hqn

end IonInsurance.Bpp
