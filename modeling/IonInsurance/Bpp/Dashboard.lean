import Mathlib.Algebra.BigOperators.Group.List.Basic
import IonInsurance.Bpp.Feedback
import IonInsurance.Bpp.Polling
import IonInsurance.Bpp.Reports
import IonInsurance.Interleave.Observe
import IonInsurance.Relational.Keyed

/-!
# The dashboard

`GetDashboardStats` asks twelve queries, one after the other and outside a transaction, while deliveries go on.  The
numbers it shows come from different states, and a query that fails leaves its number at zero.  What relates them is
what later deliveries keep: a row stays, stays paid, and stays settled.
-/

namespace IonInsurance.Bpp

open Interleave Relational

/-! ### The queries -/

/-- The queries of `GetDashboardStats`; a condition on policies may depend on `NOW()`. -/
inductive StatsQuery : Type where
  | countPolicies (test : Time → Policy → Bool)
  | sumPayments
  | avgPayments
  | countClaims (test : String → Bool)
  | countTicketsOpen

def StatsQuery.Res : StatsQuery → Type
  | avgPayments => Except String ℚ
  | _ => Except String Int

/-- What the environment decides about one query; no handler writes `claims`, so its statuses come from there. -/
structure Reading where
  sqlError : Option String := none
  now : Time := Time.zero
  claims : List String := []

/-- The answer to a query that may fail. -/
def Reading.orError {α : Type} (e : Reading) (a : Except String α) : Except String α :=
  match e.sqlError with
  | some err => .error err
  | none => a

/-- `SELECT COUNT(*) FROM policies WHERE …`. -/
def Db.countWhere (s : Db) (test : Policy → Bool) : Nat := s.policies.entries.countP fun e => test e.2

def Db.sumPayments (s : Db) : Int := (s.payments.map Payment.amountIDR).sum

def Db.avgPayments (s : Db) : ℚ := if s.payments.isEmpty then 0 else s.sumPayments / s.payments.length

/-- `Scan` of a `NUMERIC` into an `int64`. -/
def scanInt64 (n : Int) : Except String Int :=
  if -9223372036854775808 ≤ n ∧ n ≤ 9223372036854775807 then .ok n else .error "is not in the range of int8"

def answer : (q : StatsQuery) → Reading → Db → q.Res
  | .countPolicies test, e, s => e.orError (.ok (s.countWhere (test e.now)))
  | .sumPayments, e, s => e.orError (scanInt64 s.sumPayments)
  | .avgPayments, e, s => e.orError (.ok s.avgPayments)
  | .countClaims test, e, _ => e.orError (.ok (e.claims.countP test))
  -- every ticket has the status of the column's default, and nothing updates it
  | .countTicketsOpen, e, s => e.orError (.ok s.supportTickets.length)

/-! ### The conditions on policies -/

def anyPolicy (_ : Time) (_ : Policy) : Bool := true

def isActive (_ : Time) (p : Policy) : Bool := p.status = .active

/-- `coverage_end BETWEEN NOW() AND NOW() + INTERVAL '30 days'`, of an active policy. -/
def renewsSoon (now : Time) (p : Policy) : Bool :=
  p.status = .active && p.coverageEnd.any fun coverageEnd =>
    !decide (coverageEnd.Before now) && !decide ((now.addDays 30).Before coverageEnd)

def isPaymentPending (_ : Time) (p : Policy) : Bool := !p.paymentReceived && p.status = .pendingIssuance

def isPaymentReceived (_ : Time) (p : Policy) : Bool := p.paymentReceived

def isReconcileSettled (_ : Time) (p : Policy) : Bool := p.reconcileStatus = "SETTLED"

def isReconcilePending (_ : Time) (p : Policy) : Bool := p.reconcileStatus ≠ "SETTLED" && p.status = .active

/-! ### The dashboard -/

structure DashboardStats where
  activePolicies : Int
  policiesIssued : Int
  premiumsCollected : Int
  avgPremium : Int
  claimsFiled : Int
  claimsPending : Int
  supportTickets : Int
  renewals : Int
  paymentPending : Int
  paymentReceived : Int
  reconcileSettled : Int
  reconcilePending : Int

/-- The keys of the answer. -/
def DashboardStats.json (stats : DashboardStats) : Fields :=
  [("active_policies", .int stats.activePolicies),
   ("policies_issued", .int stats.policiesIssued),
   ("premiums_collected_idr", .int stats.premiumsCollected),
   ("avg_premium_idr", .int stats.avgPremium),
   ("claims_filed", .int stats.claimsFiled),
   ("claims_pending", .int stats.claimsPending),
   ("support_tickets", .int stats.supportTickets),
   ("renewals_next_30_days", .int stats.renewals),
   ("seam_payment_pending", .int stats.paymentPending),
   ("seam_payment_received", .int stats.paymentReceived),
   ("seam_reconcile_settled", .int stats.reconcileSettled),
   ("seam_reconcile_pending", .int stats.reconcilePending)]

abbrev ask (q : StatsQuery) : Prog StatsQuery StatsQuery.Res q.Res := Prog.call q

/-- A failed query leaves zero. -/
def scanned (r : Except String Int) : Int := r.toOption.getD 0

def getDashboardStats : Prog StatsQuery StatsQuery.Res DashboardStats := do
  let activePolicies ← ask (.countPolicies isActive)
  let policiesIssued ← ask (.countPolicies anyPolicy)
  let premiumsCollected ← ask .sumPayments
  let avgPremium ← ask .avgPayments
  let claimsFiled ← ask (.countClaims fun _ => true)
  let claimsPending ← ask (.countClaims (· = "FILED"))
  let supportTickets ← ask .countTicketsOpen
  let renewals ← ask (.countPolicies renewsSoon)
  let paymentPending ← ask (.countPolicies isPaymentPending)
  let paymentReceived ← ask (.countPolicies isPaymentReceived)
  let reconcileSettled ← ask (.countPolicies isReconcileSettled)
  let reconcilePending ← ask (.countPolicies isReconcilePending)
  return {
    activePolicies := scanned activePolicies
    policiesIssued := scanned policiesIssued
    premiumsCollected := scanned premiumsCollected
    avgPremium := int64 (avgPremium.toOption.getD 0)
    claimsFiled := scanned claimsFiled
    claimsPending := scanned claimsPending
    supportTickets := scanned supportTickets
    renewals := scanned renewals
    paymentPending := scanned paymentPending
    paymentReceived := scanned paymentReceived
    reconcileSettled := scanned reconcileSettled
    reconcilePending := scanned reconcilePending }

/-! ### Counts at different times -/

theorem countWhere_le {a b : Db} {test test' : Policy → Bool}
    (h : ∀ t p, a.policy t = some p → test p = true → ∃ q, b.policy t = some q ∧ test' q = true) :
    a.countWhere test ≤ b.countWhere test' :=
  countP_le_of_lookup h

/-- What every change of a row keeps of it holds at every later point of a run. -/
theorem row_run {s : BecknService} {K : BppWorld → Action Choice Request Op → Prop} {k k' : BppConfig}
    (hrun : (machine s).Runs K k k') {P : Policy → Prop}
    (hP : ∀ t o p p', RowStep t o (some p) (some p') → P p → P p') {t : String}
    (h : ∃ p, k.world.store.policy t = some p ∧ P p) : ∃ p, k'.world.store.policy t = some p ∧ P p := by
  refine hrun.store (P := fun db => ∃ p, db.policy t = some p ∧ P p) ?_ h
  rintro w d o c - ⟨p, hp, hkept⟩
  have hstep := exec_rowStep o c w.store t
  rw [hp] at hstep
  obtain ⟨p', hp'⟩ := hstep.row_stays
  rw [hp'] at hstep
  exact ⟨p', hp', hP t o p p' hstep hkept⟩

/-- A count of what every change keeps does not fall. -/
theorem countWhere_run {s : BecknService} {K : BppWorld → Action Choice Request Op → Prop} {k k' : BppConfig}
    (hrun : (machine s).Runs K k k') {test : Policy → Bool}
    (htest : ∀ t o p p', RowStep t o (some p) (some p') → test p = true → test p' = true) :
    k.world.store.countWhere test ≤ k'.world.store.countWhere test :=
  countWhere_le fun _ p hp ht => row_run hrun htest ⟨p, hp, ht⟩

theorem RowStep.paid_stays {t : String} {o : Op} {p p' : Policy} (h : RowStep t o (some p) (some p'))
    (hp : p.paymentReceived = true) : p'.paymentReceived = true := by
  obtain ⟨q, hq, hpaid⟩ := h.paid_mono ⟨p, rfl, hp⟩
  rw [Option.some.inj hq, hpaid]

theorem RowStep.settled_stays {t : String} {o : Op} {p p' : Policy} (h : RowStep t o (some p) (some p'))
    (hp : p.reconcileStatus = "SETTLED") : p'.reconcileStatus = "SETTLED" := by
  obtain ⟨q, hq, hsettled⟩ := h.settled_mono ⟨p, rfl, hp⟩
  rw [Option.some.inj hq, hsettled]

theorem tickets_run {s : BecknService} {K : BppWorld → Action Choice Request Op → Prop} {k k' : BppConfig}
    (hrun : (machine s).Runs K k k') : k.world.store.supportTickets.length ≤ k'.world.store.supportTickets.length := by
  refine hrun.store (P := fun db => k.world.store.supportTickets.length ≤ db.supportTickets.length) ?_ (Nat.le_refl _)
  intro w d o c _ hle
  change _ ≤ (exec o c w.store).2.supportTickets.length
  rcases tickets_exec o c w.store with hsame | ⟨id, description, -, hadd⟩
  · rw [hsame]
    exact hle
  · rw [hadd, List.length_append]
    exact Nat.le_add_right_of_le hle

/-- Active rows are paid, and stay so. -/
theorem active_le_received {s : BecknService} {k k' : BppConfig} (h : Reachable s k)
    (hrun : (machine s).Runs Machine.anything k k') {test : Policy → Bool}
    (htest : ∀ p, test p = true → p.status = .active) (now : Time) :
    k.world.store.countWhere test ≤ k'.world.store.countWhere (isPaymentReceived now) :=
  countWhere_le fun _ p hp ht =>
    row_run hrun (fun _ _ _ _ hs => hs.paid_stays) ⟨p, hp, paid_of_active h hp (htest p ht)⟩

/-! ### What the dashboard shows -/

/-- The query is answered. -/
def Reading.Succeeds (e : Reading) : Prop := e.sqlError = none

theorem Reading.succeeds (now : Time) (claims : List String) : Reading.Succeeds { now := now, claims := claims } := rfl

theorem scanned_count {e : Reading} (he : e.Succeeds) (test : Time → Policy → Bool) (db : Db) :
    scanned (answer (.countPolicies test) e db) = db.countWhere (test e.now) := by
  unfold Reading.Succeeds at he
  simp only [answer, Reading.orError, he]
  rfl

theorem scanned_tickets {e : Reading} (he : e.Succeeds) (db : Db) :
    scanned (answer .countTicketsOpen e db) = db.supportTickets.length := by
  unfold Reading.Succeeds at he
  simp only [answer, Reading.orError, he]
  rfl

/-- The states that the counts of policies and of tickets were read in, in their order. -/
structure StatsRead (s : BecknService) (k k' : BppConfig) (stats : DashboardStats) : Prop where
  counts : ∃ k₁ k₂ k₇ k₈ k₁₀ k₁₁ : BppConfig, ∃ t₁ t₂ t₈ t₁₀ t₁₁ : Time,
    (machine s).Runs Machine.anything k k₁ ∧ (machine s).Runs Machine.anything k₁ k₂ ∧
    (machine s).Runs Machine.anything k₂ k₇ ∧ (machine s).Runs Machine.anything k₇ k₈ ∧
    (machine s).Runs Machine.anything k₈ k₁₀ ∧ (machine s).Runs Machine.anything k₁₀ k₁₁ ∧
    (machine s).Runs Machine.anything k₁₁ k' ∧
    stats.activePolicies = k₁.world.store.countWhere (isActive t₁) ∧
    stats.policiesIssued = k₂.world.store.countWhere (anyPolicy t₂) ∧
    stats.supportTickets = k₇.world.store.supportTickets.length ∧
    stats.renewals = k₈.world.store.countWhere (renewsSoon t₈) ∧
    stats.paymentReceived = k₁₀.world.store.countWhere (isPaymentReceived t₁₀) ∧
    stats.reconcileSettled = k₁₁.world.store.countWhere (isReconcileSettled t₁₁)

theorem statsRead {s : BecknService} {k k' : BppConfig} {stats : DashboardStats}
    (h : (machine s).Observes Machine.anything Reading.Succeeds answer k getDashboardStats k' stats) :
    StatsRead s k k' stats := by
  obtain ⟨k₁, e₁, he₁, r₁, h⟩ := Machine.observes_call h
  obtain ⟨k₂, e₂, he₂, r₂, h⟩ := Machine.observes_call h
  obtain ⟨k₃, e₃, -, r₃, h⟩ := Machine.observes_call h
  obtain ⟨k₄, e₄, -, r₄, h⟩ := Machine.observes_call h
  obtain ⟨k₅, e₅, -, r₅, h⟩ := Machine.observes_call h
  obtain ⟨k₆, e₆, -, r₆, h⟩ := Machine.observes_call h
  obtain ⟨k₇, e₇, he₇, r₇, h⟩ := Machine.observes_call h
  obtain ⟨k₈, e₈, he₈, r₈, h⟩ := Machine.observes_call h
  obtain ⟨k₉, e₉, -, r₉, h⟩ := Machine.observes_call h
  obtain ⟨k₁₀, e₁₀, he₁₀, r₁₀, h⟩ := Machine.observes_call h
  obtain ⟨k₁₁, e₁₁, he₁₁, r₁₁, h⟩ := Machine.observes_call h
  obtain ⟨k₁₂, e₁₂, -, r₁₂, h⟩ := Machine.observes_call h
  obtain rfl := Machine.observes_ret h
  refine ⟨k₁, k₂, k₇, k₈, k₁₀, k₁₁, e₁.now, e₂.now, e₈.now, e₁₀.now, e₁₁.now, r₁, r₂,
    r₃.trans (r₄.trans (r₅.trans (r₆.trans r₇))), r₈, r₉.trans r₁₀, r₁₁, r₁₂.trans h.runs, ?_, ?_, ?_, ?_, ?_, ?_⟩
  · exact scanned_count he₁ isActive _
  · exact scanned_count he₂ anyPolicy _
  · exact scanned_tickets he₇ _
  · exact scanned_count he₈ renewsSoon _
  · exact scanned_count he₁₀ isPaymentReceived _
  · exact scanned_count he₁₁ isReconcileSettled _

/-- What only grows: the policies, the received payments, the settlements and the tickets. -/
structure Grows (a b : Db) : Prop where
  policies : a.countWhere (fun _ => true) ≤ b.countWhere fun _ => true
  received : a.countWhere Policy.paymentReceived ≤ b.countWhere Policy.paymentReceived
  settled : a.countWhere (fun p => p.reconcileStatus = "SETTLED") ≤ b.countWhere fun p => p.reconcileStatus = "SETTLED"
  tickets : a.supportTickets.length ≤ b.supportTickets.length

theorem grows_run {s : BecknService} {k k' : BppConfig} (hrun : (machine s).Runs Machine.anything k k') :
    Grows k.world.store k'.world.store where
  policies := countWhere_run hrun fun _ _ _ _ _ _ => rfl
  received := countWhere_run hrun fun _ _ _ _ hs => hs.paid_stays
  settled := countWhere_run hrun fun _ _ _ _ hs h => decide_eq_true (hs.settled_stays (of_decide_eq_true h))
  tickets := tickets_run hrun

/-- A dashboard that is read while deliveries go on shows no more active policies than policies or received payments, and
no more renewals than received payments.  One that is read later shows no fewer policies, received payments, settlements
and tickets. -/
theorem dashboard_ordered (s : BecknService) {k k' l l' : BppConfig} {stats stats' : DashboardStats} (h : Reachable s k)
    (hread : (machine s).Observes Machine.anything Reading.Succeeds answer k getDashboardStats k' stats)
    (hrun : (machine s).Runs Machine.anything k' l)
    (hread' : (machine s).Observes Machine.anything Reading.Succeeds answer l getDashboardStats l' stats') :
    (stats.activePolicies ≤ stats.policiesIssued ∧ stats.activePolicies ≤ stats.paymentReceived ∧
      stats.renewals ≤ stats.paymentReceived) ∧
    stats.policiesIssued ≤ stats'.policiesIssued ∧ stats.paymentReceived ≤ stats'.paymentReceived ∧
      stats.reconcileSettled ≤ stats'.reconcileSettled ∧ stats.supportTickets ≤ stats'.supportTickets := by
  obtain ⟨k₁, k₂, k₇, k₈, k₁₀, k₁₁, t₁, t₂, t₈, t₁₀, t₁₁, r₁, r₂, r₇, r₈, r₁₀, r₁₁, r', hactive, hissued, htickets,
    hrenewals, hreceived, hsettled⟩ := (statsRead hread).counts
  obtain ⟨l₁, l₂, l₇, l₈, l₁₀, l₁₁, u₁, u₂, u₈, u₁₀, u₁₁, q₁, q₂, q₇, q₈, q₁₀, q₁₁, q', -, hissued', htickets',
    -, hreceived', hsettled'⟩ := (statsRead hread').counts
  have hk₁ : Reachable s k₁ := h.trans r₁
  have hk₈ : Reachable s k₈ := hk₁.trans (r₂.trans (r₇.trans r₈))
  have hrest : (machine s).Runs Machine.anything k₁₁ l := r'.trans hrun
  rw [hactive, hissued, hreceived, hrenewals, hsettled, htickets, hissued', hreceived', hsettled', htickets']
  refine ⟨⟨?_, ?_, ?_⟩, ?_, ?_, ?_, ?_⟩
  · exact Int.ofNat_le.2 ((countWhere_le fun t p hp _ => ⟨p, hp, rfl⟩).trans (grows_run r₂).policies)
  · exact Int.ofNat_le.2 (active_le_received hk₁ (r₂.trans (r₇.trans (r₈.trans r₁₀)))
      (fun p ht => of_decide_eq_true ht) t₁₀)
  · exact Int.ofNat_le.2 (active_le_received hk₈ r₁₀ (fun p ht => of_decide_eq_true (Bool.and_eq_true_iff.1 ht).1) t₁₀)
  · exact Int.ofNat_le.2 (grows_run (r₇.trans (r₈.trans (r₁₀.trans (r₁₁.trans (hrest.trans (q₁.trans q₂))))))).policies
  · exact Int.ofNat_le.2
      (grows_run (r₁₁.trans (hrest.trans (q₁.trans (q₂.trans (q₇.trans (q₈.trans q₁₀))))))).received
  · exact Int.ofNat_le.2
      (grows_run (hrest.trans (q₁.trans (q₂.trans (q₇.trans (q₈.trans (q₁₀.trans q₁₁))))))).settled
  · exact Int.ofNat_le.2
      (grows_run (r₈.trans (r₁₀.trans (r₁₁.trans (hrest.trans (q₁.trans (q₂.trans q₇))))))).tickets

/-- The dashboard of a single state. -/
def dashboardOf (now : Time) (claims : List String) (db : Db) : DashboardStats :=
  Machine.glance answer { now := now, claims := claims } db getDashboardStats

theorem dashboard_ordered_issued :
    (dashboardOf Time.zero [] (paidRun "t").world.store).policiesIssued = 1 ∧
      (dashboardOf Time.zero [] (paidRun "t").world.store).policiesIssued ≤
        (dashboardOf Time.zero [] (issuedRun "t").world.store).policiesIssued := by
  have hread : ∀ k : BppConfig, (machine {}).Observes Machine.anything Reading.Succeeds answer k getDashboardStats k
      (dashboardOf Time.zero [] k.world.store) := fun k =>
    Machine.observes_glance k (Reading.succeeds Time.zero []) _
  refine ⟨by decide +kernel, ?_⟩
  exact (dashboard_ordered {} (Machine.serveAll_runs ..) (hread (paidRun "t")) (Machine.serve_runs ..)
    (hread (issuedRun "t"))).2.1

/-! ### Torn and whole dashboards -/

/-- A dashboard may show a policy whose reconcile is pending and no active policy: the policy was issued between the two
queries. -/
theorem torn_dashboard : ∃ stats, (machine {}).Observes Machine.anything Reading.Succeeds answer (paidRun "t")
    getDashboardStats (issuedRun "t") stats ∧ stats.activePolicies < stats.reconcilePending := by
  have hrun : (machine {}).Runs Machine.anything (paidRun "t") (issuedRun "t") := Machine.serve_runs ..
  have hone : Reading.Succeeds {} := rfl
  refine ⟨_, .ask hone .refl (.ask hone hrun (Machine.observes_glance _ hone _)), ?_⟩
  decide +kernel

/-- The dashboard of one state adds up: every active policy is paid, and waits for its reconcile or is settled; renewals
are of active policies; and no payment is both pending and received. -/
theorem dashboard_of_one_state (s : BecknService) (k : BppConfig) (h : Reachable s k) (now : Time)
    (claims : List String) :
    let stats := dashboardOf now claims k.world.store
    stats.reconcilePending ≤ stats.activePolicies ∧
      stats.activePolicies ≤ stats.reconcilePending + stats.reconcileSettled ∧
      stats.renewals ≤ stats.activePolicies ∧ stats.activePolicies ≤ stats.paymentReceived ∧
      stats.paymentPending + stats.paymentReceived ≤ stats.policiesIssued ∧
      stats.claimsPending ≤ stats.claimsFiled := by
  intro stats
  have hcount : ∀ test : Time → Policy → Bool,
      scanned (answer (.countPolicies test) { now := now, claims := claims } k.world.store) =
        k.world.store.countWhere (test now) := fun test =>
    scanned_count (Reading.succeeds now claims) test _
  have hactive : stats.activePolicies = k.world.store.countWhere (isActive now) := hcount isActive
  have hreconcile : stats.reconcilePending = k.world.store.countWhere (isReconcilePending now) :=
    hcount isReconcilePending
  have hsettled : stats.reconcileSettled = k.world.store.countWhere (isReconcileSettled now) :=
    hcount isReconcileSettled
  have hrenewals : stats.renewals = k.world.store.countWhere (renewsSoon now) := hcount renewsSoon
  have hreceived : stats.paymentReceived = k.world.store.countWhere (isPaymentReceived now) :=
    hcount isPaymentReceived
  have hpending : stats.paymentPending = k.world.store.countWhere (isPaymentPending now) := hcount isPaymentPending
  have hissued : stats.policiesIssued = k.world.store.countWhere (anyPolicy now) := hcount anyPolicy
  rw [hactive, hreconcile, hsettled, hrenewals, hreceived, hpending, hissued]
  refine ⟨?_, ?_, ?_, ?_, ?_, ?_⟩
  · exact Int.ofNat_le.2 (countWhere_le fun t p hp ht => ⟨p, hp, (Bool.and_eq_true_iff.1 ht).2⟩)
  · refine Int.ofNat_le.2 (countP_le_add (fun e ha => ?_) _)
    by_cases hs : e.2.reconcileStatus = "SETTLED"
    · exact .inr (decide_eq_true hs)
    · exact .inl (Bool.and_eq_true_iff.2 ⟨decide_eq_true hs, ha⟩)
  · exact Int.ofNat_le.2 (countWhere_le fun t p hp ht => ⟨p, hp, (Bool.and_eq_true_iff.1 ht).1⟩)
  · exact Int.ofNat_le.2 (active_le_received h .refl (fun p ht => of_decide_eq_true ht) now)
  · refine Int.ofNat_le.2 (countP_add_le (fun e hp => ?_) (fun _ _ => rfl) (fun _ _ => rfl) _)
    exact Bool.not_eq_true' _ ▸ (Bool.and_eq_true_iff.1 hp).1
  · exact Int.ofNat_le.2 (List.countP_mono_left fun _ _ _ => rfl)

theorem dashboard_of_one_state_issued :
    (dashboardOf Time.zero [] (issuedRun "t").world.store).activePolicies = 1 ∧
      (dashboardOf Time.zero [] (issuedRun "t").world.store).activePolicies ≤
        (dashboardOf Time.zero [] (issuedRun "t").world.store).reconcilePending +
          (dashboardOf Time.zero [] (issuedRun "t").world.store).reconcileSettled :=
  ⟨by decide +kernel, (dashboard_of_one_state {} _ (issuedRun_reachable "t") Time.zero []).2.1⟩

end IonInsurance.Bpp
