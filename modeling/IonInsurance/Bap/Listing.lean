import Mathlib.Data.List.Sort
import IonInsurance.Bap.Stages

/-!
# What the BAP lists

`ListPolicies` shows every `on_confirm` that has been stored, and `ListOrders` takes the stage of an order from its
status and its latest snapshot.  A rejected `on_confirm` is stored like any other, so it is shown as an active policy.
-/

namespace IonInsurance.Bap

open Interleave

/-! ### Reading a payload -/

inductive Key : Type where
  | name (k : String)
  | index (i : Nat)
  deriving DecidableEq

/-- One step along a path; `none` where the path ends. -/
def Json.at? : Json → Key → Option Json
  | .obj m, .name k => some (Fields.get m k)
  | .arr xs, .index i => xs[i]?
  | _, _ => none

def nestedMap (m : Fields) (keys : List Key) : Fields := ((keys.foldlM Json.at? (.obj m)).getD .null).fields

def stringField (m : Fields) (key : String) : String := (m.get key).text

def numField (m : Fields) (key : String) : ℚ := (m.get key).float

/-! ### ListPolicies -/

structure PolicyEntry where
  transactionID : String
  receivedAt : Time
  policyNumber : String
  certificateURL : String
  coverageStart : String
  coverageEnd : String
  status : String
  annualPremium : ℚ
  idv : ℚ

/-- The entry for an `on_confirm` and an `on_select`. -/
def policyEntry (cs : Snapshot) (sel : Fields) : PolicyEntry :=
  let ca := nestedMap cs.payload
    [.name "message", .name "contract", .name "commitments", .index 0, .name "commitmentAttributes"]
  let oa := nestedMap sel
    [.name "message", .name "contract", .name "commitments", .index 0, .name "offer", .name "offerAttributes"]
  { transactionID := cs.transactionID
    receivedAt := cs.receivedAt
    policyNumber := stringField ca "policyNumber"
    certificateURL := stringField ca "certificateUrl"
    coverageStart := stringField ca "coverageStart"
    coverageEnd := stringField ca "coverageEnd"
    status := if stringField ca "policyStatus" = "" then "ACTIVE" else stringField ca "policyStatus"
    annualPremium := numField oa "annualPremiumIDR"
    idv := numField oa "approvedIDV" }

/-- The `LEFT JOIN`: the `on_select` payloads of a transaction, or `'{}'` if there is none. -/
def selectPayloads (s : Db) (txnID : String) : List Fields :=
  let selects := s.snapshots.filter fun x => x.transactionID = txnID ∧ x.onAction = "on_select"
  if selects = [] then [[]] else selects.map Snapshot.payload

/-- The entries, latest `on_confirm` first. -/
def listPolicies (c : Choice) (s : Db) : Except String (List PolicyEntry) :=
  match c.sqlError with
  | some err => .error err
  | none =>
    let confirms := (s.snapshots.filter fun x => x.onAction = "on_confirm").insertionSort
      fun x y => ¬x.receivedAt.Before y.receivedAt
    .ok (confirms.flatMap fun cs => (selectPayloads s cs.transactionID).map (policyEntry cs))

/-! ### ListOrders -/

def seamStageFromStatus (status latestOnAction : String) : String :=
  match status with
  | "SETTLED" => "settled"
  | "RECONCILING" => "reconciling"
  | "CONFIRMED" => "policy_issued"
  | "INIT_RECEIVED" => "va_created"
  | _ =>
    if latestOnAction = "on_confirm" then "policy_issued"
    else if latestOnAction = "on_init" then "va_created"
    else "va_created"

structure OrderEntry where
  transactionID : String
  action : String
  status : String
  createdAt : Time
  dokuInvoiceNumber : String
  dokuVANumber : String
  paymentAmount : Int
  latestOnAction : String
  lastUpdated : Time
  seamStage : String

/-- The later of two snapshots; among equal times, the one stored last. -/
def later : Option Snapshot → Snapshot → Snapshot
  | some best, x => if x.receivedAt.Before best.receivedAt then best else x
  | none, x => x

def newest (xs : List Snapshot) : Option Snapshot := xs.foldl (fun best x => some (later best x)) none

/-- The latest snapshot of a transaction. -/
def latestOf (s : Db) (txnID : String) : Option Snapshot := newest (s.snapshots.filter fun x => x.transactionID = txnID)

def orderEntry (s : Db) (txnID : String) (p : Transaction) : OrderEntry :=
  let latest := latestOf s txnID
  let latestOnAction := (latest.map Snapshot.onAction).getD ""
  { transactionID := txnID
    action := p.action
    status := p.status
    createdAt := p.createdAt
    dokuInvoiceNumber := p.dokuInvoiceNumber.getD ""
    dokuVANumber := p.dokuVANumber.getD ""
    paymentAmount := p.paymentAmount.getD 0
    latestOnAction := latestOnAction
    lastUpdated := (latest.map Snapshot.receivedAt).getD p.createdAt
    seamStage := seamStageFromStatus p.status latestOnAction }

/-- The orders, latest transaction first. -/
def listOrders (c : Choice) (s : Db) : Except String (List OrderEntry) :=
  match c.sqlError with
  | some err => .error err
  | none =>
    let rows := s.transactions.entries.insertionSort fun x y => ¬x.2.createdAt.Before y.2.createdAt
    .ok (rows.map fun x => orderEntry s x.1 x.2)

/-! ### What the lists rest on -/

section

variable {s : Db} {c : Choice} {t : String}

/-- An entry of a policy comes from an `on_confirm` of its transaction. -/
theorem mem_listPolicies {entries : List PolicyEntry} (h : listPolicies c s = .ok entries) {x : PolicyEntry}
    (hx : x ∈ entries) : ∃ cs ∈ s.snapshots, cs.transactionID = x.transactionID ∧ cs.onAction = "on_confirm" := by
  unfold listPolicies at h
  split at h
  · cases h
  · obtain rfl := Except.ok.inj h
    obtain ⟨cs, hcs, hentry⟩ := List.mem_flatMap.1 hx
    obtain ⟨sel, -, rfl⟩ := List.mem_map.1 hentry
    obtain ⟨hmem, hon⟩ := List.mem_filter.1 ((List.mem_insertionSort _).1 hcs)
    exact ⟨cs, hmem, rfl, of_decide_eq_true hon⟩

private theorem newest_mem {xs : List Snapshot} {x : Snapshot} (h : newest xs = some x) : x ∈ xs := by
  have hfold : ∀ (xs : List Snapshot) (best : Option Snapshot),
      xs.foldl (fun best x => some (later best x)) best = some x → best = some x ∨ x ∈ xs := by
    intro xs
    induction xs with
    | nil => exact fun best h => .inl h
    | cons y ys ih =>
      intro best h
      rcases ih (some (later best y)) h with hy | hys
      · have hlater : later best y = x := Option.some.inj hy
        cases best with
        | none => exact .inr (hlater ▸ List.mem_cons_self)
        | some b =>
          change (if y.receivedAt.Before b.receivedAt then b else y) = x at hlater
          split at hlater
          · exact .inl (congrArg some hlater)
          · exact .inr (hlater ▸ List.mem_cons_self)
      · exact .inr (List.mem_cons_of_mem _ hys)
  exact (hfold xs none h).resolve_left (by simp)

private theorem stage_cases {status latestOnAction : String}
    (h : seamStageFromStatus status latestOnAction ∈ ["policy_issued", "reconciling", "settled"]) :
    status ∈ confirmedStages ∨ latestOnAction = "on_confirm" := by
  unfold seamStageFromStatus at h
  split at h
  · exact .inl (by decide)
  · exact .inl (by decide)
  · exact .inl (by decide)
  · exact absurd h (by decide)
  · split at h
    · rename_i hlatest
      exact .inr hlatest
    · split at h <;> exact absurd h (by decide)

/-- `ListOrders` shows rows. -/
theorem exists_row_of_mem {orders : List OrderEntry} (h : listOrders c s = .ok orders) {x : OrderEntry} (hx : x ∈ orders) :
    ∃ u p, s.transaction u = some p ∧ x = orderEntry s u p := by
  unfold listOrders at h
  split at h
  · cases h
  · obtain rfl := Except.ok.inj h
    obtain ⟨row, hrow, rfl⟩ := List.mem_map.1 hx
    exact ⟨row.1, row.2, AList.mem_lookup_iff.2 ((List.mem_insertionSort _).1 hrow), rfl⟩

/-- A stage from which the policy counts as issued comes from the status of the order, or from an `on_confirm`. -/
theorem mem_listOrders {orders : List OrderEntry} (h : listOrders c s = .ok orders) {x : OrderEntry} (hx : x ∈ orders)
    (hstage : x.seamStage ∈ ["policy_issued", "reconciling", "settled"]) :
    (∃ status ∈ confirmedStages, s.HasStatus x.transactionID status) ∨
      ∃ cs ∈ s.snapshots, cs.transactionID = x.transactionID ∧ cs.onAction = "on_confirm" := by
  obtain ⟨u, p, hp, rfl⟩ := exists_row_of_mem h hx
  rcases stage_cases hstage with hstatus | hlatest
  · exact .inl ⟨p.status, hstatus, p, hp, rfl⟩
  · right
    cases hnew : latestOf s u with
    | none =>
      rw [hnew] at hlatest
      exact absurd hlatest (by decide)
    | some cs =>
      rw [hnew] at hlatest
      obtain ⟨hmem, ht⟩ := List.mem_filter.1 (newest_mem hnew)
      exact ⟨cs, hmem, of_decide_eq_true ht, hlatest⟩

end

/-! ### Rejected confirms -/

/-- Every `on_confirm` that the BAP has received for `t` carries an error. -/
def AllRejected (t : String) (w : BapWorld) : Prop :=
  ∀ d payload, w.request? d = some (.callback "on_confirm" payload) → transactionID payload = t →
    payload.has "error" = true

/-- While every `on_confirm` of `t` is rejected, the insertion of its snapshot fails, and so does the status update of an
`on_reconcile` of `t`. -/
def Unshown (t : String) (w : BapWorld) : Action Choice Request Op → Prop
  | .exec _ (.saveSnapshot u onAction payload) c =>
    u = t → onAction = "on_confirm" → AllRejected t w → c.sqlError = none → (w.store.transaction t).isSome = true →
      fitsJsonbFields payload = false
  | .exec d (.upsertTransaction u _ _) c =>
    u = t → AllRejected t w → (∃ payload, w.request? d = some (.callback "on_reconcile" payload)) → c.sqlError = none →
      fitsVarchar 255 t = false
  | _ => True

/-- Nothing of `t` is shown. -/
private structure Hidden (t : String) (w : BapWorld) : Prop where
  snapshots : ∀ x ∈ w.store.snapshots, x.transactionID = t → x.onAction ≠ "on_confirm"
  settled : ¬w.store.HasStatus t "SETTLED"

section

variable {s : ClientService} {t : String} {w : BapWorld}

private theorem not_allRejected (h : Received w "on_confirm" t) : ¬AllRejected t w := by
  obtain ⟨d, payload, hr, ht, hs⟩ := h
  intro hall
  have herror := hall d payload hr ht
  simp [callbackStatus, herror] at hs

private theorem hidden_keeps (s : ClientService) (t : String) :
    (protocol s).Keeps (fun w a => Started w a ∧ Unshown t w a)
      fun w => Progress w ∧ (AllRejected t w → Hidden t w) where
  start w d r h hK hd _ := by
    refine ⟨h.1.started hK.1 hd, fun hall => ?_⟩
    have hbefore : AllRejected t w := fun e payload hr ht => hall e payload (World.request?_stays hd hr) ht
    exact ⟨(h.2 hbefore).snapshots, (h.2 hbefore).settled⟩
  exec w d r o c h hK hr ho := by
    refine ⟨h.1.asked hr ho, fun hall => ?_⟩
    have hhidden : Hidden t w := h.2 hall
    refine ⟨fun x hx ht hon => ?_, fun hsettled => ?_⟩
    · rcases mem_snapshots hx with hold | ⟨payload, rfl, hc, hrow, hfit⟩
      · exact hhidden.snapshots x hold ht hon
      · -- the insertion of this snapshot should have failed
        subst ht
        rw [hK.2 rfl hon hall hc hrow] at hfit
        cases hfit
    · rcases hasStatus_exec hsettled with hold | ⟨action, rfl, hc, hfit⟩
      · exact hhidden.settled hold
      · -- only an on_reconcile records SETTLED, and its update should have failed
        have hreconcile : ∃ payload, w.request? d = some (.callback "on_reconcile" payload) := by
          rcases mayAsk_upsert ho with hrec | ⟨onAction, payload, rfl, -, hs⟩ | ⟨-, -, hs⟩
          · exact absurd (Request.records_status hrec) (by decide)
          · have hmem := callbackStatus_mem hs
            have hon : onAction = "on_reconcile" := by simpa using hmem
            exact ⟨payload, hon ▸ hr⟩
          · exact absurd hs (by decide)
        rw [hK.2 rfl hall hreconcile hc] at hfit
        cases hfit

end

/-- In a run in which no rejected `on_confirm` of a transaction is stored and no `on_reconcile` settles it before an
`on_confirm` is accepted, the transaction is not listed as a policy, nor as an order whose policy is issued. -/
theorem rejected_not_listed (s : ClientService) (t : String) (k : BapConfig)
    (h : (machine s).Runs (fun w a => Started w a ∧ Unshown t w a) start k) (hall : AllRejected t k.world) (c : Choice) :
    (∀ entries, listPolicies c k.world.store = .ok entries → ∀ x ∈ entries, x.transactionID ≠ t) ∧
      ∀ orders, listOrders c k.world.store = .ok orders → ∀ x ∈ orders, x.transactionID = t →
        x.seamStage ∉ ["policy_issued", "reconciling", "settled"] := by
  have hinv : Progress k.world ∧ (AllRejected t k.world → Hidden t k.world) := by
    refine Protocol.invariant (hidden_keeps s t) (Protocol.Obeyed.init _) ⟨progress_start, fun _ => ⟨?_, ?_⟩⟩ h
    · intro x hx
      cases hx
    · rintro ⟨p, hp, -⟩
      cases hp
  obtain ⟨hprogress, hhidden⟩ := hinv
  have hsnapshot : ¬∃ cs ∈ k.world.store.snapshots, cs.transactionID = t ∧ cs.onAction = "on_confirm" := by
    rintro ⟨cs, hcs, ht, hon⟩
    exact (hhidden hall).snapshots cs hcs ht hon
  constructor
  · intro entries hentries x hx ht
    obtain ⟨cs, hcs, hcst, hon⟩ := mem_listPolicies hentries hx
    exact hsnapshot ⟨cs, hcs, hcst.trans ht, hon⟩
  · intro orders horders x hx ht hstage
    rcases mem_listOrders horders hx hstage with ⟨status, hstatus, hs⟩ | ⟨cs, hcs, hcst, hon⟩
    · -- such a status rests on an on_confirm without an error
      rw [ht] at hs
      simp only [confirmedStages, List.mem_cons, List.not_mem_nil, or_false] at hstatus
      rcases hstatus with rfl | rfl | rfl
      · exact not_allRejected (hprogress.confirmed t hs) hall
      · exact not_allRejected (hprogress.reconciling t hs) hall
      · exact (hhidden hall).settled hs
    · exact hsnapshot ⟨cs, hcs, hcst.trans ht, hon⟩

/-- The `on_confirm` of a confirm that the BPP rejects. -/
def rejection (t : String) : Fields :=
  ("error", .obj [("code", .str "40001"), ("message", .str "payment not received")]) :: contextOnly t

private def rejectedStart (t : String) : Event Db Request Op Op.Ans → Bool
  | .start _ (.callback "on_confirm" payload) => transactionID payload ≠ t || payload.has "error"
  | _ => true

private theorem allRejected_of_all {t : String} {w : BapWorld} (h : w.trace.all (rejectedStart t) = true) :
    AllRejected t w := by
  intro d payload hr ht
  have hstart : (transactionID payload ≠ t || payload.has "error") = true :=
    List.all_eq_true.1 h _ (World.start_mem hr)
  simpa [ht] using hstart

private def unshownTest (w : BapWorld) : Action Choice Request Op → Bool
  | .exec _ (.saveSnapshot _ onAction _) c => onAction ≠ "on_confirm" || c.sqlError.isSome
  | .exec d (.upsertTransaction _ _ _) _ => (w.request? d).all fun r => r.lateAfter ≠ []
  | a => startedTest w a

private theorem unshown_of_test (t : String) (w : BapWorld) (a : Action Choice Request Op)
    (h : unshownTest w a = true) :
    Started w a ∧ Unshown t w a := by
  cases a with
  | start r => exact ⟨started_of_test w _ h, trivial⟩
  | exec d o c =>
    refine ⟨trivial, ?_⟩
    cases o with
    | saveSnapshot u onAction payload =>
      intro _ hon _ hc
      have htest : (onAction ≠ "on_confirm" || c.sqlError.isSome) = true := h
      simp [hon, hc] at htest
    | upsertTransaction u action status =>
      rintro _ _ ⟨payload, hr⟩
      have htest : ((w.request? d).all fun r => r.lateAfter ≠ []) = true := h
      rw [hr] at htest
      simp [Request.lateAfter, callbackLateAfter] at htest
    | _ => trivial

/-- A confirm of `t`, and the first steps of its rejected `on_confirm`. -/
private def rejecting (t : String) (first : Choice) : List (Machine.Label Choice Request) :=
  .start (.confirm [("transaction_id", .str t)]) :: .replicate 8 (.exec 0 {}) ++
    [.start (.callback "on_confirm" (rejection t)), .exec 1 first]

/-- A confirm is rejected, and the insertion of the snapshot fails. -/
theorem rejected_not_listed_failed : ∃ k : BapConfig, AllRejected "txn-0001" k.world ∧
    ∀ entries, listPolicies {} k.world.store = .ok entries → ∀ x ∈ entries, x.transactionID ≠ "txn-0001" := by
  let schedule := rejecting "txn-0001" { sqlError := some "connection reset" }
  have hrun : (machine {}).run? unshownTest start schedule = some (ran start schedule) := rfl
  have hrejected : AllRejected "txn-0001" (ran start schedule).world := allRejected_of_all rfl
  exact ⟨_, hrejected, (rejected_not_listed {} "txn-0001" _
    ((Machine.run?_runs hrun).mono (unshown_of_test "txn-0001")) hrejected {}).1⟩

/-- The snapshot of a rejected confirm makes an active policy of it, and an issued order. -/
theorem rejected_listed :
    (¬∀ (s : ClientService) (t : String) (k : BapConfig), (machine s).Runs Started start k → AllRejected t k.world →
      ∀ c entries, listPolicies c k.world.store = .ok entries → ∀ x ∈ entries, x.transactionID ≠ t) ∧
    ¬∀ (s : ClientService) (t : String) (k : BapConfig), (machine s).Runs Started start k → AllRejected t k.world →
      ∀ c orders, listOrders c k.world.store = .ok orders → ∀ x ∈ orders, x.transactionID = t →
        x.seamStage ∉ ["policy_issued", "reconciling", "settled"] := by
  let schedule := rejecting "txn-0001" {}
  have hrun : (machine {}).run? startedTest start schedule = some (ran start schedule) := rfl
  have hruns : (machine {}).Runs Started start (ran start schedule) := (Machine.run?_runs hrun).mono started_of_test
  have hrejected : AllRejected "txn-0001" (ran start schedule).world := allRejected_of_all rfl
  constructor
  · intro hall
    exact hall {} "txn-0001" _ hruns hrejected {} _ rfl _ (List.mem_of_getElem? (i := 0) rfl) rfl
  · intro hall
    exact hall {} "txn-0001" _ hruns hrejected {} _ rfl _ (List.mem_of_getElem? (i := 0) rfl) rfl (by decide +kernel)

end IonInsurance.Bap
