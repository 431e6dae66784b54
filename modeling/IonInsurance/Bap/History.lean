import IonInsurance.Relational.LeftJoin
import IonInsurance.Bap.Listing

/-!
# The policy history

`ListPolicies` joins every `on_confirm` of a transaction with every `on_select` of it.  A callback that is delivered
again is stored again, and a customer may ask for a second quote, so the policy of one transaction can be shown many
times, once with each of its quotes.
-/

namespace IonInsurance.Bap

open Interleave Relational

/-- The snapshots of a transaction for an action. -/
def snapshotsOf (s : Db) (t onAction : String) : List Snapshot :=
  s.snapshots.filter fun x => x.transactionID = t ∧ x.onAction = onAction

/-- The entries of a transaction. -/
def entriesOf (entries : List PolicyEntry) (t : String) : List PolicyEntry :=
  entries.filter fun x => x.transactionID = t

/-! ### The join -/

section

variable {s : Db} {c : Choice} {t : String}

/-- The entry for a pair of the join. -/
private def joinedEntry (x : Snapshot × Option Snapshot) : PolicyEntry :=
  policyEntry x.1 ((x.2.map Snapshot.payload).getD [])

/-- The payloads that an `on_confirm` is joined with. -/
private theorem selectPayloads_eq (s : Db) (t : String) :
    selectPayloads s t = (orNull (snapshotsOf s t "on_select")).map fun x => (x.map Snapshot.payload).getD [] := by
  unfold selectPayloads snapshotsOf
  cases s.snapshots.filter fun x => x.transactionID = t ∧ x.onAction = "on_select" with
  | nil => rfl
  | cons x xs =>
    rw [if_neg (List.cons_ne_nil x xs), orNull, List.map_cons, List.map_cons, List.map_map]
    rfl

/-- The list is the join of the `on_confirm`s with the `on_select`s. -/
private theorem listPolicies_perm {entries : List PolicyEntry} (h : listPolicies c s = .ok entries) :
    entries.Perm ((leftJoin (s.snapshots.filter fun x => x.onAction = "on_confirm")
      fun cs => snapshotsOf s cs.transactionID "on_select").map joinedEntry) := by
  unfold listPolicies at h
  split at h
  · cases h
  · obtain rfl := Except.ok.inj h
    have hentries : ∀ confirms : List Snapshot,
        (confirms.flatMap fun cs => (selectPayloads s cs.transactionID).map (policyEntry cs)) =
          (leftJoin confirms fun cs => snapshotsOf s cs.transactionID "on_select").map joinedEntry := by
      intro confirms
      unfold leftJoin
      rw [List.map_flatMap]
      congr 1
      funext cs
      rw [selectPayloads_eq, List.map_map, List.map_map]
      rfl
    rw [hentries]
    exact (leftJoin_perm (List.perm_insertionSort ..)).map _

/-- The entries of a transaction are those for its snapshots. -/
theorem entriesOf_perm {entries : List PolicyEntry} (h : listPolicies c s = .ok entries) (t : String) :
    (entriesOf entries t).Perm ((leftJoin (snapshotsOf s t "on_confirm")
      fun cs => snapshotsOf s cs.transactionID "on_select").map joinedEntry) := by
  have hfilter := (listPolicies_perm h).filter fun x => decide (x.transactionID = t)
  rw [List.filter_map] at hfilter
  have hrows : (leftJoin (s.snapshots.filter fun x => x.onAction = "on_confirm")
      fun cs => snapshotsOf s cs.transactionID "on_select").filter
        ((fun x : PolicyEntry => decide (x.transactionID = t)) ∘ joinedEntry) =
      leftJoin (snapshotsOf s t "on_confirm") fun cs => snapshotsOf s cs.transactionID "on_select" := by
    refine (filter_leftJoin fun cs : Snapshot => decide (cs.transactionID = t)).trans ?_
    rw [List.filter_filter]
    congr 1
    unfold snapshotsOf
    congr 1
    funext x
    simp
  rw [hrows] at hfilter
  exact hfilter

private theorem transactionID_of_mem {onAction : String} {x : Snapshot} (h : x ∈ snapshotsOf s t onAction) :
    x.transactionID = t := by
  obtain ⟨-, hx⟩ := List.mem_filter.1 h
  exact (of_decide_eq_true hx).1

/-- One `on_confirm` and at most one `on_select` give one entry. -/
theorem entriesOf_single {entries : List PolicyEntry} (h : listPolicies c s = .ok entries) {cs : Snapshot}
    (hconfirm : snapshotsOf s t "on_confirm" = [cs]) {sel : Option Snapshot}
    (hselect : snapshotsOf s t "on_select" = sel.toList) :
    entriesOf entries t = [policyEntry cs ((sel.map Snapshot.payload).getD [])] := by
  have hmem : cs ∈ snapshotsOf s t "on_confirm" := hconfirm ▸ List.mem_cons_self
  have hcs : cs.transactionID = t := transactionID_of_mem hmem
  have hperm := entriesOf_perm h t
  rw [hconfirm] at hperm
  unfold leftJoin at hperm
  rw [List.flatMap_singleton] at hperm
  dsimp only at hperm
  rw [hcs, hselect] at hperm
  cases sel with
  | none => exact List.perm_singleton.1 hperm
  | some x => exact List.perm_singleton.1 hperm

end

/-! ### One entry for each policy -/

/-- An `on_confirm` without an error is stored for the transaction. -/
def Confirmed (s : Db) (t : String) : Prop := ∃ cs ∈ snapshotsOf s t "on_confirm", cs.payload.has "error" = false

/-- An `on_select` that quotes `premium`. -/
private def quoted (t : String) (premium : ℚ) : Fields :=
  [("context", .obj [("transaction_id", .str t)]),
   ("message", .obj [("contract", .obj [("commitments", .arr [.obj [("offer", .obj [("offerAttributes", .obj
     [("annualPremiumIDR", .num premium)])])]])])])]

end IonInsurance.Bap
