import Mathlib.Data.List.Perm.Subperm
import IonInsurance.Interleave.Protocol

/-!
# Counting deliveries and operations

If a protocol lets every program ask an operation of some kind at most once, the operations of that kind are at most as
many as the requests that lead to them.
-/

namespace Interleave

variable {σ χ ρ Op : Type} {Ans : Op → Type} {β : Type}

/-- The programs that were started for a request with `P`. -/
def World.starters (w : World σ ρ Op Ans) (P : ρ → Bool) : List Nat :=
  w.trace.filterMap fun
    | .start d r => if P r then some d else none
    | .exec .. => none

/-- The programs that asked an operation with `Q`, once for each time they did. -/
def World.askers (w : World σ ρ Op Ans) (Q : ρ → Op → Bool) : List Nat :=
  w.trace.filterMap fun
    | .start .. => none
    | .exec d _ o _ => if (w.request? d).any fun r => Q r o then some d else none

theorem World.starters_started (w : World σ ρ Op Ans) (P : ρ → Bool) (d : Nat) (r : ρ) :
    (w.started d r).starters P = if P r then d :: w.starters P else w.starters P := by
  unfold starters
  rw [started_trace, List.filterMap_cons]
  by_cases hP : P r = true <;> simp [hP]

@[simp] theorem World.starters_asked (M : Machine σ χ ρ Op Ans β) (w : World σ ρ Op Ans) (P : ρ → Bool) (d : Nat)
    (o : Op) (c : χ) : (M.asked w d o c).starters P = w.starters P := rfl

theorem World.askers_asked (M : Machine σ χ ρ Op Ans β) (w : World σ ρ Op Ans) (Q : ρ → Op → Bool) (d : Nat) (o : Op)
    (c : χ) : (M.asked w d o c).askers Q =
      if (w.request? d).any fun r => Q r o then d :: w.askers Q else w.askers Q := by
  unfold askers
  rw [Machine.asked_trace, List.filterMap_cons]
  simp only [Machine.request?_asked]
  by_cases hQ : ((w.request? d).any fun r => Q r o) = true <;> simp only [hQ] <;> rfl

/-- Those who have asked stay. -/
theorem World.askers_length_le (M : Machine σ χ ρ Op Ans β) (w : World σ ρ Op Ans) (Q : ρ → Op → Bool) (d : Nat) (o : Op)
    (c : χ) : (w.askers Q).length ≤ ((M.asked w d o c).askers Q).length := by
  rw [askers_asked]
  split
  · exact Nat.le_succ _
  · exact Nat.le_refl _

/-- A new program has not asked anything. -/
theorem World.askers_started (w : World σ ρ Op Ans) (Q : ρ → Op → Bool) {d : Nat} (r : ρ) (hd : w.exchanges d = []) :
    (w.started d r).askers Q = w.askers Q := by
  unfold askers
  rw [started_trace, List.filterMap_cons]
  refine List.filterMap_congr fun ev hev => ?_
  cases ev with
  | start => rfl
  | exec e s o a =>
    have hne : ¬d = e := by
      rintro rfl
      have hx := World.mem_exchanges.2 ⟨s, hev⟩
      rw [hd] at hx
      cases hx
    simp only [World.request?_started, if_neg hne]

theorem World.mem_starters {w : World σ ρ Op Ans} {P : ρ → Bool} {d : Nat} {r : ρ} (hr : w.request? d = some r)
    (hP : P r = true) : d ∈ w.starters P :=
  List.mem_filterMap.2 ⟨_, World.start_mem hr, if_pos hP⟩

theorem World.mem_askers {w : World σ ρ Op Ans} {Q : ρ → Op → Bool} {d : Nat} :
    d ∈ w.askers Q ↔ ∃ r o, ∃ a : Ans o, w.request? d = some r ∧ ⟨o, a⟩ ∈ w.exchanges d ∧ Q r o = true := by
  constructor
  · intro h
    obtain ⟨ev, hev, hd⟩ := List.mem_filterMap.1 h
    cases ev with
    | start => cases hd
    | exec e s o a =>
      dsimp only at hd
      split at hd
      · rename_i hQ
        obtain rfl := Option.some.inj hd
        obtain ⟨r, hr, hQ⟩ := (Option.any_eq_true _ _).1 hQ
        exact ⟨r, o, a, hr, World.mem_exchanges.2 ⟨s, hev⟩, hQ⟩
      · cases hd
  · rintro ⟨r, o, a, hr, hx, hQ⟩
    obtain ⟨s, hs⟩ := World.mem_exchanges.1 hx
    refine List.mem_filterMap.2 ⟨_, hs, if_pos ?_⟩
    rw [hr]
    exact hQ

/-- Every program asks an operation with `Q` at most once, and only for a request with `P`. -/
structure Protocol.AsksOnce {M : Machine σ χ ρ Op Ans β} (A : Protocol M) (P : ρ → Bool) (Q : ρ → Op → Bool) :
    Prop where
  only : ∀ r h o, A.asks r h o → Q r o = true → P r = true
  once : ∀ r h o, A.asks r h o → Q r o = true → ∀ x ∈ h, Q r x.1 = false

/-- Who asks such an operation was started for such a request, and asks it once. -/
def World.OncePerRequest (w : World σ ρ Op Ans) (P : ρ → Bool) (Q : ρ → Op → Bool) : Prop :=
  (w.askers Q).Nodup ∧ w.askers Q ⊆ w.starters P

theorem World.OncePerRequest.length_le {w : World σ ρ Op Ans} {P : ρ → Bool} {Q : ρ → Op → Bool}
    (h : w.OncePerRequest P Q) : (w.askers Q).length ≤ (w.starters P).length :=
  (List.subperm_of_subset h.1 h.2).length_le

theorem Protocol.AsksOnce.keeps {M : Machine σ χ ρ Op Ans β} {A : Protocol M} {P : ρ → Bool} {Q : ρ → Op → Bool}
    (h : A.AsksOnce P Q) : A.Keeps Machine.anything fun w => w.OncePerRequest P Q where
  start w d r hw _ _ he := by
    have hsub : w.starters P ⊆ (w.started d r).starters P := by
      rw [World.starters_started]
      split
      · exact List.subset_cons_self ..
      · exact List.Subset.refl _
    constructor
    · rw [World.askers_started w Q r he]
      exact hw.1
    · rw [World.askers_started w Q r he]
      exact List.Subset.trans hw.2 hsub
  exec w d r o c hw _ hr ho := by
    unfold World.OncePerRequest
    rw [World.askers_asked, World.starters_asked]
    split
    · rename_i hany
      have hQ : Q r o = true := by
        rw [hr] at hany
        exact hany
      refine ⟨List.nodup_cons.2 ⟨?_, hw.1⟩, List.cons_subset.2 ⟨World.mem_starters hr (h.only r _ o ho hQ), hw.2⟩⟩
      intro hmem
      obtain ⟨r', o', a, hr', hx, hQ'⟩ := World.mem_askers.1 hmem
      obtain rfl := Option.some.inj (hr.symm.trans hr')
      have hno := h.once r _ o ho hQ _ hx
      rw [hQ'] at hno
      cases hno
    · exact hw

end Interleave
