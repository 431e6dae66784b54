import Mathlib.Data.Nat.Basic
import IonInsurance.Interleave.Protocol

/-!
# Runs of some of the requests

If the other requests do not touch the part `π` of the store, and the requests in `mine` need no more than this part, then
whatever the requests in `mine` do in a run of the machine `M`, they do in a run of a machine `N` that has only this part
and serves nobody else.
-/

namespace Interleave

variable {σ σ' χ χ' ρ Op : Type} {Ans : Op → Type} {β : Type}

namespace Machine

/-- The guard that lets only the requests in `mine` start. -/
def starting (mine : ρ → Prop) (_ : World σ ρ Op Ans) : Action χ ρ Op → Prop
  | .start r => mine r
  | .exec .. => True

/-- A program that was not started has asked nothing. -/
theorem Runs.fresh {M : Machine σ χ ρ Op Ans β} {K : World σ ρ Op Ans → Action χ ρ Op → Prop} {s : σ}
    {k : Config σ ρ Op Ans β} (h : M.Runs K (Config.init s) k) :
    ∀ d, k.progs.length ≤ d → k.world.request? d = none ∧ k.world.exchanges d = [] := by
  let P : Protocol M :=
    { asks := fun _ _ _ => True
      returns := fun _ _ _ => True
      follows := fun r => (Prog.asks_of_forall (A := fun _ => True) (fun _ => trivial) (M.handler r)).follows
        (J := fun _ => True) (fun _ _ _ _ => trivial) (fun _ _ _ _ _ => trivial) trivial }
  have hobeyed : P.Obeyed k := (Protocol.Obeyed.init s).run h
  exact hobeyed.fresh

end Machine

/-- `k'` is what `k` looks like to the requests in `mine`: its store is their part, and its programs are theirs, in their
order; program `e` of `k'` is program `f e` of `k`. -/
structure Projects (mine : ρ → Prop) (π : σ → σ') (f : Nat → Nat) (k : Config σ ρ Op Ans β) (k' : Config σ' ρ Op Ans β) :
    Prop where
  store : k'.world.store = π k.world.store
  ordered : ∀ e e', e < e' → e' < k'.progs.length → f e < f e'
  prog : ∀ e, e < k'.progs.length → k'.progs[e]? = k.progs[f e]?
  request : ∀ e, e < k'.progs.length → k'.world.request? e = k.world.request? (f e)
  exchanges : ∀ e, e < k'.progs.length → k'.world.exchanges e = k.world.exchanges (f e)
  mine : ∀ d r, k.world.request? d = some r → (mine r ↔ ∃ e, e < k'.progs.length ∧ f e = d)

/-- What makes the requests in `mine` a service of their own, whose machine is `N`. -/
structure Separates {M : Machine σ χ ρ Op Ans β} (P : Protocol M) (I : World σ ρ Op Ans → Prop)
    (N : Machine σ' χ' ρ Op Ans β) (mine : ρ → Prop) (π : σ → σ') : Prop where
  handler : ∀ r, mine r → N.handler r = M.handler r
  other : ∀ w d r o c, I w → w.request? d = some r → ¬mine r → P.asks r (w.exchanges d) o →
    π (M.exec o c w.store).2 = π w.store
  own : ∀ w d r o c, I w → w.request? d = some r → mine r → P.asks r (w.exchanges d) o →
    ∃ c', N.exec o c' (π w.store) = ((M.exec o c w.store).1, π (M.exec o c w.store).2)

namespace Projects

variable {mine : ρ → Prop} {π : σ → σ'} {f : Nat → Nat} {k : Config σ ρ Op Ans β} {k' : Config σ' ρ Op Ans β}

theorem init (s : σ) : Projects mine π f (Config.init s : Config σ ρ Op Ans β) (Config.init (π s)) where
  store := rfl
  ordered e e' _ he' := absurd he' (Nat.not_lt_zero e')
  prog e he := absurd he (Nat.not_lt_zero e)
  request e he := absurd he (Nat.not_lt_zero e)
  exchanges e he := absurd he (Nat.not_lt_zero e)
  mine d r hr := by cases hr

/-- A program of `k'` is one of `k`. -/
theorem lt (h : Projects mine π f k k') {e : Nat} (he : e < k'.progs.length) : f e < k.progs.length := by
  have hprog := h.prog e he
  rw [List.getElem?_eq_getElem he] at hprog
  exact (List.getElem?_eq_some_iff.1 hprog.symm).1

theorem ne (h : Projects mine π f k k') {e e' : Nat} (he : e < k'.progs.length) (he' : e' < k'.progs.length)
    (hne : e ≠ e') : f e ≠ f e' := by
  rcases Nat.lt_or_gt_of_ne hne with hlt | hgt
  · exact Nat.ne_of_lt (h.ordered e e' hlt he')
  · exact (Nat.ne_of_lt (h.ordered e' e hgt he)).symm

section

variable {M : Machine σ χ ρ Op Ans β}

/-- The others start without notice. -/
theorem start_other (h : Projects mine π f k k') {r : ρ} (hr : ¬mine r) :
    Projects mine π f ⟨k.world.started k.progs.length r, k.progs ++ [M.handler r]⟩ k' where
  store := h.store
  ordered := h.ordered
  prog e he := by
    rw [List.getElem?_append_left (h.lt he)]
    exact h.prog e he
  request e he := by
    have hlt := h.lt he
    rw [World.request?_started, if_neg (by omega)]
    exact h.request e he
  exchanges e he := by
    rw [World.exchanges_started]
    exact h.exchanges e he
  mine d r' hr' := by
    rcases World.request?_of_started hr' with ⟨rfl, rfl⟩ | hr'
    · refine ⟨fun hmine => absurd hmine hr, ?_⟩
      rintro ⟨e, he, hd⟩
      have hlt := h.lt he
      omega
    · exact h.mine d r' hr'

/-- A request in `mine` starts as the next program. -/
theorem start_own {N : Machine σ' χ' ρ Op Ans β} (h : Projects mine π f k k')
    (hfresh : k.world.request? k.progs.length = none ∧ k.world.exchanges k.progs.length = [])
    (hfresh' : k'.world.exchanges k'.progs.length = []) {r : ρ} (hr : mine r) (hhandler : N.handler r = M.handler r) :
    Projects mine π (Function.update f k'.progs.length k.progs.length)
      ⟨k.world.started k.progs.length r, k.progs ++ [M.handler r]⟩
      ⟨k'.world.started k'.progs.length r, k'.progs ++ [N.handler r]⟩ := by
  -- a program is one of the old ones, or the new one
  have hcases : ∀ e, e < k'.progs.length + 1 → e < k'.progs.length ∧
      Function.update f k'.progs.length k.progs.length e = f e ∨
        e = k'.progs.length ∧ Function.update f k'.progs.length k.progs.length e = k.progs.length := by
    intro e he
    by_cases hnew : e = k'.progs.length
    · subst hnew
      exact .inr ⟨rfl, Function.update_self ..⟩
    · exact .inl ⟨by omega, Function.update_of_ne hnew ..⟩
  constructor
  · exact h.store
  · intro e e' hlt he'
    rw [List.length_append, List.length_singleton] at he'
    rcases hcases e' he' with ⟨hold', hf'⟩ | ⟨rfl, hf'⟩
    · rcases hcases e (by omega) with ⟨-, hf⟩ | ⟨rfl, -⟩
      · rw [hf, hf']
        exact h.ordered e e' hlt hold'
      · omega
    · rcases hcases e (by omega) with ⟨hold, hf⟩ | ⟨rfl, -⟩
      · rw [hf, hf']
        exact h.lt hold
      · omega
  · intro e he
    rw [List.length_append, List.length_singleton] at he
    rcases hcases e he with ⟨hold, hf⟩ | ⟨rfl, hf⟩
    · rw [hf, List.getElem?_append_left hold, List.getElem?_append_left (h.lt hold)]
      exact h.prog e hold
    · rw [hf, List.getElem?_concat_length, List.getElem?_concat_length, hhandler]
  · intro e he
    rw [List.length_append, List.length_singleton] at he
    rw [World.request?_started, World.request?_started]
    rcases hcases e he with ⟨hold, hf⟩ | ⟨rfl, hf⟩
    · have hlt := h.lt hold
      rw [hf, if_neg (by omega), if_neg (by omega)]
      exact h.request e hold
    · rw [hf, if_pos rfl, if_pos rfl]
  · intro e he
    rw [List.length_append, List.length_singleton] at he
    rw [World.exchanges_started, World.exchanges_started]
    rcases hcases e he with ⟨hold, hf⟩ | ⟨rfl, hf⟩
    · rw [hf]
      exact h.exchanges e hold
    · rw [hf, hfresh', hfresh.2]
  · intro d r' hr'
    rw [List.length_append, List.length_singleton]
    rcases World.request?_of_started hr' with ⟨rfl, rfl⟩ | hr'
    · exact ⟨fun _ => ⟨k'.progs.length, by omega, Function.update_self ..⟩, fun _ => hr⟩
    · rw [h.mine d r' hr']
      constructor
      · rintro ⟨e, he, hd⟩
        exact ⟨e, by omega, by rw [Function.update_of_ne (by omega), hd]⟩
      · rintro ⟨e, he, hd⟩
        rcases hcases e he with ⟨hold, hf⟩ | ⟨rfl, hf⟩
        · exact ⟨e, hold, hf.symm.trans hd⟩
        · rw [hf] at hd
          subst hd
          rw [hfresh.1] at hr'
          cases hr'

/-- What the others ask goes unnoticed. -/
theorem exec_other (h : Projects mine π f k k') {d : Nat} {r : ρ} {o : Op} {c : χ} {p : Prog Op Ans β}
    (hr : k.world.request? d = some r) (hmine : ¬mine r) (hπ : π (M.exec o c k.world.store).2 = π k.world.store) :
    Projects mine π f ⟨M.asked k.world d o c, k.progs.set d p⟩ k' := by
  have hne : ∀ e, e < k'.progs.length → f e ≠ d := by
    intro e he hd
    exact hmine ((h.mine d r hr).2 ⟨e, he, hd⟩)
  constructor
  · rw [Machine.asked_store, hπ]
    exact h.store
  · exact h.ordered
  · intro e he
    rw [List.getElem?_set_ne (hne e he).symm]
    exact h.prog e he
  · exact h.request
  · intro e he
    rw [Machine.exchanges_asked_ne _ _ (hne e he)]
    exact h.exchanges e he
  · exact h.mine

/-- What a request in `mine` asks is asked, and is answered in the same way. -/
theorem exec_own {N : Machine σ' χ' ρ Op Ans β} (h : Projects mine π f k k') {e : Nat} {o : Op} {c : χ} {c' : χ'}
    {next : Ans o → Prog Op Ans β} (he : e < k'.progs.length)
    (hexec : N.exec o c' k'.world.store = ((M.exec o c k.world.store).1, π (M.exec o c k.world.store).2)) :
    Projects mine π f ⟨M.asked k.world (f e) o c, k.progs.set (f e) (next (M.answer k.world o c))⟩
      ⟨N.asked k'.world e o c', k'.progs.set e (next (N.answer k'.world o c'))⟩ := by
  have hanswer : N.answer k'.world o c' = M.answer k.world o c := congrArg Prod.fst hexec
  have hlt := h.lt he
  constructor
  · rw [Machine.asked_store, Machine.asked_store, hexec]
  · intro e₁ e₂ hlt he₂
    rw [List.length_set] at he₂
    exact h.ordered e₁ e₂ hlt he₂
  · intro e₁ he₁
    rw [List.length_set] at he₁
    by_cases heq : e₁ = e
    · subst heq
      rw [List.getElem?_set_self he, List.getElem?_set_self hlt, hanswer]
    · rw [List.getElem?_set_ne (Ne.symm heq), List.getElem?_set_ne (h.ne he he₁ (Ne.symm heq))]
      exact h.prog e₁ he₁
  · intro e₁ he₁
    rw [List.length_set] at he₁
    exact h.request e₁ he₁
  · intro e₁ he₁
    rw [List.length_set] at he₁
    by_cases heq : e₁ = e
    · subst heq
      rw [Machine.exchanges_asked_self, Machine.exchanges_asked_self, hanswer, h.exchanges e₁ he₁]
    · rw [Machine.exchanges_asked_ne _ _ heq, Machine.exchanges_asked_ne _ _ (h.ne he₁ he heq)]
      exact h.exchanges e₁ he₁
  · intro d r hr
    rw [List.length_set]
    exact h.mine d r hr

end

end Projects

/-- The requests in `mine` do in any run what they do in a run of a service of their own. -/
theorem Separates.run {M : Machine σ χ ρ Op Ans β} {P : Protocol M} {K : World σ ρ Op Ans → Action χ ρ Op → Prop}
    {I : World σ ρ Op Ans → Prop} {N : Machine σ' χ' ρ Op Ans β} {mine : ρ → Prop} {π : σ → σ'}
    (h : Separates P I N mine π) (hI : P.Keeps K I) {s : σ} (hs : I (Config.init s : Config σ ρ Op Ans β).world)
    {k : Config σ ρ Op Ans β} (hk : M.Runs K (Config.init s) k) :
    ∃ (k' : Config σ' ρ Op Ans β) (f : Nat → Nat), N.Runs (Machine.starting mine) (Config.init (π s)) k' ∧
      Projects mine π f k k' := by
  induction hk with
  | refl => exact ⟨Config.init (π s), id, .refl, Projects.init s⟩
  | @tail k₁ k₂ hk hstep ih =>
    obtain ⟨k', f, hk', hprojects⟩ := ih
    have hobeyed : P.Obeyed k₁ := (Protocol.Obeyed.init s).run hk
    have hinv : I k₁.world := Protocol.invariant hI (Protocol.Obeyed.init s) hs hk
    cases hstep with
    | start r hK =>
      by_cases hmine : mine r
      · have hfresh := hobeyed.fresh k₁.progs.length (Nat.le_refl _)
        have hfresh' := (hk'.fresh k'.progs.length (Nat.le_refl _)).2
        exact ⟨_, _, hk'.tail (.start r hmine), hprojects.start_own hfresh hfresh' hmine (h.handler r hmine)⟩
      · exact ⟨k', f, hk', hprojects.start_other hmine⟩
    | @exec d o next c hp hK =>
      obtain ⟨r, hr, hfollows⟩ := hobeyed.prog d _ hp
      by_cases hmine : mine r
      · obtain ⟨e, he, rfl⟩ := (hprojects.mine d r hr).1 hmine
        obtain ⟨c', hexec⟩ := h.own _ _ r o c hinv hr hmine hfollows.1
        rw [← hprojects.store] at hexec
        have hp' : k'.progs[e]? = some (.ask o next) := (hprojects.prog e he).trans hp
        exact ⟨_, f, hk'.tail (.exec c' hp' trivial), hprojects.exec_own he hexec⟩
      · exact ⟨k', f, hk', hprojects.exec_other hr hmine (h.other _ d r o c hinv hr hmine hfollows.1)⟩

end Interleave
