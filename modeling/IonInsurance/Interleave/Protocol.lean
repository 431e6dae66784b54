import Mathlib.Data.Sigma.Basic
import IonInsurance.Interleave.Machine

/-!
# Protocols and invariants

A `Protocol` of a machine says, for each request, which operation its handler may ask next, given the answers it has
received so far, and what it may return.  It is proved once for each handler.  After that a property of all runs needs
no look at the programs: `Protocol.invariant` asks what each operation does to it when the protocol allows the
operation.  Since the world remembers what every program has been answered, an invariant can say what a program has
read and is still about to rely on.
-/

namespace Interleave

variable {σ χ ρ Op : Type} {Ans : Op → Type} {β : Type}

structure Protocol (M : Machine σ χ ρ Op Ans β) where
  asks : ρ → List (Prog.Exchange Op Ans) → Op → Prop
  returns : ρ → List (Prog.Exchange Op Ans) → β → Prop
  follows : ∀ r, (M.handler r).Follows (asks r) (returns r) []

namespace Protocol

variable {M : Machine σ χ ρ Op Ans β}

/-- Every program of `k` is at a point of the protocol of its request. -/
structure Obeyed (P : Protocol M) (k : Config σ ρ Op Ans β) : Prop where
  fresh : ∀ d, k.progs.length ≤ d → k.world.request? d = none ∧ k.world.exchanges d = []
  prog : ∀ d p, k.progs[d]? = some p → ∃ r, k.world.request? d = some r ∧
    p.Follows (P.asks r) (P.returns r) (k.world.exchanges d)

/-- Every step that the guard `K` and the protocol allow keeps `I`. -/
structure Keeps (P : Protocol M) (K : World σ ρ Op Ans → Action χ ρ Op → Prop) (I : World σ ρ Op Ans → Prop) :
    Prop where
  start : ∀ w d r, I w → K w (.start r) → w.request? d = none → w.exchanges d = [] → I (w.started d r)
  exec : ∀ w d r o c, I w → K w (.exec d o c) → w.request? d = some r → P.asks r (w.exchanges d) o →
    I (M.asked w d o c)

variable {P : Protocol M} {K : World σ ρ Op Ans → Action χ ρ Op → Prop} {I : World σ ρ Op Ans → Prop}

theorem Obeyed.init (s : σ) : P.Obeyed (Config.init s) :=
  ⟨fun _ _ => ⟨rfl, rfl⟩, fun _ _ h => by simp [Config.init] at h⟩

theorem Obeyed.step {k k' : Config σ ρ Op Ans β} (h : P.Obeyed k) (hs : M.Step K k k') : P.Obeyed k' := by
  cases hs with
  | start r hK =>
    obtain ⟨hr, he⟩ := h.fresh k.progs.length (Nat.le_refl _)
    -- the new program has asked nothing, and the others stay as they are
    refine ⟨fun d hd => ?_, fun d p hd => ?_⟩
    · rw [List.length_append, List.length_singleton] at hd
      rw [World.request?_started, if_neg (by omega)]
      exact h.fresh d (by omega)
    · rw [World.request?_started, World.exchanges_started]
      rcases Nat.lt_trichotomy d k.progs.length with hlt | rfl | hgt
      · rw [List.getElem?_append_left hlt] at hd
        rw [if_neg (by omega)]
        exact h.prog d p hd
      · rw [List.getElem?_concat_length] at hd
        obtain rfl := Option.some.inj hd
        rw [he]
        exact ⟨r, if_pos rfl, P.follows r⟩
      · rw [List.getElem?_eq_none (by simp; omega)] at hd
        cases hd
  | @exec d o next c hp hK =>
    have hd : d < k.progs.length := (List.getElem?_eq_some_iff.1 hp).1
    -- only program `d` has moved on
    refine ⟨fun e he => ?_, fun e p he => ?_⟩
    · rw [List.length_set] at he
      rw [Machine.request?_asked, Machine.exchanges_asked_ne _ _ (by omega)]
      exact h.fresh e he
    · rw [Machine.request?_asked]
      by_cases hed : e = d
      · subst hed
        rw [List.getElem?_set_self hd] at he
        obtain rfl := Option.some.inj he
        obtain ⟨r, hr, hf⟩ := h.prog e _ hp
        rw [Machine.exchanges_asked_self]
        exact ⟨r, hr, hf.2 _⟩
      · rw [List.getElem?_set_ne (Ne.symm hed)] at he
        rw [Machine.exchanges_asked_ne _ _ hed]
        exact h.prog e p he

/-- The programs follow the protocol in every run. -/
theorem Obeyed.run {k k' : Config σ ρ Op Ans β} (h : P.Obeyed k) (hr : M.Runs K k k') : P.Obeyed k' := by
  induction hr with
  | refl => exact h
  | tail _ hs ih => exact ih.step hs

/-- A program stays with its request. -/
theorem Obeyed.request?_run {k k' : Config σ ρ Op Ans β} (h : P.Obeyed k) (hr : M.Runs K k k') {d : Nat} {r : ρ}
    (hd : k.world.request? d = some r) : k'.world.request? d = some r := by
  induction hr with
  | refl => exact hd
  | @tail k₁ _ hr' hs ih =>
    cases hs with
    | start r' hK => exact World.request?_stays ((h.run hr').fresh _ (Nat.le_refl _)).1 ih
    | exec c hp hK => exact ih

/-- A program that has asked something was started for a request. -/
theorem Obeyed.requested {k : Config σ ρ Op Ans β} (h : P.Obeyed k) {d : Nat} {x : Prog.Exchange Op Ans}
    (hx : x ∈ k.world.exchanges d) : ∃ r, k.world.request? d = some r := by
  rcases Nat.lt_or_ge d k.progs.length with hlt | hge
  · obtain ⟨r, hr, -⟩ := h.prog d _ (List.getElem?_eq_getElem hlt)
    exact ⟨r, hr⟩
  · rw [(h.fresh d hge).2] at hx
    cases hx

theorem Keeps.step (hI : P.Keeps K I) {k k' : Config σ ρ Op Ans β} (h : P.Obeyed k) (hk : I k.world)
    (hs : M.Step K k k') : I k'.world := by
  cases hs with
  | start r hK =>
    obtain ⟨hr, he⟩ := h.fresh k.progs.length (Nat.le_refl _)
    exact hI.start _ _ r hk hK hr he
  | exec c hp hK =>
    obtain ⟨r, hr, hf⟩ := h.prog _ _ hp
    exact hI.exec _ _ r _ c hk hK hr hf.1

/-- What every allowed step keeps holds in every run. -/
theorem invariant (hI : P.Keeps K I) {k k' : Config σ ρ Op Ans β} (h : P.Obeyed k) (hk : I k.world)
    (hr : M.Runs K k k') : I k'.world := by
  induction hr with
  | refl => exact hk
  | tail hr' hs ih => exact hI.step (h.run hr') ih hs

/-- What every exchange that the protocol allows keeps holds of the exchanges of every program. -/
theorem history {S : ρ → List (Prog.Exchange Op Ans) → Prop} (h₀ : ∀ r, S r [])
    (hS : ∀ r h o (a : Ans o), S r h → P.asks r h o → S r (⟨o, a⟩ :: h)) {s : σ} {k : Config σ ρ Op Ans β}
    (hk : M.Runs K (Config.init s) k) {d : Nat} {r : ρ} (hr : k.world.request? d = some r) :
    S r (k.world.exchanges d) := by
  have hkeeps : P.Keeps K fun w => ∀ d r, w.request? d = some r → S r (w.exchanges d) := by
    constructor
    · intro w d r hI _ hr he e r' hr'
      rw [World.exchanges_started]
      rcases World.request?_of_started hr' with ⟨rfl, -⟩ | hr'
      · rw [he]
        exact h₀ r'
      · exact hI e r' hr'
    · intro w d r o c hI _ hr ho e r' hr'
      rw [Machine.request?_asked] at hr'
      by_cases hed : e = d
      · subst hed
        obtain rfl := Option.some.inj (hr.symm.trans hr')
        rw [Machine.exchanges_asked_self]
        exact hS r _ o _ (hI e r hr) ho
      · rw [Machine.exchanges_asked_ne _ _ hed]
        exact hI e r' hr'
  refine invariant hkeeps (Obeyed.init s) ?_ hk d r hr
  intro d r hr
  cases hr

/-- A delivery that was started and is not running any more has returned as the protocol says. -/
theorem Obeyed.returned {k : Config σ ρ Op Ans β} (h : P.Obeyed k) (hk : k.Idle) {d : Nat} {r : ρ}
    (hr : k.world.request? d = some r) : ∃ b, P.returns r (k.world.exchanges d) b := by
  have hd : d < k.progs.length := by
    rcases Nat.lt_or_ge d k.progs.length with hlt | hge
    · exact hlt
    · rw [(h.fresh d hge).1] at hr
      cases hr
  obtain ⟨b, hb⟩ := hk k.progs[d] (List.getElem_mem hd)
  obtain ⟨r', hr', hf⟩ := h.prog d (.ret b) (by rw [← hb]; exact List.getElem?_eq_getElem hd)
  rw [hr] at hr'
  obtain rfl := Option.some.inj hr'
  exact ⟨b, hf⟩

end Protocol

namespace Machine

variable {M : Machine σ χ ρ Op Ans β} {K : World σ ρ Op Ans → Action χ ρ Op → Prop}

/-- The protocol that says of one request what its handler may ask at any point. -/
def protocolOf {r : ρ} {A : Op → Prop} (hA : (M.handler r).Asks A) : Protocol M where
  asks r' _ o := r' = r → A o
  returns _ _ _ := True
  follows r' := by
    have hall : (M.handler r').Asks fun o => r' = r → A o := by
      by_cases hr : r' = r
      · subst hr
        exact hA.mono fun o ho _ => ho
      · exact Prog.asks_of_forall (fun o h => absurd h hr) _
    exact (hall.follows (J := fun _ => True) (fun _ _ _ ho => ho) (fun _ _ _ _ _ => trivial) trivial).mono
      fun _ _ _ => trivial

/-- In every run, a request is asked what its handler can ask. -/
theorem asked_of_asks {r : ρ} {A : Op → Prop} (hA : (M.handler r).Asks A) {s : σ} {k : Config σ ρ Op Ans β}
    (h : M.Runs K (Config.init s) k) {d : Nat} (hr : k.world.request? d = some r) {o : Op} {a : Ans o}
    (hx : ⟨o, a⟩ ∈ k.world.exchanges d) : A o := by
  have hkeeps : (protocolOf hA).Keeps K fun w =>
      ∀ d o (a : Ans o), w.request? d = some r → ⟨o, a⟩ ∈ w.exchanges d → A o := by
    constructor
    · intro w d r' hI _ _ he e o a hr' hx
      exact hI e o a (World.request?_of_asked he hr' hx) hx
    · intro w d r' o c hI _ hr' ho e o' a hre hx
      rcases exchange_asked hx with hold | ⟨rfl, rfl, -⟩
      · exact hI e o' a hre hold
      · rw [request?_asked, hr'] at hre
        exact ho (Option.some.inj hre)
  refine Protocol.invariant hkeeps (Protocol.Obeyed.init s) ?_ h d o a hr hx
  intro d o a hr
  cases hr

end Machine

end Interleave
