import Mathlib.Logic.Relation
import IonInsurance.Interleave.Prog

/-!
# Machines and their interleaved runs

A machine answers operations on a shared store and has a handler, a program, for every request.  A configuration
holds the store, the history of what happened, and one program for each request started so far; a step starts
another request or lets one program ask its next operation.  A run is any sequence of steps, so the operations of
the programs interleave in every order.  The answer to an operation may depend on a choice `c : χ` of the
environment (a failure, a clock reading, the reply of a peer).

`Machine.run?` executes a schedule, and `Machine.serve` is the special run that takes one request to completion.
-/

namespace Interleave

/-- Program `d` was started for the request `r`, or it asked `o` of the store `s` and was answered `a`. -/
inductive Event (σ ρ Op : Type) (Ans : Op → Type) : Type where
  | start (d : Nat) (r : ρ)
  | exec (d : Nat) (s : σ) (o : Op) (a : Ans o)

/-- The store that the programs share, and the events so far, latest first. -/
structure World (σ ρ Op : Type) (Ans : Op → Type) where
  store : σ
  trace : List (Event σ ρ Op Ans)

structure Config (σ ρ Op : Type) (Ans : Op → Type) (β : Type) where
  world : World σ ρ Op Ans
  progs : List (Prog Op Ans β)

/-- What a step does: start a request, or let program `d` ask `o` under the choice `c`. -/
inductive Action (χ ρ Op : Type) : Type where
  | start (r : ρ)
  | exec (d : Nat) (o : Op) (c : χ)

structure Machine (σ χ ρ Op : Type) (Ans : Op → Type) (β : Type) where
  exec : (o : Op) → χ → σ → Ans o × σ
  handler : ρ → Prog Op Ans β

variable {σ χ ρ Op : Type} {Ans : Op → Type} {β : Type}

def World.started (w : World σ ρ Op Ans) (d : Nat) (r : ρ) : World σ ρ Op Ans :=
  { w with trace := .start d r :: w.trace }

@[simp] theorem World.started_store (w : World σ ρ Op Ans) (d : Nat) (r : ρ) :
    (w.started d r).store = w.store := rfl

@[simp] theorem World.started_trace (w : World σ ρ Op Ans) (d : Nat) (r : ρ) :
    (w.started d r).trace = .start d r :: w.trace := rfl

/-- The request for which program `d` was started. -/
def World.request? (w : World σ ρ Op Ans) (d : Nat) : Option ρ :=
  w.trace.findSome? fun
    | .start e r => if e = d then some r else none
    | .exec .. => none

/-- The operations that program `d` asked, with their answers, latest first. -/
def World.exchanges (w : World σ ρ Op Ans) (d : Nat) : List (Prog.Exchange Op Ans) :=
  w.trace.filterMap fun
    | .start .. => none
    | .exec e _ o a => if e = d then some ⟨o, a⟩ else none

theorem World.request?_started (w : World σ ρ Op Ans) (d e : Nat) (r : ρ) :
    (w.started d r).request? e = if d = e then some r else w.request? e := by
  unfold request?
  rw [started_trace, List.findSome?_cons]
  by_cases h : d = e <;> simp [h]

/-- A request was there, or it has just been started. -/
theorem World.request?_of_started {w : World σ ρ Op Ans} {d e : Nat} {r r' : ρ}
    (h : (w.started d r).request? e = some r') : d = e ∧ r = r' ∨ w.request? e = some r' := by
  rw [request?_started] at h
  by_cases hde : d = e
  · rw [if_pos hde] at h
    exact .inl ⟨hde, Option.some.inj h⟩
  · rw [if_neg hde] at h
    exact .inr h

/-- Requests stay when a new program is started. -/
theorem World.request?_stays {w : World σ ρ Op Ans} {d e : Nat} {r r' : ρ} (hd : w.request? d = none)
    (hr : w.request? e = some r') : (w.started d r).request? e = some r' := by
  have hne : d ≠ e := by
    rintro rfl
    rw [hd] at hr
    cases hr
  rw [request?_started, if_neg hne]
  exact hr

@[simp] theorem World.exchanges_started (w : World σ ρ Op Ans) (d e : Nat) (r : ρ) :
    (w.started d r).exchanges e = w.exchanges e := rfl

/-- A program that has asked something was not started just now. -/
theorem World.request?_of_asked {w : World σ ρ Op Ans} {d e : Nat} {r r' : ρ} (he : w.exchanges d = [])
    (h : (w.started d r).request? e = some r') {x : Prog.Exchange Op Ans} (hx : x ∈ w.exchanges e) :
    w.request? e = some r' := by
  rcases World.request?_of_started h with ⟨rfl, -⟩ | hold
  · rw [he] at hx
    cases hx
  · exact hold

theorem World.mem_exchanges {w : World σ ρ Op Ans} {d : Nat} {o : Op} {a : Ans o} :
    ⟨o, a⟩ ∈ w.exchanges d ↔ ∃ s, .exec d s o a ∈ w.trace := by
  unfold exchanges
  rw [List.mem_filterMap]
  constructor
  · rintro ⟨ev, hev, h⟩
    cases ev with
    | start => cases h
    | exec e s o' a' =>
      dsimp only at h
      split at h
      · rename_i he
        subst he
        cases h
        exact ⟨s, hev⟩
      · cases h
  · rintro ⟨s, hs⟩
    exact ⟨_, hs, by simp⟩

/-- A program was started for its request. -/
theorem World.start_mem {w : World σ ρ Op Ans} {d : Nat} {r : ρ} (h : w.request? d = some r) :
    .start d r ∈ w.trace := by
  obtain ⟨ev, hev, hr⟩ := List.exists_of_findSome?_eq_some h
  cases ev with
  | start e r' =>
    dsimp only at hr
    split at hr
    · rename_i he
      subst he
      obtain rfl := Option.some.inj hr
      exact hev
    · cases hr
  | exec => cases hr

/-- `P` holds of the store, or an operation was asked of a store of which it held. -/
def World.Once (w : World σ ρ Op Ans) (P : σ → Prop) : Prop :=
  P w.store ∨ ∃ d s o a, .exec d s o a ∈ w.trace ∧ P s

@[simp] theorem World.once_started (w : World σ ρ Op Ans) (d : Nat) (r : ρ) (P : σ → Prop) :
    (w.started d r).Once P ↔ w.Once P := by
  simp [Once]

/-- The configuration with store `s` in which nothing has happened. -/
def Config.init (s : σ) : Config σ ρ Op Ans β := ⟨⟨s, []⟩, []⟩

/-- Every program started so far has returned. -/
def Config.Idle (k : Config σ ρ Op Ans β) : Prop := ∀ p ∈ k.progs, ∃ b, p = .ret b

namespace Machine

/-- The answer to `o` in the world `w`. -/
def answer (M : Machine σ χ ρ Op Ans β) (w : World σ ρ Op Ans) (o : Op) (c : χ) : Ans o := (M.exec o c w.store).1

/-- The world after program `d` asked `o` in the world `w`. -/
def asked (M : Machine σ χ ρ Op Ans β) (w : World σ ρ Op Ans) (d : Nat) (o : Op) (c : χ) : World σ ρ Op Ans :=
  ⟨(M.exec o c w.store).2, .exec d w.store o (M.answer w o c) :: w.trace⟩

@[simp] theorem asked_store (M : Machine σ χ ρ Op Ans β) (w : World σ ρ Op Ans) (d : Nat) (o : Op) (c : χ) :
    (M.asked w d o c).store = (M.exec o c w.store).2 := rfl

@[simp] theorem asked_trace (M : Machine σ χ ρ Op Ans β) (w : World σ ρ Op Ans) (d : Nat) (o : Op) (c : χ) :
    (M.asked w d o c).trace = .exec d w.store o (M.answer w o c) :: w.trace := rfl

@[simp] theorem request?_asked (M : Machine σ χ ρ Op Ans β) (w : World σ ρ Op Ans) (d e : Nat) (o : Op) (c : χ) :
    (M.asked w d o c).request? e = w.request? e := rfl

@[simp] theorem exchanges_asked_self (M : Machine σ χ ρ Op Ans β) (w : World σ ρ Op Ans) (d : Nat) (o : Op) (c : χ) :
    (M.asked w d o c).exchanges d = ⟨o, M.answer w o c⟩ :: w.exchanges d := by
  simp [World.exchanges]

theorem exchanges_asked_ne (M : Machine σ χ ρ Op Ans β) (w : World σ ρ Op Ans) {d e : Nat} (h : e ≠ d) (o : Op)
    (c : χ) : (M.asked w d o c).exchanges e = w.exchanges e := by
  simp [World.exchanges, Ne.symm h]

/-- An exchange is an old one or the one that has just been made. -/
theorem mem_exchanges_asked {M : Machine σ χ ρ Op Ans β} {w : World σ ρ Op Ans} {d e : Nat} {o : Op} {c : χ}
    {x : Prog.Exchange Op Ans} (h : x ∈ (M.asked w d o c).exchanges e) :
    x ∈ w.exchanges e ∨ e = d ∧ x = ⟨o, M.answer w o c⟩ := by
  by_cases hed : e = d
  · subst hed
    rw [exchanges_asked_self, List.mem_cons] at h
    rcases h with h | h
    · exact .inr ⟨rfl, h⟩
    · exact .inl h
  · rw [exchanges_asked_ne _ _ hed] at h
    exact .inl h

/-- The exchange of an operation was there, or the operation has just been asked and answered. -/
theorem exchange_asked {M : Machine σ χ ρ Op Ans β} {w : World σ ρ Op Ans} {d e : Nat} {o o' : Op} {c : χ} {a : Ans o'}
    (h : ⟨o', a⟩ ∈ (M.asked w d o c).exchanges e) :
    ⟨o', a⟩ ∈ w.exchanges e ∨ e = d ∧ ∃ ho : o = o', a = ho ▸ M.answer w o c := by
  rcases mem_exchanges_asked h with hold | ⟨hed, hnew⟩
  · exact .inl hold
  · cases hnew
    exact .inr ⟨hed, rfl, rfl⟩

/-- Exchanges stay. -/
theorem exchanges_subset (M : Machine σ χ ρ Op Ans β) (w : World σ ρ Op Ans) (d e : Nat) (o : Op) (c : χ) :
    w.exchanges e ⊆ (M.asked w d o c).exchanges e := by
  intro x hx
  by_cases hed : e = d
  · subst hed
    rw [exchanges_asked_self]
    exact List.mem_cons_of_mem _ hx
  · rwa [exchanges_asked_ne _ _ hed]

/-- What held once still held once; what is new holds now. -/
theorem once_asked (M : Machine σ χ ρ Op Ans β) (w : World σ ρ Op Ans) (d : Nat) (o : Op) (c : χ) (P : σ → Prop) :
    (M.asked w d o c).Once P ↔ P (M.exec o c w.store).2 ∨ w.Once P := by
  constructor
  · rintro (h | ⟨e, s, o', a, hev, h⟩)
    · exact .inl h
    · rw [asked_trace, List.mem_cons] at hev
      rcases hev with hev | hev
      · cases hev
        exact .inr (.inl h)
      · exact .inr (.inr ⟨e, s, o', a, hev, h⟩)
  · rintro (h | h | ⟨e, s, o', a, hev, h⟩)
    · exact .inl h
    · exact .inr ⟨d, w.store, o, _, List.mem_cons_self, h⟩
    · exact .inr ⟨e, s, o', a, List.mem_cons_of_mem _ hev, h⟩

/-! ### Steps and runs -/

/-- One step.  The guard `K` says which actions are allowed in which worlds. -/
inductive Step (M : Machine σ χ ρ Op Ans β) (K : World σ ρ Op Ans → Action χ ρ Op → Prop) :
    Config σ ρ Op Ans β → Config σ ρ Op Ans β → Prop where
  | start {k : Config σ ρ Op Ans β} (r : ρ) (hK : K k.world (.start r)) :
      Step M K k ⟨k.world.started k.progs.length r, k.progs ++ [M.handler r]⟩
  | exec {k : Config σ ρ Op Ans β} {d : Nat} {o : Op} {next : Ans o → Prog Op Ans β} (c : χ)
      (hp : k.progs[d]? = some (.ask o next)) (hK : K k.world (.exec d o c)) :
      Step M K k ⟨M.asked k.world d o c, k.progs.set d (next (M.answer k.world o c))⟩

/-- A run: any number of steps allowed by the guard `K`. -/
def Runs (M : Machine σ χ ρ Op Ans β) (K : World σ ρ Op Ans → Action χ ρ Op → Prop) :
    Config σ ρ Op Ans β → Config σ ρ Op Ans β → Prop :=
  Relation.ReflTransGen (M.Step K)

/-- The guard that allows every action. -/
def anything (_ : World σ ρ Op Ans) (_ : Action χ ρ Op) : Prop := True

theorem Step.mono {M : Machine σ χ ρ Op Ans β} {K L : World σ ρ Op Ans → Action χ ρ Op → Prop}
    (h : ∀ w a, K w a → L w a) {k k' : Config σ ρ Op Ans β} (hs : M.Step K k k') : M.Step L k k' := by
  cases hs with
  | start r hK => exact .start r (h _ _ hK)
  | exec c hp hK => exact .exec c hp (h _ _ hK)

theorem Runs.mono {M : Machine σ χ ρ Op Ans β} {K L : World σ ρ Op Ans → Action χ ρ Op → Prop}
    (h : ∀ w a, K w a → L w a) {k k' : Config σ ρ Op Ans β} (hr : M.Runs K k k') : M.Runs L k k' :=
  hr.lift id fun _ _ hs => Step.mono h hs

/-- What every allowed operation keeps of the store holds after a run if it held before. -/
theorem Runs.store {M : Machine σ χ ρ Op Ans β} {K : World σ ρ Op Ans → Action χ ρ Op → Prop}
    {k k' : Config σ ρ Op Ans β} {P : σ → Prop} (hr : M.Runs K k k')
    (hP : ∀ w d o c, K w (.exec d o c) → P w.store → P (M.exec o c w.store).2) (h : P k.world.store) :
    P k'.world.store := by
  induction hr with
  | refl => exact h
  | tail _ hs ih =>
    cases hs with
    | start r hK => exact ih
    | exec c hp hK => exact hP _ _ _ c hK ih

/-- What holds of the store at some point of a run held once, at every later point. -/
theorem Runs.once {M : Machine σ χ ρ Op Ans β} {K : World σ ρ Op Ans → Action χ ρ Op → Prop}
    {k k' : Config σ ρ Op Ans β} (hr : M.Runs K k k') {P : σ → Prop} (h : k.world.Once P) : k'.world.Once P := by
  induction hr with
  | refl => exact h
  | tail _ hs ih =>
    cases hs with
    | start r hK => exact (World.once_started ..).2 ih
    | exec c hp hK => exact (once_asked ..).2 (.inr ih)

/-! ### Executing a schedule -/

/-- A schedule names the next action; the operation is the one that program `d` is about to ask. -/
inductive Label (χ ρ : Type) : Type where
  | start (r : ρ)
  | exec (d : Nat) (c : χ)

/-- The step that a label names, if the test `g` allows it. -/
def step? (M : Machine σ χ ρ Op Ans β) (g : World σ ρ Op Ans → Action χ ρ Op → Bool) (k : Config σ ρ Op Ans β) :
    Label χ ρ → Option (Config σ ρ Op Ans β)
  | .start r => if g k.world (.start r) then some ⟨k.world.started k.progs.length r, k.progs ++ [M.handler r]⟩ else none
  | .exec d c =>
    match k.progs[d]? with
    | some (.ask o next) =>
      if g k.world (.exec d o c) then some ⟨M.asked k.world d o c, k.progs.set d (next (M.answer k.world o c))⟩
      else none
    | _ => none

def run? (M : Machine σ χ ρ Op Ans β) (g : World σ ρ Op Ans → Action χ ρ Op → Bool) (k : Config σ ρ Op Ans β)
    (ls : List (Label χ ρ)) : Option (Config σ ρ Op Ans β) :=
  ls.foldlM (M.step? g) k

theorem step?_step {M : Machine σ χ ρ Op Ans β} {g : World σ ρ Op Ans → Action χ ρ Op → Bool}
    {k k' : Config σ ρ Op Ans β} {l : Label χ ρ} (h : M.step? g k l = some k') :
    M.Step (fun w a => g w a = true) k k' := by
  cases l with
  | start r =>
    simp only [step?] at h
    split at h
    · rename_i hg
      obtain rfl := Option.some.inj h
      exact .start r hg
    · cases h
  | exec d c =>
    simp only [step?] at h
    split at h
    · rename_i hp
      split at h
      · rename_i hg
        obtain rfl := Option.some.inj h
        exact .exec (K := fun w a => g w a = true) c hp hg
      · cases h
    · cases h

/-- Executing a schedule is a run whose steps all pass the test. -/
theorem run?_runs {M : Machine σ χ ρ Op Ans β} {g : World σ ρ Op Ans → Action χ ρ Op → Bool} {ls : List (Label χ ρ)}
    {k k' : Config σ ρ Op Ans β} (h : M.run? g k ls = some k') : M.Runs (fun w a => g w a = true) k k' := by
  induction ls generalizing k with
  | nil => exact Option.some.inj h ▸ .refl
  | cons l ls ih =>
    simp only [run?, List.foldlM_cons, Option.bind_eq_bind, Option.bind_eq_some_iff] at h
    obtain ⟨k₁, h₁, h₂⟩ := h
    exact .head (step?_step h₁) (ih h₂)

end Machine

end Interleave
