import IonInsurance.Interleave.Machine

/-!
# Reading while a machine runs

A reader asks queries one at a time, and the machine takes any number of steps before each query and after the last
one.  So a reader sees several states, each later than the one before, and not one: what it returns relates to a single
state only through what later steps keep.
-/

namespace Interleave

variable {σ χ ρ Op : Type} {Ans : Op → Type} {β : Type}
variable {ε Qry : Type} {Res : Qry → Type} {α γ : Type}

namespace Machine

/-- The reader `p`, started when the machine is in `k`, has returned `a` when it is in `k'`.  The answer to a query may
depend on a choice of the environment among those that `E` allows, but a query changes nothing. -/
inductive Observes (M : Machine σ χ ρ Op Ans β) (K : World σ ρ Op Ans → Action χ ρ Op → Prop) (E : ε → Prop)
    (read : (q : Qry) → ε → σ → Res q) :
    Config σ ρ Op Ans β → Prog Qry Res α → Config σ ρ Op Ans β → α → Prop where
  | ret {k k' : Config σ ρ Op Ans β} (a : α) (hr : M.Runs K k k') : Observes M K E read k (.ret a) k' a
  | ask {k k₁ k' : Config σ ρ Op Ans β} {q : Qry} {next : Res q → Prog Qry Res α} {a : α} {e : ε} (he : E e)
      (hr : M.Runs K k k₁) (h : Observes M K E read k₁ (next (read q e k₁.world.store)) k' a) :
      Observes M K E read k (.ask q next) k' a

variable {M : Machine σ χ ρ Op Ans β} {K : World σ ρ Op Ans → Action χ ρ Op → Prop} {E : ε → Prop}
  {read : (q : Qry) → ε → σ → Res q} {k k' : Config σ ρ Op Ans β} {p : Prog Qry Res α} {a : α}

/-- While a reader reads, the machine runs. -/
theorem Observes.runs (h : M.Observes K E read k p k' a) : M.Runs K k k' := by
  induction h with
  | ret a hr => exact hr
  | ask he hr _ ih => exact hr.trans ih

/-- The first query of a `do` block is answered in a state that the machine passes through. -/
theorem observes_call {q : Qry} {f : Res q → Prog Qry Res α} (h : M.Observes K E read k (Prog.call q >>= f) k' a) :
    ∃ k₁ e, E e ∧ M.Runs K k k₁ ∧ M.Observes K E read k₁ (f (read q e k₁.world.store)) k' a := by
  rw [Prog.call_bind] at h
  cases h with
  | ask he hr h => exact ⟨_, _, he, hr, h⟩

theorem observes_ret {b : α} (h : M.Observes K E read k (.ret a : Prog Qry Res α) k' b) : b = a := by
  cases h with
  | ret => rfl

/-- A reader that is given time while nothing else happens reads one state. -/
def glance (read : (q : Qry) → ε → σ → Res q) (e : ε) (s : σ) : Prog Qry Res α → α
  | .ret a => a
  | .ask q next => glance read e s (next (read q e s))

theorem observes_glance (k : Config σ ρ Op Ans β) {e : ε} (he : E e) (p : Prog Qry Res α) :
    M.Observes K E read k p k (glance read e k.world.store p) := by
  induction p with
  | ret a => exact .ret a .refl
  | ask q next ih => exact .ask he .refl (ih _)

end Machine

end Interleave
