import IonInsurance.Interleave.Protocol

/-!
# Two machines side by side

Two machines take their steps in any order, each on its own store.  What one of them may do next can depend on the
history of the other: a message is delivered on one side only if it was sent on the other.
-/

namespace Interleave

variable {σ₁ χ₁ ρ₁ Op₁ : Type} {Ans₁ : Op₁ → Type} {β₁ : Type}
variable {σ₂ χ₂ ρ₂ Op₂ : Type} {Ans₂ : Op₂ → Type} {β₂ : Type}

/-- Program `d` or another one asked `o`. -/
def World.Asked {σ ρ Op : Type} {Ans : Op → Type} (w : World σ ρ Op Ans) (o : Op) : Prop :=
  ∃ d, ∃ a : Ans o, ⟨o, a⟩ ∈ w.exchanges d

theorem World.Asked.asked {σ χ ρ Op : Type} {Ans : Op → Type} {β : Type} {M : Machine σ χ ρ Op Ans β}
    {w : World σ ρ Op Ans} {o : Op} (h : w.Asked o) (d : Nat) (o' : Op) (c : χ) : (M.asked w d o' c).Asked o := by
  obtain ⟨e, a, hx⟩ := h
  exact ⟨e, a, Machine.exchanges_subset M w d e o' c hx⟩

/-- Which steps of either machine are allowed, given the world of the other. -/
structure Rules (M₁ : Machine σ₁ χ₁ ρ₁ Op₁ Ans₁ β₁) (M₂ : Machine σ₂ χ₂ ρ₂ Op₂ Ans₂ β₂) where
  left : World σ₂ ρ₂ Op₂ Ans₂ → World σ₁ ρ₁ Op₁ Ans₁ → Action χ₁ ρ₁ Op₁ → Prop
  right : World σ₁ ρ₁ Op₁ Ans₁ → World σ₂ ρ₂ Op₂ Ans₂ → Action χ₂ ρ₂ Op₂ → Prop

namespace Rules

variable {M₁ : Machine σ₁ χ₁ ρ₁ Op₁ Ans₁ β₁} {M₂ : Machine σ₂ χ₂ ρ₂ Op₂ Ans₂ β₂}

inductive Step (R : Rules M₁ M₂) :
    Config σ₁ ρ₁ Op₁ Ans₁ β₁ × Config σ₂ ρ₂ Op₂ Ans₂ β₂ →
      Config σ₁ ρ₁ Op₁ Ans₁ β₁ × Config σ₂ ρ₂ Op₂ Ans₂ β₂ → Prop where
  | left {k₁ k₁' : Config σ₁ ρ₁ Op₁ Ans₁ β₁} {k₂ : Config σ₂ ρ₂ Op₂ Ans₂ β₂} (h : M₁.Step (R.left k₂.world) k₁ k₁') :
      Step R (k₁, k₂) (k₁', k₂)
  | right {k₁ : Config σ₁ ρ₁ Op₁ Ans₁ β₁} {k₂ k₂' : Config σ₂ ρ₂ Op₂ Ans₂ β₂} (h : M₂.Step (R.right k₁.world) k₂ k₂') :
      Step R (k₁, k₂) (k₁, k₂')

def Runs (R : Rules M₁ M₂) :
    Config σ₁ ρ₁ Op₁ Ans₁ β₁ × Config σ₂ ρ₂ Op₂ Ans₂ β₂ →
      Config σ₁ ρ₁ Op₁ Ans₁ β₁ × Config σ₂ ρ₂ Op₂ Ans₂ β₂ → Prop :=
  Relation.ReflTransGen R.Step

/-- The steps that both rules allow. -/
def and (R S : Rules M₁ M₂) : Rules M₁ M₂ where
  left w₂ w₁ a := R.left w₂ w₁ a ∧ S.left w₂ w₁ a
  right w₁ w₂ a := R.right w₁ w₂ a ∧ S.right w₁ w₂ a

theorem Runs.mono {R S : Rules M₁ M₂} (hl : ∀ w₂ w₁ a, R.left w₂ w₁ a → S.left w₂ w₁ a)
    (hr : ∀ w₁ w₂ a, R.right w₁ w₂ a → S.right w₁ w₂ a)
    {k k' : Config σ₁ ρ₁ Op₁ Ans₁ β₁ × Config σ₂ ρ₂ Op₂ Ans₂ β₂} (h : R.Runs k k') : S.Runs k k' := by
  refine Relation.ReflTransGen.mono (fun k k' hs => ?_) _ _ h
  cases hs with
  | left h => exact .left (Machine.Step.mono (hl _) h)
  | right h => exact .right (Machine.Step.mono (hr _) h)

/-- What the first machine does in a run of both. -/
theorem Runs.fst {R : Rules M₁ M₂} {k k' : Config σ₁ ρ₁ Op₁ Ans₁ β₁ × Config σ₂ ρ₂ Op₂ Ans₂ β₂} (h : R.Runs k k') :
    M₁.Runs Machine.anything k.1 k'.1 := by
  induction h with
  | refl => exact .refl
  | tail _ hs ih =>
    cases hs with
    | left h => exact .tail ih (Machine.Step.mono (fun _ _ _ => trivial) h)
    | right h => exact ih

/-- What the second machine does in a run of both. -/
theorem Runs.snd {R : Rules M₁ M₂} {k k' : Config σ₁ ρ₁ Op₁ Ans₁ β₁ × Config σ₂ ρ₂ Op₂ Ans₂ β₂} (h : R.Runs k k') :
    M₂.Runs Machine.anything k.2 k'.2 := by
  induction h with
  | refl => exact .refl
  | tail _ hs ih =>
    cases hs with
    | left h => exact ih
    | right h => exact .tail ih (Machine.Step.mono (fun _ _ _ => trivial) h)

theorem Runs.of_and {R S : Rules M₁ M₂} {k k' : Config σ₁ ρ₁ Op₁ Ans₁ β₁ × Config σ₂ ρ₂ Op₂ Ans₂ β₂}
    (h : (R.and S).Runs k k') : R.Runs k k' :=
  Runs.mono (R := R.and S) (fun _ _ _ ha => ha.1) (fun _ _ _ ha => ha.1) h

/-- Every step that the rules and the protocols allow keeps `I`. -/
structure Keeps (R : Rules M₁ M₂) (P₁ : Protocol M₁) (P₂ : Protocol M₂)
    (I : World σ₁ ρ₁ Op₁ Ans₁ → World σ₂ ρ₂ Op₂ Ans₂ → Prop) : Prop where
  left : ∀ w₂, P₁.Keeps (R.left w₂) fun w₁ => I w₁ w₂
  right : ∀ w₁, P₂.Keeps (R.right w₁) fun w₂ => I w₁ w₂

variable {R : Rules M₁ M₂} {P₁ : Protocol M₁} {P₂ : Protocol M₂}
  {I : World σ₁ ρ₁ Op₁ Ans₁ → World σ₂ ρ₂ Op₂ Ans₂ → Prop}

/-- What every allowed step keeps holds in every run. -/
theorem invariant (hI : R.Keeps P₁ P₂ I) {k k' : Config σ₁ ρ₁ Op₁ Ans₁ β₁ × Config σ₂ ρ₂ Op₂ Ans₂ β₂}
    (h₁ : P₁.Obeyed k.1) (h₂ : P₂.Obeyed k.2) (hk : I k.1.world k.2.world) (hr : R.Runs k k') :
    I k'.1.world k'.2.world := by
  have hall : P₁.Obeyed k'.1 ∧ P₂.Obeyed k'.2 ∧ I k'.1.world k'.2.world := by
    induction hr with
    | refl => exact ⟨h₁, h₂, hk⟩
    | tail _ hs ih =>
      obtain ⟨ho₁, ho₂, hi⟩ := ih
      cases hs with
      | left h => exact ⟨ho₁.step h, ho₂, (hI.left _).step ho₁ hi h⟩
      | right h => exact ⟨ho₁, ho₂.step h, (hI.right _).step ho₂ hi h⟩
  exact hall.2.2

end Rules

end Interleave
