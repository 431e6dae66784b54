import Mathlib.Init

/-!
# Programs that ask operations

A `Prog Op Ans β` asks operations one at a time and continues with the answer to each, until it returns a value of
type `β`.  Between two operations a program does nothing that anyone else can see, so the operations are the points
at which several programs may interleave.
-/

namespace Interleave

/-- A program over operations `o : Op` answered in `Ans o`, returning a `β`. -/
inductive Prog (Op : Type) (Ans : Op → Type) (β : Type) : Type where
  | ret (b : β)
  | ask (o : Op) (next : Ans o → Prog Op Ans β)

namespace Prog

variable {Op : Type} {Ans : Op → Type} {α β : Type}

def bind : Prog Op Ans α → (α → Prog Op Ans β) → Prog Op Ans β
  | ret a, f => f a
  | ask o next, f => ask o fun a => (next a).bind f

instance : Monad (Prog Op Ans) where
  pure := ret
  bind := bind

/-- The program that asks `o` and returns its answer. -/
def call (o : Op) : Prog Op Ans (Ans o) := ask o ret

@[simp] theorem pure_eq (a : α) : (pure a : Prog Op Ans α) = ret a := rfl

@[simp] theorem ret_bind (a : α) (f : α → Prog Op Ans β) : (ret a >>= f) = f a := rfl

@[simp] theorem ask_bind (o : Op) (next : Ans o → Prog Op Ans α) (f : α → Prog Op Ans β) :
    (ask o next >>= f) = ask o fun a => next a >>= f := rfl

@[simp] theorem call_bind (o : Op) (f : Ans o → Prog Op Ans β) : (call o >>= f) = ask o f := rfl

theorem bind_assoc {γ : Type} (p : Prog Op Ans α) (f : α → Prog Op Ans β) (g : β → Prog Op Ans γ) :
    p >>= f >>= g = p >>= fun a => f a >>= g := by
  induction p with
  | ret a => rfl
  | ask o next ih =>
    show ask o (fun a => next a >>= f >>= g) = ask o fun a => next a >>= fun a => f a >>= g
    simp only [ih]

/-! ### The operations a program can ask -/

/-- Whatever the answers, `p` asks only operations in `A`. -/
def Asks (A : Op → Prop) : Prog Op Ans β → Prop
  | ret _ => True
  | ask o next => A o ∧ ∀ a, (next a).Asks A

theorem Asks.bind {A : Op → Prop} {p : Prog Op Ans α} {f : α → Prog Op Ans β} (hp : p.Asks A)
    (hf : ∀ a, (f a).Asks A) : (p >>= f).Asks A := by
  induction p with
  | ret a => exact hf a
  | ask o next ih => exact ⟨hp.1, fun a => ih a (hp.2 a)⟩

/-- Every program asks some operations. -/
theorem asks_of_forall {A : Op → Prop} (h : ∀ o, A o) (p : Prog Op Ans β) : p.Asks A := by
  induction p with
  | ret b => trivial
  | ask o next ih => exact ⟨h o, ih⟩

theorem Asks.mono {A B : Op → Prop} {p : Prog Op Ans β} (hp : p.Asks A) (h : ∀ o, A o → B o) : p.Asks B := by
  induction p with
  | ret b => trivial
  | ask o next ih => exact ⟨h o hp.1, fun a => ih a (hp.2 a)⟩

/-- Whatever the answers, what `p` returns is in `B`. -/
def Yields (B : β → Prop) : Prog Op Ans β → Prop
  | ret b => B b
  | ask _ next => ∀ a, (next a).Yields B

theorem yields_bind {B : β → Prop} {f : α → Prog Op Ans β} (hf : ∀ a, (f a).Yields B) (p : Prog Op Ans α) :
    (p >>= f).Yields B := by
  induction p with
  | ret a => exact hf a
  | ask o next ih => exact ih

theorem Yields.mono {B B' : β → Prop} {p : Prog Op Ans β} (hp : p.Yields B) (h : ∀ b, B b → B' b) : p.Yields B' := by
  induction p with
  | ret b => exact h b hp
  | ask o next ih => exact fun a => ih a (hp a)

/-! ### Protocols -/

/-- An operation with its answer. -/
abbrev Exchange (Op : Type) (Ans : Op → Type) : Type := (o : Op) × Ans o

/-- After the exchanges `h`, latest first, `p` asks only what `A` allows there, and returns only what `B` allows. -/
def Follows (A : List (Exchange Op Ans) → Op → Prop) (B : List (Exchange Op Ans) → β → Prop) :
    Prog Op Ans β → List (Exchange Op Ans) → Prop
  | ret b, h => B h b
  | ask o next, h => A h o ∧ ∀ a, (next a).Follows A B (⟨o, a⟩ :: h)

variable {A : List (Exchange Op Ans) → Op → Prop} {B : List (Exchange Op Ans) → β → Prop}

/-- The rule for the first operation of a `do` block. -/
theorem follows_call {o : Op} {f : Ans o → Prog Op Ans β} {h : List (Exchange Op Ans)} (ho : A h o)
    (hf : ∀ a, (f a).Follows A B (⟨o, a⟩ :: h)) : (call o >>= f).Follows A B h :=
  ⟨ho, hf⟩

theorem Follows.bind {C : List (Exchange Op Ans) → α → Prop} {p : Prog Op Ans α} {f : α → Prog Op Ans β}
    {h : List (Exchange Op Ans)} (hp : p.Follows A C h) (hf : ∀ h a, C h a → (f a).Follows A B h) :
    (p >>= f).Follows A B h := by
  induction p generalizing h with
  | ret a => exact hf h a hp
  | ask o next ih => exact ⟨hp.1, fun a => ih a (hp.2 a)⟩

/-- A program that asks only operations in `Q` follows `A`, and its history keeps `J`. -/
theorem Asks.follows {Q : Op → Prop} {J : List (Exchange Op Ans) → Prop} {p : Prog Op Ans β}
    {h : List (Exchange Op Ans)} (hp : p.Asks Q) (hA : ∀ h o, J h → Q o → A h o)
    (hJ : ∀ h o a, J h → Q o → J (⟨o, a⟩ :: h)) (h₀ : J h) : p.Follows A (fun h _ => J h) h := by
  induction p generalizing h with
  | ret b => exact h₀
  | ask o next ih => exact ⟨hA h o h₀ hp.1, fun a => ih a (hp.2 a) (hJ h o a h₀ hp.1)⟩

theorem Follows.mono {B' : List (Exchange Op Ans) → β → Prop} {p : Prog Op Ans β} {h : List (Exchange Op Ans)}
    (hp : p.Follows A B h) (hB : ∀ h b, B h b → B' h b) : p.Follows A B' h := by
  induction p generalizing h with
  | ret b => exact hB h b hp
  | ask o next ih => exact ⟨hp.1, fun a => ih a (hp.2 a)⟩

theorem Follows.imp {A' : List (Exchange Op Ans) → Op → Prop} {p : Prog Op Ans β} {h : List (Exchange Op Ans)}
    (hp : p.Follows A B h) (hA : ∀ h o, A h o → A' h o) : p.Follows A' B h := by
  induction p generalizing h with
  | ret b => exact hp
  | ask o next ih => exact ⟨hA h o hp.1, fun a => ih a (hp.2 a)⟩

/-- A program that follows two protocols follows both at once. -/
theorem Follows.and {A' : List (Exchange Op Ans) → Op → Prop} {B' : List (Exchange Op Ans) → β → Prop}
    {p : Prog Op Ans β} {h : List (Exchange Op Ans)} (hp : p.Follows A B h) (hp' : p.Follows A' B' h) :
    p.Follows (fun h o => A h o ∧ A' h o) (fun h b => B h b ∧ B' h b) h := by
  induction p generalizing h with
  | ret b => exact ⟨hp, hp'⟩
  | ask o next ih => exact ⟨⟨hp.1, hp'.1⟩, fun a => ih a (hp.2 a) (hp'.2 a)⟩

end Prog

end Interleave
