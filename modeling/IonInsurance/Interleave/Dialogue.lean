import IonInsurance.Interleave.Prog

/-!
# Dialogues

A program that runs alone is known by its dialogues: the operations it asks, with the answers it gets, and what it
returns after them.  The answers are arbitrary.
-/

namespace Interleave

namespace Prog

variable {Op : Type} {Ans : Op → Type} {α β : Type}

/-- With the answers of `h`, earliest first, `p` asks the operations of `h` and returns `b`. -/
inductive Dialogue : Prog Op Ans β → List (Exchange Op Ans) → β → Prop where
  | ret (b : β) : Dialogue (.ret b) [] b
  | ask (o : Op) {next : Ans o → Prog Op Ans β} (a : Ans o) {h : List (Exchange Op Ans)} {b : β}
      (hd : Dialogue (next a) h b) : Dialogue (.ask o next) (⟨o, a⟩ :: h) b

theorem dialogue_ret {b b' : β} {h : List (Exchange Op Ans)} (hd : Dialogue (.ret b) h b') : h = [] ∧ b' = b := by
  cases hd with
  | ret => exact ⟨rfl, rfl⟩

/-- A `do` block begins with its first operation. -/
theorem dialogue_call {o : Op} {f : Ans o → Prog Op Ans β} {h : List (Exchange Op Ans)} {b : β}
    (hd : Dialogue (call o >>= f) h b) : ∃ a h', h = ⟨o, a⟩ :: h' ∧ Dialogue (f a) h' b := by
  rw [call_bind] at hd
  cases hd with
  | ask o a hd => exact ⟨a, _, rfl, hd⟩

/-- The dialogue with a partner that answers every operation with `answer`. -/
def dialogue (answer : (o : Op) → Ans o) : Prog Op Ans β → List (Exchange Op Ans) × β
  | .ret b => ([], b)
  | .ask o next =>
    let (h, b) := (next (answer o)).dialogue answer
    (⟨o, answer o⟩ :: h, b)

theorem dialogue_spec (answer : (o : Op) → Ans o) (p : Prog Op Ans β) :
    p.Dialogue (p.dialogue answer).1 (p.dialogue answer).2 := by
  induction p with
  | ret b => exact .ret b
  | ask o next ih => exact .ask o (answer o) (ih (answer o))

end Prog

end Interleave
