import Mathlib.Algebra.BigOperators.Group.Finset.Basic
import Mathlib.Algebra.BigOperators.Group.Finset.Sigma
import Mathlib.Algebra.BigOperators.Group.List.Basic
import Mathlib.Algebra.BigOperators.Ring.Finset
import Mathlib.Tactic.Ring
import IonInsurance.Interleave.Machine

/-!
# Sums over a history

A quantity that operations add to the store can be read off the trace, event by event, or program by program.
-/

namespace Interleave

variable {σ ρ Op : Type} {Ans : Op → Type} {R : Type} [AddCommMonoid R]

/-- What the operations of a trace add up to. -/
def traceSum (g : Prog.Exchange Op Ans → R) : List (Event σ ρ Op Ans) → R
  | [] => 0
  | .start .. :: l => traceSum g l
  | .exec _ _ o a :: l => g ⟨o, a⟩ + traceSum g l

/-- The sum of the amounts booked under the key `i`. -/
def bookedTo {κ : Type} [DecidableEq κ] (i : κ) (l : List (κ × R)) : R :=
  ((l.filter fun x => x.1 = i).map Prod.snd).sum

theorem bookedTo_append {κ : Type} [DecidableEq κ] (i : κ) (l l' : List (κ × R)) :
    bookedTo i (l ++ l') = bookedTo i l + bookedTo i l' := by
  simp [bookedTo]

end Interleave
