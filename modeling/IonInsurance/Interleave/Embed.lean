import IonInsurance.Interleave.Prog

/-!
# A program inside a larger one

A program for some operations is run by a service that has further ones: each operation is asked as one of the service,
and its answer is read back.
-/

namespace Interleave

namespace Prog

variable {Op Op' : Type} {Ans : Op → Type} {Ans' : Op' → Type} {β : Type}
variable {f : Op → Op'} {g : (o : Op) → Ans' (f o) → Ans o}

/-- The program that asks `f o` where `p` asks `o`. -/
def embed (f : Op → Op') (g : (o : Op) → Ans' (f o) → Ans o) : Prog Op Ans β → Prog Op' Ans' β
  | ret b => ret b
  | ask o next => ask (f o) fun a => (next (g o a)).embed f g

/-- The operations of an embedded program are those of the program. -/
theorem embed_asks {A : Op' → Prop} {p : Prog Op Ans β} (hp : p.Asks fun o => A (f o)) : (p.embed f g).Asks A := by
  induction p with
  | ret b => trivial
  | ask o next ih => exact ⟨hp.1, fun a => ih (g o a) (hp.2 (g o a))⟩

end Prog

end Interleave
