import IonInsurance.Interleave.Machine

/-!
# Requests served to completion

`M.finish d p cs w` lets program `p` ask all its operations from the world `w`, without interruption, under the
choices `cs 0, cs 1, …`.  `M.serve` does so with the handler of a request; it is one of the runs of the machine
(`serve_runs`).  `M.Ends d p Q w` says that `p` ends with `Q` under all choices, and has a rule for each constructor.
-/

namespace Interleave

variable {σ χ ρ Op : Type} {Ans : Op → Type} {α β : Type}

namespace Machine

variable (M : Machine σ χ ρ Op Ans β)

def finish (d : Nat) : Prog Op Ans α → (Nat → χ) → World σ ρ Op Ans → α × World σ ρ Op Ans
  | .ret a, _, w => (a, w)
  | .ask o next, cs, w => finish d (next (M.answer w o (cs 0))) (fun n => cs (n + 1)) (M.asked w d o (cs 0))

/-- The configuration after the request `r` has been served to completion. -/
def serve (k : Config σ ρ Op Ans β) (r : ρ) (cs : Nat → χ) : Config σ ρ Op Ans β :=
  let e := M.finish k.progs.length (M.handler r) cs (k.world.started k.progs.length r)
  ⟨e.2, k.progs ++ [.ret e.1]⟩

/-- Requests served one after the other, each with its own choices. -/
def serveAll (k : Config σ ρ Op Ans β) (calls : List (ρ × (Nat → χ))) : Config σ ρ Op Ans β :=
  calls.foldl (fun k call => M.serve k call.1 call.2) k

@[simp] theorem serveAll_nil (k : Config σ ρ Op Ans β) : M.serveAll k [] = k := rfl

@[simp] theorem serveAll_cons (k : Config σ ρ Op Ans β) (call : ρ × (Nat → χ)) (calls : List (ρ × (Nat → χ))) :
    M.serveAll k (call :: calls) = M.serveAll (M.serve k call.1 call.2) calls := rfl

theorem serveAll_append (k : Config σ ρ Op Ans β) (calls calls' : List (ρ × (Nat → χ))) :
    M.serveAll k (calls ++ calls') = M.serveAll (M.serveAll k calls) calls' :=
  List.foldl_append

variable {M}

@[simp] theorem finish_ret (d : Nat) (a : α) (cs : Nat → χ) (w : World σ ρ Op Ans) :
    M.finish d (.ret a) cs w = (a, w) := rfl

@[simp] theorem finish_call (d : Nat) (o : Op) (f : Ans o → Prog Op Ans α) (cs : Nat → χ) (w : World σ ρ Op Ans) :
    M.finish d (Prog.call o >>= f) cs w =
      M.finish d (f (M.answer w o (cs 0))) (fun n => cs (n + 1)) (M.asked w d o (cs 0)) := rfl

@[simp] theorem finish_call_bind {γ : Type} (d : Nat) (o : Op) (g : Ans o → Prog Op Ans γ) (f : γ → Prog Op Ans α)
    (cs : Nat → χ) (w : World σ ρ Op Ans) :
    M.finish d ((Prog.call o >>= g) >>= f) cs w =
      M.finish d (g (M.answer w o (cs 0)) >>= f) (fun n => cs (n + 1)) (M.asked w d o (cs 0)) := rfl

@[simp] theorem finish_request? (d e : Nat) (p : Prog Op Ans α) (cs : Nat → χ) (w : World σ ρ Op Ans) :
    (M.finish d p cs w).2.request? e = w.request? e := by
  induction p generalizing cs w with
  | ret a => rfl
  | ask o next ih => exact ih ..

/-- The program of a served request. -/
theorem serve_request? (k : Config σ ρ Op Ans β) (r : ρ) (cs : Nat → χ) :
    (M.serve k r cs).world.request? k.progs.length = some r := by
  unfold serve
  rw [finish_request?, World.request?_started, if_pos rfl]

/-- Letting the last program finish is a run. -/
theorem finish_runs (p : Prog Op Ans β) (cs : Nat → χ) (w : World σ ρ Op Ans) (ps : List (Prog Op Ans β)) :
    M.Runs anything ⟨w, ps ++ [p]⟩
      ⟨(M.finish ps.length p cs w).2, ps ++ [.ret (M.finish ps.length p cs w).1]⟩ := by
  induction p generalizing cs w with
  | ret b => exact .refl
  | ask o next ih =>
    have hs : M.Step anything ⟨w, ps ++ [.ask o next]⟩
        ⟨M.asked w ps.length o (cs 0), ps ++ [next (M.answer w o (cs 0))]⟩ := by
      have h := Step.exec (M := M) (K := anything) (k := ⟨w, ps ++ [.ask o next]⟩) (d := ps.length) (cs 0)
        List.getElem?_concat_length trivial
      simpa using h
    exact .head hs (ih _ _ _)

/-- Serving a request to completion is a run. -/
theorem serve_runs (k : Config σ ρ Op Ans β) (r : ρ) (cs : Nat → χ) : M.Runs anything k (M.serve k r cs) :=
  .head (.start r trivial) (finish_runs (M.handler r) cs _ k.progs)

theorem serveAll_runs (k : Config σ ρ Op Ans β) (calls : List (ρ × (Nat → χ))) :
    M.Runs anything k (M.serveAll k calls) := by
  induction calls generalizing k with
  | nil => exact .refl
  | cons call calls ih => exact (serve_runs k call.1 call.2).trans (ih _)

/-- Run without interruption from `w` under any choices, `p` ends with `Q`. -/
def Ends (M : Machine σ χ ρ Op Ans β) (d : Nat) (p : Prog Op Ans α) (Q : α → World σ ρ Op Ans → Prop)
    (w : World σ ρ Op Ans) : Prop :=
  ∀ cs, Q (M.finish d p cs w).1 (M.finish d p cs w).2

variable {d : Nat} {Q : α → World σ ρ Op Ans → Prop} {w : World σ ρ Op Ans}

theorem ends_ret {a : α} (h : Q a w) : M.Ends d (.ret a) Q w := fun _ => h

theorem ends_ask {o : Op} {next : Ans o → Prog Op Ans α}
    (h : ∀ c, M.Ends d (next (M.answer w o c)) Q (M.asked w d o c)) : M.Ends d (.ask o next) Q w :=
  fun cs => h (cs 0) fun n => cs (n + 1)

/-- A predicate kept by every operation that the protocol allows `p` holds when `p` ends. -/
theorem ends_of_follows {A : List (Prog.Exchange Op Ans) → Op → Prop} {B : List (Prog.Exchange Op Ans) → α → Prop}
    {P : World σ ρ Op Ans → Prop} {p : Prog Op Ans α} (hp : p.Follows A B (w.exchanges d))
    (hA : ∀ w o c, P w → A (w.exchanges d) o → P (M.asked w d o c)) (hw : P w) : M.Ends d p (fun _ => P) w := by
  induction p generalizing w with
  | ret a => exact ends_ret hw
  | ask o next ih =>
    refine ends_ask fun c => ih _ ?_ (hA w o c hw hp.1)
    rw [exchanges_asked_self]
    exact hp.2 _

/-- What every operation that `p` can ask keeps holds of the store when `p` ends. -/
theorem ends_of_asks {A : Op → Prop} {P : σ → Prop} {p : Prog Op Ans α} (hp : p.Asks A)
    (hA : ∀ o c s, A o → P s → P (M.exec o c s).2) (hw : P w.store) : M.Ends d p (fun _ w => P w.store) w := by
  induction p generalizing w with
  | ret a => exact ends_ret hw
  | ask o next ih => exact ends_ask fun c => ih _ (hp.2 _) (hA o c w.store hp.1 hw)

end Machine

end Interleave
