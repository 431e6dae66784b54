import IonInsurance.Interleave.Machine

/-!
# Stores that only grow

If no operation takes back what the store holds, the store at any point of a run lies below every later one.  So what an
operation has seen lies between the store before its program was started and the store at the end.
-/

namespace Interleave

variable {σ χ ρ Op : Type} {Ans : Op → Type} {β : Type}

namespace Machine

/-- Every operation leaves the store at least as large, in the order `R`. -/
structure Grows (M : Machine σ χ ρ Op Ans β) (R : σ → σ → Prop) : Prop where
  refl : ∀ s, R s s
  trans : ∀ {s t u}, R s t → R t u → R s u
  exec : ∀ o c s, R s (M.exec o c s).2

variable {M : Machine σ χ ρ Op Ans β} {R : σ → σ → Prop} {K : World σ ρ Op Ans → Action χ ρ Op → Prop}
  {k k' : Config σ ρ Op Ans β}

/-- The store grows along a run. -/
theorem Grows.run (hM : M.Grows R) (hr : M.Runs K k k') : R k.world.store k'.world.store := by
  refine hr.store (P := fun s => R k.world.store s) ?_ (hM.refl _)
  intro w d o c _ h
  exact hM.trans h (hM.exec o c w.store)

/-- An operation of a run was asked before the run, or of a store between the first and the last one. -/
theorem Grows.asked (hM : M.Grows R) (hr : M.Runs K k k') {d : Nat} {s : σ} {o : Op} {a : Ans o}
    (hev : .exec d s o a ∈ k'.world.trace) :
    .exec d s o a ∈ k.world.trace ∨
      (R k.world.store s ∧ R s k'.world.store ∧ ∃ c, a = (M.exec o c s).1) := by
  induction hr with
  | refl => exact .inl hev
  | @tail k₁ _ hr hs ih =>
    cases hs with
    | start r hK =>
      rcases List.mem_cons.1 hev with hnew | hold
      · cases hnew
      · exact ih hold
    | @exec e o' next c hp hK =>
      rcases List.mem_cons.1 hev with hnew | hold
      · cases hnew
        exact .inr ⟨hM.run hr, hM.exec o c _, c, rfl⟩
      · rcases ih hold with hbefore | ⟨hbelow, habove, hanswer⟩
        · exact .inl hbefore
        · exact .inr ⟨hbelow, hM.trans habove (hM.exec o' c _), hanswer⟩

/-- What a program that was not yet started in `k` has asked, it asked of a store between those of `k` and `k'`. -/
theorem Grows.exchange (hM : M.Grows R) (hr : M.Runs K k k') {d : Nat} (hd : k.world.exchanges d = []) {o : Op} {a : Ans o}
    (hx : ⟨o, a⟩ ∈ k'.world.exchanges d) :
    ∃ s, R k.world.store s ∧ R s k'.world.store ∧ ∃ c, a = (M.exec o c s).1 := by
  obtain ⟨s, hev⟩ := World.mem_exchanges.1 hx
  rcases hM.asked hr hev with hbefore | hbetween
  · have hmem : ⟨o, a⟩ ∈ k.world.exchanges d := World.mem_exchanges.2 ⟨s, hbefore⟩
    rw [hd] at hmem
    cases hmem
  · exact ⟨s, hbetween⟩

end Machine

end Interleave
