import IonInsurance.Bpp.Answers
import IonInsurance.Bpp.Ledger

/-!
# Ratings

`HandleRate` looks up the id of the policy, inserts the rating, and answers `on_rate`.  It looks neither at the error of
the query nor at that of the insertion, so it answers whether the rating has been stored or not.
-/

namespace IonInsurance.Bpp

open Interleave

/-! ### Positive ids -/

/-- The sequence starts at one. -/
structure Db.PositiveIDs (s : Db) : Prop where
  next : 0 < s.nextPolicyID
  rows : ∀ t p, s.policy t = some p → 0 < p.id

theorem Db.PositiveIDs.exec {s : Db} (h : s.PositiveIDs) (o : Op) (c : Choice) : (Bpp.exec o c s).2.PositiveIDs := by
  have hnext := h.next
  rcases exec_ids o c s with ⟨hsame, hid⟩ | ⟨hsame, u, q, -, hqid, hq, hother⟩
  · refine ⟨by omega, fun t p hp => ?_⟩
    obtain ⟨q, hq, hpq⟩ := hid t p hp
    rw [hpq]
    exact h.rows t q hq
  · refine ⟨by omega, fun t p hp => ?_⟩
    by_cases htu : t = u
    · subst htu
      obtain rfl := Option.some.inj (hp.symm.trans hq)
      omega
    · rw [hother t htu] at hp
      exact h.rows t p hp

theorem positiveIDs {s : BecknService} {k : BppConfig} (h : Reachable s k) : k.world.store.PositiveIDs := by
  refine Machine.Runs.store h (fun w d o c _ hw => hw.exec o c) ⟨by decide, fun t p hp => ?_⟩
  cases hp

/-! ### A served rating -/

/-- What the table takes: a score from one to five. -/
def RateInput.Fits (input : RateInput) : Prop := fitsText input.feedback = true ∧ 1 ≤ input.score ∧ input.score ≤ 5

instance (input : RateInput) : Decidable input.Fits := inferInstanceAs (Decidable (_ ∧ _ ∧ _))

/-- The row for a rating. -/
def RateInput.row (input : RateInput) (policyID : Int) : Rating := ⟨policyID, input.score, input.feedback⟩

theorem ratings_insertRating (policyID : Int) (input : RateInput) (c : Choice) (db : Db) :
    (exec (.insertRating policyID input.score input.feedback) c db).2.ratings =
      if c.sqlError = none ∧ input.Fits then db.ratings ++ [input.row policyID] else db.ratings := by
  rw [exec]
  cases hc : c.sqlError with
  | some err =>
    rw [statement_some, if_neg]
    rintro ⟨herr, -⟩
    cases herr
  | none =>
    rw [statement_none, Db.insertRating]
    by_cases htext : fitsText input.feedback = true
    · rw [if_pos htext]
      by_cases hscore : 1 ≤ input.score ∧ input.score ≤ 5
      · rw [if_pos hscore, if_pos ⟨rfl, htext, hscore⟩]
        rfl
      · rw [if_neg hscore, if_neg fun h => hscore h.2.2]
    · rw [if_neg htext, if_neg fun h => htext h.2.1]

/-- A served rating is answered in any case, and it is stored if the database finds the policy and takes the row. -/
theorem serve_rate (s : BecknService) (k : BppConfig) (req : Fields) (cs : Nat → Choice) {p : Policy}
    (hp : k.world.store.policy (transactionID req) = some p) (hid : 0 < p.id) :
    ((machine s).serve k (.rate req) cs).world.store.ratings =
        (if (cs 0).sqlError = none ∧ (cs 1).sqlError = none ∧ (rateInput req).Fits
          then k.world.store.ratings ++ [(rateInput req).row p.id] else k.world.store.ratings) ∧
      ∃ payload, Answered ((machine s).serve k (.rate req) cs).world k.progs.length "on_rate" payload := by
  let d := k.progs.length
  let w₀ := k.world.started d (.rate req)
  let w₁ := (machine s).asked w₀ d (.selectID (transactionID req)) (cs 0)
  have hstore : w₁.store = k.world.store := statement_read ..
  show ((machine s).finish d (handleRate s req) cs w₀).2.store.ratings = _ ∧
    ∃ payload, Answered ((machine s).finish d (handleRate s req) cs w₀).2 d "on_rate" payload
  unfold handleRate
  dsimp only
  rw [Machine.finish_call]
  cases h₀ : (cs 0).sqlError with
  | some err =>
    have hanswer : (machine s).answer w₀ (.selectID (transactionID req)) (cs 0) = .error err := by
      simp only [Machine.answer, machine, exec, h₀, statement_some]
      rfl
    rw [hanswer]
    -- the policy counts as missing, and nothing is inserted
    obtain ⟨hend, t₁, t₂, hanswered⟩ := finish_respond (s := s) (d := d) (w := w₁) req "on_rate"
      (fun context => onRate context (transactionID req)) fun n => cs (n + 1)
    have hnone : ¬(some err = (none : Option String) ∧ (cs 1).sqlError = none ∧ (rateInput req).Fits) := by
      rintro ⟨herr, -⟩
      cases herr
    rw [if_neg hnone]
    exact ⟨(congrArg Db.ratings hend).trans (congrArg Db.ratings hstore), _, hanswered⟩
  | none =>
    have hp₀ : w₀.store.policy (transactionID req) = some p := hp
    have hanswer : (machine s).answer w₀ (.selectID (transactionID req)) (cs 0) = .ok p.id := by
      simp only [Machine.answer, machine, exec, h₀, statement_none, Db.selectPolicy, hp₀]
      rfl
    rw [hanswer]
    have hpos : (Except.ok p.id : Except String Int).toOption.getD 0 > 0 := hid
    rw [if_pos hpos, Machine.finish_call]
    let w₂ := (machine s).asked w₁ d (.insertRating p.id (rateInput req).score (rateInput req).feedback) (cs 1)
    obtain ⟨hend, t₁, t₂, hanswered⟩ := finish_respond (s := s) (d := d) (w := w₂) req "on_rate"
      (fun context => onRate context (transactionID req)) fun n => cs (n + 2)
    refine ⟨(congrArg Db.ratings hend).trans ?_, _, hanswered⟩
    show (exec (.insertRating p.id (rateInput req).score (rateInput req).feedback) (cs 1) w₁.store).2.ratings = _
    rw [ratings_insertRating, hstore]
    simp only [true_and]

end IonInsurance.Bpp
