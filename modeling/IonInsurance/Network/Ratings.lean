import IonInsurance.Bpp.Quote
import IonInsurance.Bpp.Ratings
import IonInsurance.Network.Encoding

/-!
# Ratings across the network

The BAP leaves out a score that is not positive, the BPP truncates the score to a whole number, and the table takes the
numbers from one to five.  The answer is an `on_rate` in every case, so a rating that is answered has been stored only
if its score is one of these numbers.
-/

namespace IonInsurance.Network

open Interleave

/-- The score of a form, if it is a number. -/
def scoreOf (req : Fields) : Option ℚ := (req.get "score").num?

/-- One row is new: it has the id of the policy, and the score and the feedback of the form. -/
def Recorded (req : Fields) (policyID : Int) (ratings ratings' : List Bpp.Rating) : Prop :=
  ∃ score : Int, scoreOf req = some (score : ℚ) ∧ ratings' = ratings ++ [⟨policyID, score, (req.get "feedback").text⟩]

/-- The form gives no score that the table takes. -/
def Rejected (req : Fields) : Prop := ∀ q, scoreOf req = some q → q < 1 ∨ 5 < q

/-- A rating that is answered has been recorded, and one that the table rejects is not answered. -/
structure Acknowledges (req : Fields) (policyID : Int) (k k' : Bpp.BppConfig) : Prop where
  recorded : (∃ payload, Bpp.Answered k'.world k.progs.length "on_rate" payload) →
    Recorded req policyID k.world.store.ratings k'.world.store.ratings
  rejected : Rejected req → ¬∃ payload, Bpp.Answered k'.world k.progs.length "on_rate" payload

/-- The score is one of the numbers from one to five, and the table takes the feedback. -/
def Ratable (req : Fields) : Prop :=
  (∃ score : Int, scoreOf req = some (score : ℚ) ∧ 1 ≤ score ∧ score ≤ 5) ∧ fitsText (req.get "feedback").text = true

/-- The score of such a form arrives. -/
private theorem score_rateForm {req : Fields} {score : Int} (h : scoreOf req = some (score : ℚ)) (h₁ : 1 ≤ score)
    (h₅ : score ≤ 5) : (rateForm req).score = score := by
  have hfloat : (req.get "score").float = (score : ℚ) := by
    unfold Json.float
    unfold scoreOf at h
    rw [h, Option.getD_some]
  have hpos : (0 : ℚ) < (score : ℚ) := by
    exact_mod_cast Int.lt_of_lt_of_le (by decide) h₁
  have hfits : InInt64 (Arith.trunc (score : ℚ)) := by
    rw [Arith.trunc_intCast]
    constructor <;> omega
  show (if 0 < (req.get "score").float then int64 (req.get "score").float else 0) = score
  rw [hfloat, if_pos hpos, int64_of_inInt64 hfits, Arith.trunc_intCast]

/-- The row that the BPP stores for a message is the row of its form exactly for a form that can be rated. -/
private theorem fits_iff_ratable {req m : Fields} (hm : Bpp.rateInput m = rateForm req) (policyID : Int)
    (ratings : List Bpp.Rating) :
    (Bpp.rateInput m).Fits ∧ Recorded req policyID ratings (ratings ++ [(Bpp.rateInput m).row policyID]) ↔
      Ratable req := by
  rw [hm]
  constructor
  · rintro ⟨⟨htext, h₁, h₅⟩, score, hscore, hrow⟩
    have hstored : (rateForm req).score = score :=
      congrArg Bpp.Rating.score (List.singleton_inj.1 (List.append_cancel_left hrow))
    rw [hstored] at h₁ h₅
    exact ⟨⟨score, hscore, h₁, h₅⟩, htext⟩
  · rintro ⟨⟨score, hscore, h₁, h₅⟩, htext⟩
    have hstored := score_rateForm hscore h₁ h₅
    refine ⟨⟨htext, ?_, ?_⟩, score, hscore, ?_⟩
    · rw [hstored]
      exact h₁
    · rw [hstored]
      exact h₅
    · unfold Bpp.RateInput.row
      rw [hstored]
      rfl

/-- Whatever a form says, the rating that the BAP sends for it is handled as it is acknowledged exactly if its score is
one of the numbers from one to five, the table takes its feedback, and the database carries out the query and the
insertion. -/
theorem acknowledged_rating_stored_iff (s₁ : Bap.ClientService) (req : Fields) :
    Sends (Bap.handler s₁ (.rate req)) fun m =>
      ∀ (s₂ : Bpp.BecknService) (k : Bpp.BppConfig) (cs : Nat → Bpp.Choice) (p : Bpp.Policy), Bpp.Reachable s₂ k →
        k.world.store.policy (Bpp.transactionID m) = some p →
          (Acknowledges req p.id k ((Bpp.machine s₂).serve k (.rate m) cs) ↔
            Ratable req ∧ (cs 0).sqlError = none ∧ (cs 1).sqlError = none) := by
  refine Prog.Asks.mono (rate_decodes s₁ req) fun o ho path m hpost s₂ k cs p hk hp => ?_
  have hm : Bpp.rateInput m = rateForm req := ho path m hpost
  have hid : 0 < p.id := (Bpp.positiveIDs hk).rows _ p hp
  obtain ⟨hratings, hanswered⟩ := Bpp.serve_rate s₂ k m cs hp hid
  have hratable := fits_iff_ratable hm p.id k.world.store.ratings
  constructor
  · intro h
    have hrecorded := h.recorded hanswered
    rw [hratings] at hrecorded
    by_cases hstored : (cs 0).sqlError = none ∧ (cs 1).sqlError = none ∧ (Bpp.rateInput m).Fits
    · rw [if_pos hstored] at hrecorded
      exact ⟨hratable.1 ⟨hstored.2.2, hrecorded⟩, hstored.1, hstored.2.1⟩
    · -- no row is new
      rw [if_neg hstored] at hrecorded
      obtain ⟨score, -, hrow⟩ := hrecorded
      exact absurd hrow (by simp)
  · rintro ⟨hr, h₀, h₁⟩
    obtain ⟨hfits, hrecorded⟩ := hratable.2 hr
    refine ⟨fun _ => ?_, fun hrejected => ?_⟩
    · rw [hratings, if_pos ⟨h₀, h₁, hfits⟩]
      exact hrecorded
    · obtain ⟨score, hscore, hone, hfive⟩ := hr.1
      rcases hrejected _ hscore with hlow | hhigh
      · have hlt : score < 1 := by exact_mod_cast hlow
        omega
      · have hlt : 5 < score := by exact_mod_cast hhigh
        omega

/-! ### A rating that is stored, and one that is not -/

/-- A form that rates `t`. -/
private def ratingOf (t : String) (score : ℚ) : Fields :=
  [("transaction_id", .str t), ("score", .num score), ("feedback", .str "Fast claim")]

/-- The message that the BAP sends for it. -/
private def ratingSent (t : String) (score : ℚ) : Fields :=
  Bap.ratePayload (Bap.requestContext "rate" t "m1" Time.zero) t (ratingOf t score)

private theorem sends_ratingOf {P : Fields → Prop} {t : String} (ht : t ≠ "") {score : ℚ}
    (h : Sends (Bap.handler {} (.rate (ratingOf t score))) P) : P (ratingSent t score) := by
  have htxn : Bap.formTransactionID (ratingOf t score) = t := by
    simp [Bap.formTransactionID, ratingOf, stringOrDefault_empty]
  unfold Sends Bap.handler Bap.rate Bap.extractOrNew at h
  dsimp only at h
  rw [htxn, if_neg ht] at h
  exact (((h.2 "m1").2 Time.zero).2 (.ok ())).1 "rate" _ rfl

/-- The configuration after the init of `t`. -/
private def awaitingRating (t : String) : Bpp.BppConfig :=
  (Bpp.machine {}).serve Bpp.start (.init (Bpp.bareMessage t)) fun _ => {}

private theorem awaitingRating_row : ∃ p, (awaitingRating "t").world.store.policy "t" = some p :=
  Option.isSome_iff_exists.1 (by decide +kernel)

theorem acknowledged_rating_stored_iff_four : ∃ p, (awaitingRating "t").world.store.policy "t" = some p ∧
    Acknowledges (ratingOf "t" 4) p.id (awaitingRating "t")
      ((Bpp.machine {}).serve (awaitingRating "t") (.rate (ratingSent "t" 4)) fun _ => {}) := by
  obtain ⟨p, hp⟩ := awaitingRating_row
  have hiff := sends_ratingOf (t := "t") (by decide) (acknowledged_rating_stored_iff {} (ratingOf "t" 4))
  refine ⟨p, hp, (hiff {} (awaitingRating "t") (fun _ => {}) p (Machine.serve_runs ..) hp).2 ⟨⟨?_, ?_⟩, rfl, rfl⟩⟩
  · exact ⟨4, rfl, by decide, by decide⟩
  · decide +kernel

/-- A score of nine is not stored, and it is answered. -/
theorem rejected_rating_acknowledged :
    ¬∀ (s₁ : Bap.ClientService) (req : Fields), Sends (Bap.handler s₁ (.rate req)) fun m =>
      ∀ (s₂ : Bpp.BecknService) (k : Bpp.BppConfig) (cs : Nat → Bpp.Choice) (p : Bpp.Policy), Bpp.Reachable s₂ k →
        k.world.store.policy (Bpp.transactionID m) = some p → (∀ n, (cs n).sqlError = none) →
          Acknowledges req p.id k ((Bpp.machine s₂).serve k (.rate m) cs) := by
  intro hall
  obtain ⟨p, hp⟩ := awaitingRating_row
  let k := awaitingRating "t"
  have hack := sends_ratingOf (t := "t") (by decide) (hall {} (ratingOf "t" 9)) {} k (fun _ => {}) p
    (Machine.serve_runs ..) hp fun _ => rfl
  obtain ⟨score, -, hrow⟩ := hack.recorded
    (Bpp.serve_rate {} k (ratingSent "t" 9) (fun _ => {}) hp
      ((Bpp.positiveIDs (Machine.serve_runs ..)).rows "t" p hp)).2
  have hnone : ((Bpp.machine {}).serve k (.rate (ratingSent "t" 9)) fun _ => {}).world.store.ratings.length =
      k.world.store.ratings.length := by decide +kernel
  rw [hrow, List.length_append, List.length_singleton] at hnone
  omega

end IonInsurance.Network
