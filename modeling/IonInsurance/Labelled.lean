import Mathlib.Data.List.Basic

/-!
# Labelled lines

A message of fields, each after its label, with a separator between them.  If no label and no field holds the separator,
the message says what the fields are: what the fields look like otherwise does not matter.
-/

namespace IonInsurance.Labelled

variable {α : Type}

/-- The fields after their labels, with `sep` between them. -/
def message (sep : α) (fields : List (List α × List α)) : List α :=
  [sep].intercalate (fields.map fun f => f.1 ++ f.2)

/-- Under the same labels, the same lines have the same fields. -/
theorem eq_of_lines_eq {fields fields' : List (List α × List α)}
    (hlabels : fields.map Prod.fst = fields'.map Prod.fst)
    (hlines : (fields.map fun f => f.1 ++ f.2) = fields'.map fun f => f.1 ++ f.2) : fields = fields' := by
  induction fields generalizing fields' with
  | nil => exact (List.map_eq_nil_iff.1 hlabels.symm).symm
  | cons f fields ih =>
    cases fields' with
    | nil => cases hlabels
    | cons f' fields' =>
      rw [List.map_cons, List.map_cons, List.cons.injEq] at hlabels hlines
      have hvalue : f.2 = f'.2 := by
        have hline := hlines.1
        rw [hlabels.1] at hline
        exact List.append_cancel_left hline
      rw [Prod.ext hlabels.1 hvalue, ih hlabels.2 hlines.2]

variable [DecidableEq α]

/-- Two messages with the same labels are the same only if their fields are. -/
theorem message_injective {sep : α} {fields fields' : List (List α × List α)}
    (hlabels : fields.map Prod.fst = fields'.map Prod.fst) (h : ∀ f ∈ fields, sep ∉ f.1 ∧ sep ∉ f.2)
    (h' : ∀ f ∈ fields', sep ∉ f.1 ∧ sep ∉ f.2) (heq : message sep fields = message sep fields') :
    fields = fields' := by
  have hfree : ∀ fs : List (List α × List α), (∀ f ∈ fs, sep ∉ f.1 ∧ sep ∉ f.2) →
      ∀ l ∈ fs.map fun f => f.1 ++ f.2, sep ∉ l := by
    intro fs hfs l hl
    obtain ⟨f, hf, rfl⟩ := List.mem_map.1 hl
    rw [List.mem_append]
    exact fun hmem => hmem.elim (hfs f hf).1 (hfs f hf).2
  cases fields with
  | nil => exact (List.map_eq_nil_iff.1 hlabels.symm).symm
  | cons f fields =>
    cases fields' with
    | nil => cases hlabels
    | cons f' fields' =>
      apply eq_of_lines_eq hlabels
      rw [← List.splitOn_intercalate sep (hfree _ h) (by simp), ← List.splitOn_intercalate sep (hfree _ h') (by simp)]
      exact congrArg _ heq

end IonInsurance.Labelled
