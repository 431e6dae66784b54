import Mathlib.Data.List.AList

/-!
# Counting the rows of a keyed table

A table with a unique key is an association list without repeated keys.  If every row that one test finds has a
counterpart that another test finds, under the same key and perhaps in a later state of the table, the second test
finds at least as many.
-/

namespace Relational

variable {κ : Type} [DecidableEq κ] {α β : Type}

theorem mem_entries_iff {T : AList fun _ : κ => α} {k : κ} {a : α} :
    (⟨k, a⟩ : Sigma fun _ : κ => α) ∈ T.entries ↔ T.lookup k = some a :=
  AList.mem_lookup_iff.symm

/-- The keys of the rows that a test finds. -/
private theorem mem_keys_filter {T : AList fun _ : κ => α} {p : (Sigma fun _ : κ => α) → Bool} {k : κ} :
    k ∈ (T.entries.filter p).map Sigma.fst ↔ ∃ a, T.lookup k = some a ∧ p ⟨k, a⟩ = true := by
  rw [List.mem_map]
  constructor
  · rintro ⟨⟨k', a⟩, h, rfl⟩
    obtain ⟨hmem, hp⟩ := List.mem_filter.1 h
    exact ⟨a, mem_entries_iff.1 hmem, hp⟩
  · rintro ⟨a, hk, hp⟩
    exact ⟨⟨k, a⟩, List.mem_filter.2 ⟨mem_entries_iff.2 hk, hp⟩, rfl⟩

theorem countP_le_of_lookup {T : AList fun _ : κ => α} {U : AList fun _ : κ => β}
    {p : (Sigma fun _ : κ => α) → Bool} {q : (Sigma fun _ : κ => β) → Bool}
    (h : ∀ k a, T.lookup k = some a → p ⟨k, a⟩ = true → ∃ b, U.lookup k = some b ∧ q ⟨k, b⟩ = true) :
    T.entries.countP p ≤ U.entries.countP q := by
  have hnodup : ((T.entries.filter p).map Sigma.fst).Nodup := T.keys_nodup.sublist (List.filter_sublist.map _)
  have hsub : (T.entries.filter p).map Sigma.fst ⊆ (U.entries.filter q).map Sigma.fst := by
    intro k hk
    obtain ⟨a, ha, hp⟩ := mem_keys_filter.1 hk
    exact mem_keys_filter.2 (h k a ha hp)
  have hlength := hnodup.length_le_of_subset hsub
  rwa [List.length_map, List.length_map, ← List.countP_eq_length_filter, ← List.countP_eq_length_filter] at hlength

/-! ### Tests that exclude or cover each other -/

variable {p q r : α → Bool}

/-- Two tests that exclude each other find no more together than a test that both imply. -/
theorem countP_add_le (hpq : ∀ a, p a = true → q a = false) (hp : ∀ a, p a = true → r a = true)
    (hq : ∀ a, q a = true → r a = true) (l : List α) : l.countP p + l.countP q ≤ l.countP r := by
  induction l with
  | nil => exact Nat.le_refl 0
  | cons a l ih =>
    rw [List.countP_cons, List.countP_cons, List.countP_cons]
    cases hpa : p a with
    | true =>
      rw [hpq a hpa, hp a hpa]
      simp only [if_true, Bool.false_eq_true, if_false]
      omega
    | false =>
      cases hqa : q a with
      | true =>
        rw [hq a hqa]
        simp only [if_true, Bool.false_eq_true, if_false]
        omega
      | false =>
        simp only [Bool.false_eq_true, if_false]
        omega

/-- A test that implies one of two others finds no more than they do together. -/
theorem countP_le_add (h : ∀ a, r a = true → p a = true ∨ q a = true) (l : List α) :
    l.countP r ≤ l.countP p + l.countP q := by
  induction l with
  | nil => exact Nat.le_refl 0
  | cons a l ih =>
    rw [List.countP_cons, List.countP_cons, List.countP_cons]
    cases hra : r a with
    | true =>
      rcases h a hra with hpa | hqa
      · rw [hpa]
        simp only [if_true]
        omega
      · rw [hqa]
        simp only [if_true]
        omega
    | false =>
      simp only [Bool.false_eq_true, if_false]
      omega

end Relational
