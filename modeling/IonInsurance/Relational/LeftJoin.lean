import Mathlib.Data.List.Basic

/-!
# Left joins

A left join pairs each row with each of its matches, or with NULL if it has none.  Every row stays, and it stays once
exactly if it has at most one match.
-/

namespace Relational

variable {α β : Type}

/-- What a row is paired with: its matches, or NULL. -/
def orNull : List β → List (Option β)
  | [] => [none]
  | b :: bs => some b :: bs.map some

def leftJoin (rows : List α) (partners : α → List β) : List (α × Option β) :=
  rows.flatMap fun a => (orNull (partners a)).map fun b => (a, b)

theorem mem_orNull {bs : List β} {b : β} : some b ∈ orNull bs ↔ b ∈ bs := by
  cases bs with
  | nil => simp [orNull]
  | cons b' bs => simp [orNull]

theorem length_orNull (bs : List β) : (orNull bs).length = max 1 bs.length := by
  cases bs with
  | nil => rfl
  | cons b bs =>
    simp only [orNull, List.length_cons, List.length_map]
    omega

variable {rows : List α} {partners : α → List β}

/-- A row and a match are paired. -/
theorem mem_leftJoin {a : α} {b : β} : (a, some b) ∈ leftJoin rows partners ↔ a ∈ rows ∧ b ∈ partners a := by
  unfold leftJoin
  rw [List.mem_flatMap]
  constructor
  · rintro ⟨a', ha', hpair⟩
    obtain ⟨b', hb', heq⟩ := List.mem_map.1 hpair
    obtain ⟨rfl, rfl⟩ := Prod.mk.inj heq
    exact ⟨ha', mem_orNull.1 hb'⟩
  · intro h
    exact ⟨a, h.1, List.mem_map.2 ⟨some b, mem_orNull.2 h.2, rfl⟩⟩

/-- A pair is of one of the rows. -/
theorem mem_rows_of_mem_leftJoin {x : α × Option β} (h : x ∈ leftJoin rows partners) : x.1 ∈ rows := by
  unfold leftJoin at h
  obtain ⟨a, ha, hpair⟩ := List.mem_flatMap.1 h
  obtain ⟨b, -, rfl⟩ := List.mem_map.1 hpair
  exact ha

/-- Every row is in a pair. -/
theorem exists_mem_leftJoin {a : α} (ha : a ∈ rows) : ∃ b, (a, b) ∈ leftJoin rows partners := by
  have hlength := length_orNull (partners a)
  have hpos : 0 < (orNull (partners a)).length := by omega
  obtain ⟨b, hb⟩ := List.exists_mem_of_length_pos hpos
  exact ⟨b, List.mem_flatMap.2 ⟨a, ha, List.mem_map.2 ⟨b, hb, rfl⟩⟩⟩

/-- A condition on the rows can be tested before or after the join. -/
theorem filter_leftJoin (p : α → Bool) :
    (leftJoin rows partners).filter (fun x => p x.1) = leftJoin (rows.filter p) partners := by
  unfold leftJoin
  induction rows with
  | nil => rfl
  | cons a rows ih =>
    rw [List.flatMap_cons, List.filter_append, ih, List.filter_map]
    by_cases hp : p a = true
    · rw [List.filter_cons_of_pos hp, List.flatMap_cons]
      congr 2
      apply List.filter_eq_self.2
      intro b _
      exact hp
    · have hnone : (orNull (partners a)).filter ((fun x : α × Option β => p x.1) ∘ fun b => (a, b)) = [] := by
        apply List.filter_eq_nil_iff.2
        intro b _
        exact hp
      rw [List.filter_cons_of_neg hp, hnone]
      rfl

/-- The order of the rows decides the order of the pairs only. -/
theorem leftJoin_perm {rows' : List α} (h : rows.Perm rows') : (leftJoin rows partners).Perm (leftJoin rows' partners) :=
  h.flatMap_right _

/-- Without a second match for any row, the join keeps the rows one by one. -/
theorem leftJoin_of_length_le (h : ∀ a ∈ rows, (partners a).length ≤ 1) :
    leftJoin rows partners = rows.map fun a => (a, (partners a).head?) := by
  unfold leftJoin
  induction rows with
  | nil => rfl
  | cons a rows ih =>
    have hone : (orNull (partners a)).map (fun b => (a, b)) = [(a, (partners a).head?)] := by
      have hlength := h a List.mem_cons_self
      cases hp : partners a with
      | nil => rfl
      | cons b bs =>
        rw [hp, List.length_cons] at hlength
        obtain rfl : bs = [] := List.length_eq_zero_iff.1 (by omega)
        rfl
    rw [List.flatMap_cons, ih fun a' ha' => h a' (List.mem_cons_of_mem _ ha'), hone]
    rfl

end Relational
