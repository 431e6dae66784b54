import Mathlib.Data.List.Basic

/-!
# Tables with a serial key

A table hands out positive keys in increasing order, so its rows stand in the order of their insertion, and the row with the
largest key is the one inserted last.  Rows may be updated but are never deleted.
-/

namespace Relational

variable {α : Type}

structure Table (α : Type) where
  rows : List (Int × α)
  next : Int
  ordered : rows.Pairwise fun x y => x.1 < y.1
  below : ∀ x ∈ rows, x.1 < next
  positive : 0 < next

namespace Table

def empty : Table α where
  rows := []
  next := 1
  ordered := .nil
  below := by
    intro x hx
    cases hx
  positive := Int.one_pos

instance : Inhabited (Table α) := ⟨empty⟩

/-- `INSERT … RETURNING id` gives `T.next`. -/
def insert (T : Table α) (a : α) : Table α where
  rows := T.rows ++ [(T.next, a)]
  next := T.next + 1
  ordered := by
    rw [List.pairwise_append]
    refine ⟨T.ordered, List.pairwise_singleton .., ?_⟩
    intro x hx y hy
    obtain rfl := List.mem_singleton.1 hy
    exact T.below x hx
  below := by
    intro x hx
    rcases List.mem_append.1 hx with hold | hnew
    · have hlt := T.below x hold
      omega
    · obtain rfl := List.mem_singleton.1 hnew
      exact Int.lt_succ T.next
  positive := Int.lt_trans T.positive (Int.lt_succ T.next)

/-- An insert that fails has drawn its key all the same. -/
def skip (T : Table α) : Table α where
  rows := T.rows
  next := T.next + 1
  ordered := T.ordered
  below x hx := Int.lt_trans (T.below x hx) (Int.lt_succ T.next)
  positive := Int.lt_trans T.positive (Int.lt_succ T.next)

/-- `UPDATE … SET … WHERE`: every row that passes the test is changed. -/
def update (T : Table α) (test : α → Bool) (f : α → α) : Table α where
  rows := T.rows.map fun x => (x.1, if test x.2 then f x.2 else x.2)
  next := T.next
  ordered := T.ordered.map _ fun _ _ h => h
  below := by
    intro x hx
    obtain ⟨y, hy, rfl⟩ := List.mem_map.1 hx
    exact T.below y hy
  positive := T.positive

/-- The row with that key. -/
def get? (T : Table α) (id : Int) : Option α := T.rows.lookup id

/-- The last row that passes the test. -/
def latest? (T : Table α) (test : α → Bool) : Option (Int × α) := (T.rows.filter fun x => test x.2).getLast?

variable {T : Table α} {test : α → Bool}

@[simp] theorem rows_empty : (empty : Table α).rows = [] := rfl

@[simp] theorem rows_insert (T : Table α) (a : α) : (T.insert a).rows = T.rows ++ [(T.next, a)] := rfl

@[simp] theorem rows_update (T : Table α) (test : α → Bool) (f : α → α) :
    (T.update test f).rows = T.rows.map fun x => (x.1, if test x.2 then f x.2 else x.2) := rfl

@[simp] theorem next_insert (T : Table α) (a : α) : (T.insert a).next = T.next + 1 := rfl

theorem latest?_insert (T : Table α) (test : α → Bool) (a : α) :
    (T.insert a).latest? test = if test a then some (T.next, a) else T.latest? test := by
  unfold latest?
  rw [rows_insert, List.filter_append]
  by_cases h : test a = true
  · simp only [List.filter_cons, h, if_true, List.filter_nil, List.getLast?_concat]
  · simp only [List.filter_cons, h, Bool.false_eq_true, if_false, List.filter_nil, List.append_nil]

/-- An update of the rows that a test finds changes the last of them, if the test still finds them. -/
theorem latest?_update (T : Table α) {f : α → α} (h : ∀ a, test a = true → test (f a) = true) :
    (T.update test f).latest? test = (T.latest? test).map fun x => (x.1, f x.2) := by
  unfold latest?
  rw [rows_update, List.filter_map, ← List.getLast?_map]
  congr 1
  induction T.rows with
  | nil => rfl
  | cons x rows ih =>
    by_cases hx : test x.2 = true
    · have hafter : test (f x.2) = true := h x.2 hx
      simp only [List.filter_cons, Function.comp_apply, hx, hafter, if_true, List.map_cons]
      exact congrArg _ ih
    · simp only [List.filter_cons, Function.comp_apply, hx, Bool.false_eq_true, if_false]
      exact ih

/-- An update that another test does not see. -/
theorem latest?_update_of_disjoint (T : Table α) {test' : α → Bool} {f : α → α}
    (h : ∀ a, test' a = true → test a = false ∧ test (f a) = false) :
    (T.update test' f).latest? test = T.latest? test := by
  unfold latest?
  rw [rows_update]
  congr 1
  induction T.rows with
  | nil => rfl
  | cons x rows ih =>
    rw [List.map_cons]
    by_cases hx : test' x.2 = true
    · obtain ⟨hbefore, hafter⟩ := h x.2 hx
      rw [if_pos hx, List.filter_cons_of_neg (Bool.not_eq_true _ ▸ hafter),
        List.filter_cons_of_neg (Bool.not_eq_true _ ▸ hbefore), ih]
    · rw [if_neg hx, List.filter_cons, List.filter_cons, ih]

/-- A key finds its row, and no other. -/
theorem get?_eq_some_iff {id : Int} {a : α} : T.get? id = some a ↔ (id, a) ∈ T.rows := by
  unfold get?
  have hordered := T.ordered
  generalize T.rows = rows at hordered ⊢
  induction rows with
  | nil => simp
  | cons x rows ih =>
    obtain ⟨key, b⟩ := x
    rw [List.pairwise_cons] at hordered
    rw [List.lookup_cons]
    by_cases hkey : id = key
    · subst hkey
      rw [beq_self_eq_true]
      constructor
      · intro h
        rw [Option.some.inj h]
        exact List.mem_cons_self
      · intro h
        rcases List.mem_cons.1 h with heq | hrest
        · rw [(Prod.mk.inj heq).2]
        · have hlt := hordered.1 _ hrest
          omega
    · rw [beq_false_of_ne hkey, List.mem_cons]
      refine (ih hordered.2).trans ?_
      constructor
      · exact .inr
      · intro h
        rcases h with heq | hrest
        · exact absurd (Prod.mk.inj heq).1 hkey
        · exact hrest

end Table

end Relational
