import Mathlib.Data.List.Basic

/-!
# Changes inside of nested values

A value may have children, each under a key, and a path of keys leads to a value inside of it.  `ChangedAt` says that a
value is another one but for what lies at one path, and what it says of the values along the path; what the two values
have at any other path follows.
-/

namespace IonInsurance.Nested

variable {ν κ : Type} (child : ν → κ → Option ν)

/-- The child under `k`, if there is one. -/
def below (x : Option ν) (k : κ) : Option ν := x.bind fun v => child v k

/-- The value at the end of a path, if it leads to one. -/
def walk (x : Option ν) (p : List κ) : Option ν := p.foldl (below child) x

@[simp] theorem walk_nil (x : Option ν) : walk child x [] = x := rfl

@[simp] theorem walk_cons (x : Option ν) (k : κ) (p : List κ) : walk child x (k :: p) = walk child (below child x k) p :=
  rfl

theorem walk_append (x : Option ν) (p q : List κ) : walk child x (p ++ q) = walk child (walk child x p) q :=
  List.foldl_append

@[simp] theorem walk_none (p : List κ) : walk child none p = none := by
  induction p with
  | nil => rfl
  | cons k p ih => exact ih

/-- `y` is `x` but for what lies at a path: the values at its end are related by `R`, those before it by `S`. -/
def ChangedAt (S R : Option ν → Option ν → Prop) : List κ → Option ν → Option ν → Prop
  | [], x, y => R x y
  | k :: p, x, y =>
    S x y ∧ (∀ k', k' ≠ k → below child y k' = below child x k') ∧ ChangedAt S R p (below child x k) (below child y k)

namespace ChangedAt

variable {child} {S R : Option ν → Option ν → Prop} {x y : Option ν} {p : List κ}

/-- A value is changed nowhere. -/
protected theorem refl (hS : ∀ x, S x x) (hR : ∀ x, R x x) (p : List κ) (x : Option ν) :
    ChangedAt child S R p x x := by
  induction p generalizing x with
  | nil => exact hR x
  | cons k p ih => exact ⟨hS x, fun _ _ => rfl, ih (below child x k)⟩

/-- What lies at the end of the path. -/
theorem at_end (h : ChangedAt child S R p x y) : R (walk child x p) (walk child y p) := by
  induction p generalizing x y with
  | nil => exact h
  | cons k p ih => exact ih h.2.2

/-- What lies along the path. -/
theorem along {r : List κ} (h : ChangedAt child S R p x y) (hr : r <+: p) (hne : r ≠ p) :
    S (walk child x r) (walk child y r) := by
  induction p generalizing x y r with
  | nil => exact absurd (List.prefix_nil.1 hr) hne
  | cons k p ih =>
    cases r with
    | nil => exact h.1
    | cons k' r =>
      obtain ⟨rfl, hrp⟩ := List.cons_prefix_cons.1 hr
      show S (walk child (below child x k') r) (walk child (below child y k') r)
      exact ih h.2.2 hrp fun heq => hne (by rw [heq])

/-- Nothing is changed at a path that the changed one neither leads to nor passes. -/
theorem outside {r : List κ} (h : ChangedAt child S R p x y) (hr : ¬r <+: p) (hp : ¬p <+: r) :
    walk child y r = walk child x r := by
  induction p generalizing x y r with
  | nil => exact absurd List.nil_prefix hp
  | cons k p ih =>
    cases r with
    | nil => exact absurd List.nil_prefix hr
    | cons k' r =>
      rw [walk_cons, walk_cons]
      by_cases hk : k' = k
      · subst hk
        apply ih h.2.2
        · exact fun hrp => hr (List.cons_prefix_cons.2 ⟨rfl, hrp⟩)
        · exact fun hpr => hp (List.cons_prefix_cons.2 ⟨rfl, hpr⟩)
      · rw [h.2.1 k' hk]

end ChangedAt

end IonInsurance.Nested
