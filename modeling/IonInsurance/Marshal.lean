import Mathlib.Data.List.Sort
import Mathlib.Data.String.Basic
import IonInsurance.Go

/-!
# Maps without an order

A `map[string]any` has no order, and `json.Marshal` writes its keys in theirs.  Two values are the same on the wire when
they are the same with all keys in order.
-/

namespace IonInsurance

/-- What a value is without what it holds. -/
inductive Kind : Type where
  | object
  | array (length : Nat)
  | leaf (v : Json)

def kind : Json → Kind
  | .obj _ => .object
  | .arr xs => .array xs.length
  | v => .leaf v

/-- The entries of a map in the order of their keys. -/
def byKey (m : Fields) : Fields := m.insertionSort fun e e' => e.1 ≤ e'.1

mutual

/-- A value with the keys of its maps in order. -/
def canonical : Json → Json
  | .arr xs => .arr (canonicalItems xs)
  | .obj m => .obj (byKey (canonicalFields m))
  | v => v

def canonicalItems : List Json → List Json
  | [] => []
  | x :: xs => canonical x :: canonicalItems xs

def canonicalFields : List (String × Json) → List (String × Json)
  | [] => []
  | (k, v) :: m => (k, canonical v) :: canonicalFields m

end

@[simp] theorem canonical_obj (m : Fields) : canonical (.obj m) = .obj (byKey (canonicalFields m)) := by
  simp only [canonical]

theorem canonicalFields_eq (m : Fields) : canonicalFields m = m.map fun e => (e.1, canonical e.2) := by
  induction m with
  | nil => simp only [canonicalFields, List.map_nil]
  | cons e m ih =>
    obtain ⟨k, v⟩ := e
    simp only [canonicalFields, ih, List.map_cons]

theorem keys_canonicalFields (m : Fields) : (canonicalFields m).map Prod.fst = m.map Prod.fst := by
  rw [canonicalFields_eq, List.map_map]
  rfl

theorem lookup_canonicalFields (m : Fields) (k : String) :
    (canonicalFields m).lookup k = (m.lookup k).map canonical := by
  induction m with
  | nil => simp only [canonicalFields, List.lookup_nil, Option.map_none]
  | cons e m ih =>
    obtain ⟨k', v⟩ := e
    simp only [canonicalFields, List.lookup_cons]
    cases k == k' with
    | true => rfl
    | false => exact ih

/-- In a map every entry is found under its key. -/
theorem lookup_eq_some_iff {m : Fields} (h : (m.map Prod.fst).Nodup) {k : String} {v : Json} :
    m.lookup k = some v ↔ (k, v) ∈ m := by
  induction m with
  | nil => simp
  | cons e m ih =>
    obtain ⟨k', v'⟩ := e
    rw [List.map_cons, List.nodup_cons] at h
    rw [List.lookup_cons, List.mem_cons]
    by_cases hk : k = k'
    · subst hk
      rw [beq_self_eq_true]
      have hrest : (k, v) ∉ m := fun hmem => h.1 (List.mem_map.2 ⟨_, hmem, rfl⟩)
      constructor
      · intro hv
        obtain rfl : v' = v := Option.some.inj hv
        exact .inl rfl
      · intro hmem
        rw [(Prod.mk.inj (hmem.resolve_right hrest)).2]
    · rw [beq_eq_false_iff_ne.2 hk, ih h.2]
      exact ⟨.inr, fun hmem => hmem.resolve_left fun heq => hk (Prod.mk.inj heq).1⟩

theorem Fields.lookup_set (m : Fields) (k k' : String) (v : Json) :
    (m.set k v).lookup k' = if k' = k then some v else m.lookup k' := by
  unfold Fields.set
  rw [List.lookup_cons]
  by_cases hk : k' = k
  · rw [if_pos hk, beq_iff_eq.2 hk]
  · rw [if_neg hk, beq_eq_false_iff_ne.2 hk]
    dsimp only
    induction m with
    | nil => rfl
    | cons e m ih =>
      rw [List.filter_cons, List.lookup_cons]
      by_cases he : e.1 = k
      · have hne : (k' == e.1) = false := beq_eq_false_iff_ne.2 fun h => hk (h.trans he)
        rw [if_neg (by simpa using he), hne]
        exact ih
      · rw [if_pos (decide_eq_true he), List.lookup_cons]
        cases k' == e.1 with
        | true => rfl
        | false => exact ih

theorem Fields.has_set_ne {k k' : String} (h : k' ≠ k) (m : Fields) (v : Json) : (m.set k v).has k' = m.has k' := by
  unfold Fields.has
  rw [Fields.lookup_set, if_neg h]

/-- An assignment keeps the keys of a map apart. -/
theorem Fields.nodup_set {m : Fields} (h : (m.map Prod.fst).Nodup) (k : String) (v : Json) :
    ((m.set k v).map Prod.fst).Nodup := by
  unfold Fields.set
  rw [List.map_cons, List.nodup_cons]
  constructor
  · intro hmem
    obtain ⟨e, he, hk⟩ := List.mem_map.1 hmem
    exact of_decide_eq_true (List.mem_filter.1 he).2 hk
  · exact h.sublist (List.filter_sublist.map Prod.fst)

/-- Maps with the same entries are the same in order. -/
theorem byKey_eq_iff {m m' : Fields} (h : (m.map Prod.fst).Nodup) : byKey m = byKey m' ↔ m.Perm m' := by
  have hperm : ∀ l : Fields, (byKey l).Perm l := fun l => List.perm_insertionSort _ l
  constructor
  · intro heq
    exact (hperm m).symm.trans (heq ▸ hperm m')
  · intro hmm'
    have hsorted : ∀ l : Fields, (byKey l).Pairwise fun e e' => e.1 ≤ e'.1 :=
      fun l => List.pairwise_insertionSort _ l
    refine List.Perm.eq_of_pairwise ?_ (hsorted m) (hsorted m') ((hperm m).trans (hmm'.trans (hperm m').symm))
    intro e e' he he' hle hge
    have hkey : e.1 = e'.1 := le_antisymm hle hge
    have hmem : (e.1, e.2) ∈ m := (hperm m).mem_iff.1 he
    have hmem' : (e.1, e'.2) ∈ m := by
      rw [hkey]
      exact hmm'.mem_iff.2 ((hperm m').mem_iff.1 he')
    have hvalue := (lookup_eq_some_iff h).2 hmem
    rw [(lookup_eq_some_iff h).2 hmem'] at hvalue
    exact Prod.ext hkey (Option.some.inj hvalue).symm

/-- Maps are the same when each key has the same value in both. -/
theorem canonical_obj_eq_iff {m m' : Fields} (h : (m.map Prod.fst).Nodup) (h' : (m'.map Prod.fst).Nodup) :
    canonical (.obj m) = canonical (.obj m') ↔ ∀ k, (m.lookup k).map canonical = (m'.lookup k).map canonical := by
  have hkeys := h
  have hkeys' := h'
  rw [← keys_canonicalFields] at hkeys hkeys'
  rw [canonical_obj, canonical_obj, Json.obj.injEq, byKey_eq_iff hkeys,
    List.perm_ext_iff_of_nodup (hkeys.of_map _) (hkeys'.of_map _)]
  constructor
  · intro hmem k
    rw [← lookup_canonicalFields, ← lookup_canonicalFields]
    apply Option.ext
    intro v
    rw [lookup_eq_some_iff hkeys, lookup_eq_some_iff hkeys']
    exact hmem (k, v)
  · intro hlookup e
    obtain ⟨k, v⟩ := e
    rw [← lookup_eq_some_iff hkeys, ← lookup_eq_some_iff hkeys', lookup_canonicalFields, lookup_canonicalFields,
      hlookup k]

end IonInsurance
