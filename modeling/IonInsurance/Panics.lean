import IonInsurance.Go

/-!
# Run-time panics

The operations of Go on JSON values that stop a goroutine when their operand does not fit: a type assertion with one
result, a slice or an index out of its range, and an assignment to an entry of a nil map.  What reads a map, and a
type assertion with two results, always goes through.
-/

namespace IonInsurance.Panics

inductive Panic : Type where
  | typeAssertion
  | sliceBounds (high length : Nat)
  | indexRange (index length : Nat)
  | nilMap
  deriving DecidableEq

/-- A computation that may panic. -/
abbrev Run := Except Panic

/-! ### Type assertions -/

/-- The two forms of a type assertion, `x, ok := v.(T)` and `x := v.(T)`. -/
inductive Form : Type where
  | commaOk
  | single

/-- A type assertion; `read` gives the value of a `v` of type `T`. -/
def assertion {α : Type} (read : Json → Option α) (zero : α) (form : Form) (v : Json) : Run (α × Bool) :=
  match read v, form with
  | some x, _ => .ok (x, true)
  | none, .commaOk => .ok (zero, false)
  | none, .single => .error .typeAssertion

/-- A `map[string]any`; the nil map is `none`. -/
abbrev GoMap := Option Fields

def string? : Json → Option String
  | .str s => some s
  | _ => none

def slice? : Json → Option (List Json)
  | .arr xs => some xs
  | _ => none

/-- `v.(string)`. -/
def asString : Form → Json → Run (String × Bool) := assertion string? ""

/-- `v.(float64)`. -/
def asFloat : Form → Json → Run (ℚ × Bool) := assertion Json.num? 0

/-- `v.(map[string]any)`. -/
def asMap : Form → Json → Run (GoMap × Bool) := assertion (fun v => v.fields?.map some) none

/-- `v.([]any)`. -/
def asSlice : Form → Json → Run (List Json × Bool) := assertion slice? []

theorem asString_commaOk (v : Json) : ∃ ok, asString .commaOk v = .ok (v.text, ok) ∧ (v.text ≠ "" → ok = true) := by
  cases v with
  | str s => exact ⟨true, rfl, fun _ => rfl⟩
  | _ => exact ⟨false, rfl, fun h => absurd rfl h⟩

theorem asFloat_commaOk (v : Json) : ∃ ok, asFloat .commaOk v = .ok (v.float, ok) ∧ (v.float ≠ 0 → ok = true) := by
  cases v with
  | num q => exact ⟨true, rfl, fun _ => rfl⟩
  | _ => exact ⟨false, rfl, fun h => absurd rfl h⟩

theorem asMap_commaOk (v : Json) : asMap .commaOk v = .ok (v.fields?, v.fields?.isSome) := by
  cases v <;> rfl

theorem asSlice_commaOk (v : Json) : ∃ ok, asSlice .commaOk v = .ok (v.items, ok) := by
  cases v with
  | arr xs => exact ⟨true, rfl⟩
  | _ => exact ⟨false, rfl⟩

/-! ### Maps -/

namespace GoMap

/-- `m[k]`; the nil map has no entries. -/
def index (m : GoMap) (k : String) : Json := (m.getD []).get k

/-- `m[k] = v`. -/
def assign : GoMap → String → Json → Run GoMap
  | none, _, _ => .error .nilMap
  | some m, k, v => .ok (some (m.set k v))

@[simp] theorem index_some (m : Fields) (k : String) : index (some m) k = m.get k := rfl

theorem index_fields? (v : Json) (k : String) : index v.fields? k = v.fields.get k := by
  cases v <;> rfl

@[simp] theorem assign_some (m : Fields) (k : String) (v : Json) : assign (some m) k v = .ok (some (m.set k v)) := rfl

/-- Assignments to a map that is not nil go through. -/
theorem foldlM_assign (extra m : Fields) :
    extra.foldlM (fun m e => assign m e.1 e.2) (some m) = .ok (some (extra.foldl (fun m e => m.set e.1 e.2) m)) := by
  induction extra generalizing m with
  | nil => rfl
  | cons e extra ih =>
    rw [List.foldlM_cons, List.foldl_cons, assign_some]
    exact ih (m.set e.1 e.2)

end GoMap

/-! ### Slices -/

/-- The check of `s[:high]`. -/
def checkSlice (high length : Nat) : Run Unit :=
  if high ≤ length then .ok () else .error (.sliceBounds high length)

/-- `xs[i]`. -/
def item (xs : List Json) (i : Nat) : Run Json :=
  match xs[i]? with
  | some x => .ok x
  | none => .error (.indexRange i xs.length)

theorem checkSlice_of_le {high length : Nat} (h : high ≤ length) : checkSlice high length = .ok () := if_pos h

theorem checkSlice_of_lt {high length : Nat} (h : length < high) :
    checkSlice high length = .error (.sliceBounds high length) := if_neg (Nat.not_le.2 h)

@[simp] theorem item_cons_zero (x : Json) (xs : List Json) : item (x :: xs) 0 = .ok x := rfl

end IonInsurance.Panics
