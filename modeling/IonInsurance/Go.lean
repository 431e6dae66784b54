import Mathlib.Algebra.Group.Int.Defs
import Mathlib.Data.Rat.Defs
import Mathlib.Data.List.Basic

/-!
# Go values

The services exchange JSON objects as `map[string]any` and take them apart with type assertions that fall back to the
zero value.  A number is a `float64`; the model takes its value as an exact rational.
-/

namespace IonInsurance

/-- A JSON value as `json.Unmarshal` gives it. -/
inductive Json : Type where
  | null
  | bool (b : Bool)
  | num (q : ℚ)
  | str (s : String)
  | arr (xs : List Json)
  | obj (fields : List (String × Json))
  deriving Inhabited

mutual

/-- The test that two values are equal. -/
def Json.beq : Json → Json → Bool
  | .null, .null => true
  | .bool a, .bool b => a == b
  | .num p, .num q => p == q
  | .str s, .str t => s == t
  | .arr xs, .arr ys => Json.beqItems xs ys
  | .obj m, .obj m' => Json.beqFields m m'
  | _, _ => false

def Json.beqItems : List Json → List Json → Bool
  | [], [] => true
  | x :: xs, y :: ys => x.beq y && Json.beqItems xs ys
  | _, _ => false

def Json.beqFields : List (String × Json) → List (String × Json) → Bool
  | [], [] => true
  | (k, v) :: m, (k', v') :: m' => k == k' && v.beq v' && Json.beqFields m m'
  | _, _ => false

end

mutual

private theorem Json.eq_of_beq : ∀ a b : Json, a.beq b = true → a = b
  | .null, b, h => by cases b <;> first | rfl | cases h
  | .bool a, b, h => by
    cases b with
    | bool b => exact congrArg Json.bool (LawfulBEq.eq_of_beq h)
    | _ => cases h
  | .num p, b, h => by
    cases b with
    | num q => exact congrArg Json.num (LawfulBEq.eq_of_beq h)
    | _ => cases h
  | .str s, b, h => by
    cases b with
    | str t => exact congrArg Json.str (LawfulBEq.eq_of_beq h)
    | _ => cases h
  | .arr xs, b, h => by
    cases b with
    | arr ys => exact congrArg Json.arr (Json.eq_of_beqItems xs ys h)
    | _ => cases h
  | .obj m, b, h => by
    cases b with
    | obj m' => exact congrArg Json.obj (Json.eq_of_beqFields m m' h)
    | _ => cases h

private theorem Json.eq_of_beqItems : ∀ xs ys : List Json, Json.beqItems xs ys = true → xs = ys
  | [], ys, h => by cases ys <;> first | rfl | cases h
  | x :: xs, ys, h => by
    cases ys with
    | nil => cases h
    | cons y ys =>
      obtain ⟨hx, hxs⟩ := Bool.and_eq_true_iff.1 h
      rw [Json.eq_of_beq x y hx, Json.eq_of_beqItems xs ys hxs]

private theorem Json.eq_of_beqFields : ∀ m m' : List (String × Json), Json.beqFields m m' = true → m = m'
  | [], m', h => by cases m' <;> first | rfl | cases h
  | (k, v) :: m, m', h => by
    cases m' with
    | nil => cases h
    | cons e m' =>
      obtain ⟨k', v'⟩ := e
      obtain ⟨he, hm⟩ := Bool.and_eq_true_iff.1 h
      obtain ⟨hk, hv⟩ := Bool.and_eq_true_iff.1 he
      rw [LawfulBEq.eq_of_beq hk, Json.eq_of_beq v v' hv, Json.eq_of_beqFields m m' hm]

end

mutual

private theorem Json.beq_self : ∀ a : Json, a.beq a = true
  | .null => rfl
  | .bool a => BEq.rfl (a := a)
  | .num q => BEq.rfl (a := q)
  | .str s => BEq.rfl (a := s)
  | .arr xs => Json.beqItems_self xs
  | .obj m => Json.beqFields_self m

private theorem Json.beqItems_self : ∀ xs : List Json, Json.beqItems xs xs = true
  | [] => rfl
  | x :: xs => Bool.and_eq_true_iff.2 ⟨Json.beq_self x, Json.beqItems_self xs⟩

private theorem Json.beqFields_self : ∀ m : List (String × Json), Json.beqFields m m = true
  | [] => rfl
  | (k, v) :: m =>
    Bool.and_eq_true_iff.2 ⟨Bool.and_eq_true_iff.2 ⟨BEq.rfl (a := k), Json.beq_self v⟩, Json.beqFields_self m⟩

end

instance : DecidableEq Json := fun a b =>
  decidable_of_iff (a.beq b = true) ⟨Json.eq_of_beq a b, fun h => h ▸ Json.beq_self a⟩

/-- `map[string]any`. -/
abbrev Fields := List (String × Json)

/-- `m[k]`, which is `nil` for a missing key. -/
def Fields.get (m : Fields) (k : String) : Json := (m.lookup k).getD .null

/-- `_, ok := m[k]`. -/
def Fields.has (m : Fields) (k : String) : Bool := (m.lookup k).isSome

/-- `m[k] = v`. -/
def Fields.set (m : Fields) (k : String) (v : Json) : Fields := (k, v) :: m.filter fun e => e.1 ≠ k

namespace Json

/-- `m, _ := v.(map[string]any)`; indexing the nil map gives `nil`, as the empty map does. -/
def fields : Json → Fields
  | obj m => m
  | _ => []

/-- `m, ok := v.(map[string]any)`. -/
def fields? : Json → Option Fields
  | obj m => some m
  | _ => none

/-- `xs, _ := v.([]any)`. -/
def items : Json → List Json
  | arr xs => xs
  | _ => []

/-- `m, _ := xs[0].(map[string]any)` where `xs` is not empty, and the nil map otherwise. -/
def first (v : Json) : Fields := (v.items.headD .null).fields

/-- `s, _ := v.(string)`. -/
def text : Json → String
  | str s => s
  | _ => ""

/-- `q, ok := v.(float64)`. -/
def num? : Json → Option ℚ
  | num q => some q
  | _ => none

/-- `q, _ := v.(float64)`. -/
def float (v : Json) : ℚ := v.num?.getD 0

/-- An integer on the wire. -/
def int (n : Int) : Json := num n

@[simp] theorem fields_obj (m : Fields) : (obj m).fields = m := rfl

@[simp] theorem fields_null : null.fields = [] := rfl

@[simp] theorem text_null : null.text = "" := rfl

@[simp] theorem num?_null : null.num? = none := rfl

@[simp] theorem items_arr (xs : List Json) : (arr xs).items = xs := rfl

@[simp] theorem first_arr (m : Fields) (xs : List Json) : (arr (obj m :: xs)).first = m := rfl

@[simp] theorem text_str (s : String) : (str s).text = s := rfl

@[simp] theorem num?_num (q : ℚ) : (num q).num? = some q := rfl

@[simp] theorem num?_int (n : Int) : (int n).num? = some (n : ℚ) := rfl

end Json

/-- `int64(q)` of a `float64`: truncation toward zero; a value that does not fit becomes the smallest `int64`, as on
amd64. -/
def int64 (q : ℚ) : Int :=
  let n := q.num.tdiv q.den
  if -2 ^ 63 ≤ n ∧ n < 2 ^ 63 then n else -2 ^ 63

/-- `strings.HasPrefix(s, p)`. -/
def hasPrefix (s p : String) : Bool := p.toList.isPrefixOf s.toList

/-- `strings.TrimPrefix(s, p)`. -/
def trimPrefix (s p : String) : String :=
  if hasPrefix s p then String.ofList (s.toList.drop p.toList.length) else s

/-- `fmt.Sprintf("%0wd", n)`. -/
def pad (w n : Nat) : String :=
  String.ofList (List.replicate (w - (Nat.toDigits 10 n).length) '0' ++ Nat.toDigits 10 n)

@[simp] theorem Fields.get_nil (k : String) : Fields.get [] k = .null := rfl

@[simp] theorem Fields.get_cons (k k' : String) (v : Json) (m : Fields) :
    Fields.get ((k', v) :: m) k = if k == k' then v else Fields.get m k := by
  unfold Fields.get
  rw [List.lookup_cons]
  cases k == k' <;> rfl

@[simp] theorem Fields.has_cons (k k' : String) (v : Json) (m : Fields) :
    Fields.has ((k', v) :: m) k = (k == k' || Fields.has m k) := by
  unfold Fields.has
  rw [List.lookup_cons]
  cases k == k' <;> rfl

@[simp] theorem Fields.get_set_self (m : Fields) (k : String) (v : Json) : (m.set k v).get k = v := by
  unfold Fields.set
  rw [Fields.get_cons, beq_self_eq_true, if_pos rfl]

theorem Fields.get_set_ne {k k' : String} (h : k' ≠ k) (m : Fields) (v : Json) : (m.set k v).get k' = m.get k' := by
  have hset : (m.set k v).get k' = Fields.get (m.filter fun e => e.1 ≠ k) k' := by
    unfold Fields.set
    rw [Fields.get_cons, if_neg (by simpa using h)]
  rw [hset]
  clear hset
  induction m with
  | nil => rfl
  | cons e m ih =>
    obtain ⟨k₀, v₀⟩ := e
    by_cases hk : k₀ = k
    · subst hk
      simpa [h] using ih
    · simp only [List.filter_cons, ne_eq, hk, not_false_eq_true, decide_true, if_true, Fields.get_cons] at ih ⊢
      split
      · rfl
      · exact ih

@[simp] theorem hasPrefix_append (p s : String) : hasPrefix (p ++ s) p = true := by
  unfold hasPrefix
  rw [List.isPrefixOf_iff_prefix, String.toList_append]
  exact List.prefix_append ..

@[simp] theorem trimPrefix_append (p s : String) : trimPrefix (p ++ s) p = s := by
  unfold trimPrefix
  rw [hasPrefix_append, if_pos rfl, String.toList_append, List.drop_left, String.ofList_toList]

/-- Only its own prefixed form is trimmed to `t`. -/
theorem eq_append_of_hasPrefix {s p : String} (h : hasPrefix s p = true) : s = p ++ trimPrefix s p := by
  unfold trimPrefix
  rw [if_pos h]
  obtain ⟨l, hl⟩ := List.isPrefixOf_iff_prefix.1 h
  apply String.toList_injective
  rw [String.toList_append, String.toList_ofList, ← hl, List.drop_left]

/-- Padding with zeros loses nothing. -/
theorem pad_injective (w : Nat) : Function.Injective (pad w) := by
  intro m n h
  have hm := Nat.ofDigitChars_ten_toDigits (n := m)
  have hn := Nat.ofDigitChars_ten_toDigits (n := n)
  have h' := congrArg (fun l => Nat.ofDigitChars 10 l 0) (String.ofList_injective h)
  simp only [Nat.ofDigitChars_append, Nat.ofDigitChars_replicate_zero, Nat.mul_zero, hm, hn] at h'
  exact h'

end IonInsurance
