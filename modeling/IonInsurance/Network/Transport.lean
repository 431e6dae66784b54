import IonInsurance.Arith.Binary64
import IonInsurance.Bap.Listing
import IonInsurance.Bpp.Messages

/-!
# JSON on the wire

The other side decodes every number as a `float64`, and everything else as it was.  The accessors of a payload see the
rounded number and nothing else, so a reader of either side finds what the sender wrote.
-/

namespace IonInsurance.Network

open Arith

mutual

/-- A value as the other side decodes it. -/
def received : Json → Json
  | .num q => .num (binary64 q)
  | .arr xs => .arr (receivedItems xs)
  | .obj m => .obj (receivedFields m)
  | v => v

def receivedItems : List Json → List Json
  | [] => []
  | x :: xs => received x :: receivedItems xs

def receivedFields : List (String × Json) → List (String × Json)
  | [] => []
  | (k, v) :: m => (k, received v) :: receivedFields m

end

@[simp] theorem received_null : received .null = .null := rfl

@[simp] theorem received_num (q : ℚ) : received (.num q) = .num (binary64 q) := rfl

@[simp] theorem received_str (s : String) : received (.str s) = .str s := rfl

@[simp] theorem received_arr (xs : List Json) : received (.arr xs) = .arr (receivedItems xs) := rfl

@[simp] theorem received_obj (m : Fields) : received (.obj m) = .obj (receivedFields m) := rfl

@[simp] theorem receivedFields_nil : receivedFields [] = [] := rfl

@[simp] theorem receivedFields_cons (k : String) (v : Json) (m : Fields) :
    receivedFields ((k, v) :: m) = (k, received v) :: receivedFields m := rfl

theorem receivedItems_eq (xs : List Json) : receivedItems xs = xs.map received := by
  induction xs with
  | nil => rfl
  | cons x xs ih =>
    rw [List.map_cons, ← ih]
    rfl

/-! ### What a reader finds -/

@[simp] theorem get_received (m : Fields) (k : String) : Fields.get (receivedFields m) k = received (m.get k) := by
  induction m with
  | nil => rw [receivedFields_nil, Fields.get_nil, received_null]
  | cons e m ih =>
    obtain ⟨k', v⟩ := e
    rw [receivedFields_cons, Fields.get_cons, Fields.get_cons]
    split
    · rfl
    · exact ih

@[simp] theorem fields_received (v : Json) : (received v).fields = receivedFields v.fields := by
  cases v with
  | obj m => rw [received_obj, Json.fields_obj, Json.fields_obj]
  | _ => rfl

@[simp] theorem items_received (v : Json) : (received v).items = v.items.map received := by
  cases v with
  | arr xs => rw [received_arr, Json.items_arr, Json.items_arr, receivedItems_eq]
  | _ => rfl

@[simp] theorem first_received (v : Json) : (received v).first = receivedFields v.first := by
  unfold Json.first
  rw [items_received]
  cases v.items with
  | nil => rw [List.map_nil, List.headD_nil, Json.fields_null, receivedFields_nil]
  | cons x xs => rw [List.map_cons, List.headD_cons, List.headD_cons, fields_received]

@[simp] theorem text_received (v : Json) : (received v).text = v.text := by
  cases v <;> rfl

@[simp] theorem num?_received (v : Json) : (received v).num? = v.num?.map binary64 := by
  cases v <;> rfl

theorem has_received (m : Fields) (k : String) : Fields.has (receivedFields m) k = m.has k := by
  unfold Fields.has
  induction m with
  | nil => rfl
  | cons e m ih =>
    obtain ⟨k', v⟩ := e
    rw [receivedFields_cons, List.lookup_cons, List.lookup_cons]
    split
    · rfl
    · exact ih

/-- Decoding keeps the transaction of a message. -/
@[simp] theorem transactionID_received (m : Fields) : Bpp.transactionID (receivedFields m) = Bpp.transactionID m := by
  unfold Bpp.transactionID Bpp.contextOf
  rw [get_received, fields_received, get_received, text_received]

theorem commitmentAttributes_received (m : Fields) :
    Bpp.commitmentAttributes (receivedFields m) = receivedFields (Bpp.commitmentAttributes m) := by
  unfold Bpp.commitmentAttributes Bpp.contractOf
  simp only [get_received, fields_received, first_received]

/-- A path leads to the same place. -/
private theorem at?_received (v : Json) (k : Bap.Key) : Bap.Json.at? (received v) k = (Bap.Json.at? v k).map received := by
  cases v with
  | arr xs =>
    cases k with
    | name k => rfl
    | index i =>
      rw [received_arr, receivedItems_eq]
      exact List.getElem?_map
  | obj m =>
    cases k with
    | name k => exact congrArg some (get_received m k)
    | index i => rfl
  | _ => rfl

theorem nestedMap_received (m : Fields) (keys : List Bap.Key) :
    Bap.nestedMap (receivedFields m) keys = receivedFields (Bap.nestedMap m keys) := by
  have hpath : ∀ v : Json, keys.foldlM Bap.Json.at? (received v) = (keys.foldlM Bap.Json.at? v).map received := by
    induction keys with
    | nil => exact fun v => rfl
    | cons k keys ih =>
      intro v
      rw [List.foldlM_cons, List.foldlM_cons, at?_received]
      cases Bap.Json.at? v k with
      | none => rfl
      | some v' => exact ih v'
  unfold Bap.nestedMap
  rw [← received_obj, hpath]
  cases keys.foldlM Bap.Json.at? (.obj m) with
  | none => rw [Option.map_none, Option.getD_none, Json.fields_null, receivedFields_nil]
  | some v => rw [Option.map_some, Option.getD_some, Option.getD_some, fields_received]

theorem stringField_received (m : Fields) (key : String) :
    Bap.stringField (receivedFields m) key = Bap.stringField m key := by
  unfold Bap.stringField
  rw [get_received, text_received]

/-- An integer of up to 53 bits arrives as it was sent. -/
theorem numField_received {m : Fields} {key : String} {n : ℤ} (h : (m.get key).num? = some (n : ℚ))
    (hn : |n| ≤ 2 ^ 53) : Bap.numField (receivedFields m) key = n := by
  unfold Bap.numField Json.float
  rw [get_received, num?_received, h, Option.map_some, Option.getD_some, binary64_intCast hn]

end IonInsurance.Network
