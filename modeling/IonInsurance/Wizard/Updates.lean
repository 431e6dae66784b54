import IonInsurance.Marshal
import IonInsurance.Nested

/-!
# Updates of a draft

`setNested` sets a value inside of a draft, at the end of a dotted path, and copies the draft on the way: the form of a
resource or an offer composes many such updates.  A record is the map of its own properties, and an array is its items:
what a script hangs on an array under another name than an index is in none of the copies.
-/

namespace IonInsurance.Wizard

open Nested

/-! ### Properties -/

/-- `path.split('.')`. -/
def segments (path : String) : List String := (path.toList.splitOn '.').map String.ofList

/-- The index of an array that a property name is: its decimal digits, without a leading zero. -/
def arrayIndex? (name : String) : Option Nat :=
  let digits := name.toList
  if digits ≠ [] ∧ digits.all Char.isDigit ∧ (digits.head? = some '0' → digits = ['0']) then
    let i := Nat.ofDigitChars 10 digits 0
    if i < 2 ^ 32 - 1 then some i else none
  else none

/-- The own property of a record, or the item of an array. -/
def property : Json → String → Option Json
  | .obj m, name => m.lookup name
  | .arr xs, name => (arrayIndex? name).bind fun i => xs[i]?
  | _, _ => none

/-- `{ ...s }` of a string has a property for each of its UTF-16 code units; half of a pair is shown as `U+FFFD`. -/
def characters (s : String) : Fields :=
  (s.toList.flatMap fun c => if c.val < 0x10000 then [c] else List.replicate 2 (Char.ofNat 0xFFFD)).zipIdx.map fun e =>
    (toString e.2, .str (String.singleton e.1))

/-- `Array.isArray(x) ? [...x] : { ...x }`, also for an absent `x`.  A property that a record only inherits is a
function or the prototype, neither of which has anything to copy. -/
def copy : Option Json → Json
  | some (.arr xs) => .arr xs
  | some (.obj m) => .obj m
  | some (.str s) => .obj (characters s)
  | _ => .obj []

/-- `xs[i] = v`, which makes the array long enough; JSON shows a hole as `null`. -/
def setItem (xs : List Json) (i : Nat) (v : Json) : List Json :=
  if i < xs.length then xs.set i v else xs ++ List.replicate (i - xs.length) .null ++ [v]

/-- The record has no property `__proto__` of its own: an assignment to that name calls the setter that the record
inherits. -/
def Blocked (m : Fields) (name : String) : Prop := name = "__proto__" ∧ m.has name = false

instance (m : Fields) (name : String) : Decidable (Blocked m name) := inferInstanceAs (Decidable (_ ∧ _))

/-- The setter of `__proto__` takes an object or `null`, and makes it the prototype. -/
def isPrototype : Json → Bool
  | .obj _ | .arr _ | .null => true
  | _ => false

/-- `x[name] = v` for a record or an array.  There is no result where the prototype is replaced or the length of an
array is set: what comes of that is no change of a property or an item. -/
def assign : Json → String → Json → Option Json
  | .obj m, name, v =>
    if Blocked m name then
      if isPrototype v then none else some (.obj m)
    else some (.obj (Fields.set m name v))
  | .arr xs, name, v =>
    match arrayIndex? name with
    | some i => some (.arr (setItem xs i v))
    | none => if name = "length" ∨ name = "__proto__" ∧ isPrototype v then none else some (.arr xs)
  | x, _, _ => some x

/-- The loop of `setNested`, which copies what it passes and sets the value in the last copy. -/
def setKeys (x : Option Json) : List String → Json → Option Json
  | [], value => some value
  | key :: keys, value => do
    let curr := copy x
    assign curr key (← setKeys (property curr key) keys value)

def setNested (obj : Json) (path : String) (value : Json) : Option Json := setKeys (some obj) (segments path) value

example : setNested (.obj [("a", .obj [("b", .int 1)])]) "a.c" (.int 2) =
    some (.obj [("a", .obj [("c", .int 2), ("b", .int 1)])]) := rfl

/-! ### Where a path leads -/

/-- Every proper prefix of the path is a record or absent. -/
def Reaches (x : Option Json) (p : List String) : Prop :=
  ∀ r, r <+: p → r ≠ p → ∀ v, walk property x r = some v → ∃ m, v = .obj m

/-- A segment `__proto__` of the path is an own property where it stands. -/
def Owns (x : Option Json) (p : List String) : Prop :=
  ∀ r, r ++ ["__proto__"] <+: p → (walk property x (r ++ ["__proto__"])).isSome = true

/-- The values are the same as key-value maps: at each path they have values of one kind, or none. -/
def SameMap (x y : Option Json) : Prop := ∀ r, (walk property x r).map kind = (walk property y r).map kind

/-- A record, or nothing. -/
def Record (x : Option Json) : Prop := ∀ v, x = some v → ∃ m, v = .obj m

theorem SameMap.refl (x : Option Json) : SameMap x x := fun _ => rfl

theorem reaches_cons {x : Option Json} {k : String} {p : List String} (h : Reaches x (k :: p)) :
    Record x ∧ Reaches (below property x k) p := by
  constructor
  · exact h [] List.nil_prefix (by simp)
  · intro r hr hne
    exact h (k :: r) (List.cons_prefix_cons.2 ⟨rfl, hr⟩) fun heq => hne (List.cons.inj heq).2

theorem reaches_nil (x : Option Json) : Reaches x [] := fun _ hr hne => absurd (List.prefix_nil.1 hr) hne

theorem reaches_of_cons {x : Option Json} {k : String} {p : List String} (hx : Record x)
    (h : Reaches (below property x k) p) : Reaches x (k :: p) := by
  intro r hr hne
  cases r with
  | nil => exact hx
  | cons k' r =>
    obtain ⟨rfl, hrp⟩ := List.cons_prefix_cons.1 hr
    exact h r hrp fun heq => hne (by rw [heq])

theorem owns_cons {x : Option Json} {k : String} {p : List String} (h : Owns x (k :: p)) :
    (k = "__proto__" → (below property x k).isSome = true) ∧ Owns (below property x k) p := by
  constructor
  · rintro rfl
    exact h [] (List.cons_prefix_cons.2 ⟨rfl, List.nil_prefix⟩)
  · intro r hr
    exact h (k :: r) (List.cons_prefix_cons.2 ⟨rfl, hr⟩)

/-- A copy of a record has its properties. -/
theorem exists_copy {x : Option Json} (h : Record x) :
    ∃ m, copy x = .obj m ∧ ∀ k, m.lookup k = below property x k := by
  cases x with
  | none => exact ⟨[], rfl, fun _ => rfl⟩
  | some v =>
    obtain ⟨m, rfl⟩ := h v rfl
    exact ⟨m, rfl, fun _ => rfl⟩

/-! ### One update -/

/-- An owned `__proto__` is a property like any other. -/
theorem Owns.not_blocked {x : Option Json} {m : Fields} {k : String} {p : List String} (h : Owns x (k :: p))
    (hlookup : ∀ k, m.lookup k = below property x k) : ¬Blocked m k := by
  rintro ⟨hk, hhas⟩
  have hown := (owns_cons h).1 hk
  rw [← hlookup] at hown
  unfold Fields.has at hhas
  rw [hown] at hhas
  cases hhas

/-- An update of a record or of nothing, below its first key. -/
theorem setKeys_cons {x : Option Json} {m : Fields} {k : String} (hm : copy x = .obj m)
    (hlookup : ∀ k, m.lookup k = below property x k) (hb : ¬Blocked m k) (p : List String) (v : Json) :
    setKeys x (k :: p) v = (setKeys (below property x k) p v).map fun y => .obj (m.set k y) := by
  show (setKeys (property (copy x) k) p v).bind (assign (copy x) k) = _
  have hchild : property (.obj m) k = below property x k := hlookup k
  rw [hm, hchild, Option.map_eq_bind]
  refine congrArg _ (funext fun y => ?_)
  exact if_neg hb

/-- An update of a record is one. -/
theorem setKeys_obj {m : Fields} {k : String} (hb : ¬Blocked m k) (p : List String) (v : Json) :
    setKeys (some (.obj m)) (k :: p) v = (setKeys (m.lookup k) p v).map fun y => .obj (m.set k y) :=
  setKeys_cons (x := some (.obj m)) rfl (fun _ => rfl) hb p v

theorem exists_setKeys {x : Option Json} {p : List String} (h : Reaches x p) (ho : Owns x p) (v : Json) :
    ∃ y, setKeys x p v = some y := by
  induction p generalizing x with
  | nil => exact ⟨v, rfl⟩
  | cons k p ih =>
    obtain ⟨hx, hp⟩ := reaches_cons h
    obtain ⟨m, hm, hlookup⟩ := exists_copy hx
    obtain ⟨y, hy⟩ := ih hp (owns_cons ho).2
    rw [setKeys_cons hm hlookup (ho.not_blocked hlookup), hy]
    exact ⟨_, rfl⟩

theorem below_set (m : Fields) (k k' : String) (v : Json) :
    below property (some (.obj (m.set k v))) k' = if k' = k then some v else m.lookup k' :=
  Fields.lookup_set ..

theorem set_set (m : Fields) (k : String) (v w : Json) : (m.set k v).set k w = m.set k w := by
  unfold Fields.set
  rw [List.filter_cons, if_neg (by simp), List.filter_filter]
  simp only [Bool.and_self]

/-- A property that has been set is owned. -/
theorem not_blocked_set (m : Fields) (k : String) (v : Json) : ¬Blocked (m.set k v) k := by
  rintro ⟨-, hhas⟩
  unfold Fields.has at hhas
  rw [Fields.lookup_set, if_pos rfl] at hhas
  cases hhas

/-- An update changes nothing but what lies at its path. -/
theorem changedAt_setKeys {x : Option Json} {p : List String} (h : Reaches x p) (ho : Owns x p) (v : Json) :
    ChangedAt property (fun _ _ => True) (fun _ _ => True) p x (setKeys x p v) := by
  induction p generalizing x with
  | nil => trivial
  | cons k p ih =>
    obtain ⟨hx, hp⟩ := reaches_cons h
    obtain ⟨-, hop⟩ := owns_cons ho
    obtain ⟨m, hm, hlookup⟩ := exists_copy hx
    obtain ⟨y, hy⟩ := exists_setKeys hp hop v
    have hbelow := ih hp hop
    rw [setKeys_cons hm hlookup (ho.not_blocked hlookup)]
    rw [hy] at hbelow ⊢
    refine ⟨trivial, ?_, ?_⟩
    · intro k' hne
      rw [← hlookup]
      exact (below_set m k k' y).trans (if_neg hne)
    · rw [Option.map_some, below_set, if_pos rfl]
      exact hbelow

theorem walk_setKeys {x : Option Json} {p : List String} (h : Reaches x p) (ho : Owns x p) (v : Json) :
    walk property (setKeys x p v) p = some v := by
  induction p generalizing x with
  | nil => rfl
  | cons k p ih =>
    obtain ⟨hx, hp⟩ := reaches_cons h
    obtain ⟨-, hop⟩ := owns_cons ho
    obtain ⟨m, hm, hlookup⟩ := exists_copy hx
    obtain ⟨y, hy⟩ := exists_setKeys hp hop v
    have hbelow := ih hp hop
    rw [setKeys_cons hm hlookup (ho.not_blocked hlookup)]
    rw [hy] at hbelow ⊢
    rw [Option.map_some, walk_cons, below_set, if_pos rfl]
    exact hbelow

/-- The second of two updates at a path wins. -/
theorem setKeys_setKeys {x : Option Json} {p : List String} (h : Reaches x p) (ho : Owns x p) (v w : Json) :
    setKeys (setKeys x p v) p w = setKeys x p w := by
  induction p generalizing x with
  | nil => rfl
  | cons k p ih =>
    obtain ⟨hx, hp⟩ := reaches_cons h
    obtain ⟨-, hop⟩ := owns_cons ho
    obtain ⟨m, hm, hlookup⟩ := exists_copy hx
    obtain ⟨y, hy⟩ := exists_setKeys hp hop v
    have hb := ho.not_blocked hlookup
    have hbelow := ih hp hop
    rw [setKeys_cons hm hlookup hb, setKeys_cons hm hlookup hb, ← hbelow, hy, Option.map_some,
      setKeys_obj (not_blocked_set m k y), Fields.lookup_set, if_pos rfl]
    simp only [set_set]

/-! ### Two updates -/

/-- What a path leads through is a record or absent after an update at a path that does not lead to it. -/
theorem reaches_setKeys {x : Option Json} {p q : List String} (hp : Reaches x p) (ho : Owns x p) (hq : Reaches x q)
    (hpq : ¬p <+: q) (v : Json) : Reaches (setKeys x p v) q := by
  induction p generalizing x q with
  | nil => exact absurd List.nil_prefix hpq
  | cons k p ih =>
    cases q with
    | nil => exact reaches_nil _
    | cons k' q =>
      obtain ⟨hx, hp⟩ := reaches_cons hp
      obtain ⟨-, hop⟩ := owns_cons ho
      obtain ⟨-, hq⟩ := reaches_cons hq
      obtain ⟨m, hm, hlookup⟩ := exists_copy hx
      obtain ⟨y, hy⟩ := exists_setKeys hp hop v
      rw [setKeys_cons hm hlookup (ho.not_blocked hlookup), hy]
      apply reaches_of_cons
      · exact fun _ hv => ⟨_, (Option.some.inj hv).symm⟩
      · rw [Option.map_some, below_set]
        by_cases hk : k' = k
        · subst hk
          rw [if_pos rfl, ← hy]
          exact ih hp hop hq fun h => hpq (List.cons_prefix_cons.2 ⟨rfl, h⟩)
        · rw [if_neg hk, hlookup]
          exact hq

/-- And so is an owned `__proto__` on it. -/
theorem owns_setKeys {x : Option Json} {p q : List String} (hp : Reaches x p) (ho : Owns x p) (hq : Owns x q)
    (hpq : ¬p <+: q) (v : Json) : Owns (setKeys x p v) q := by
  intro r hr
  have hchanged := changedAt_setKeys hp ho v
  by_cases hpr : p <+: r ++ ["__proto__"]
  · exact absurd (hpr.trans hr) hpq
  · by_cases hrp : r ++ ["__proto__"] <+: p
    · -- the path of the update passes here, and leaves something
      obtain ⟨rest, rfl⟩ := hrp
      have hread := walk_setKeys hp ho v
      rw [walk_append] at hread
      cases hwalk : walk property (setKeys x (r ++ ["__proto__"] ++ rest) v) (r ++ ["__proto__"]) with
      | some y => rfl
      | none =>
        rw [hwalk, walk_none] at hread
        cases hread
    · rw [hchanged.outside hrp hpr]
      exact hq r hr

/-- Records with the same maps under each name are the same map. -/
theorem sameMap_obj {m m' : Fields} (h : ∀ k, SameMap (m.lookup k) (m'.lookup k)) :
    SameMap (some (.obj m)) (some (.obj m')) := by
  intro r
  cases r with
  | nil => rfl
  | cons k r => exact h k r

/-- Whether an assignment to one name is blocked does not depend on another name. -/
theorem blocked_set_iff {m : Fields} {k k' : String} (hk : k' ≠ k) (v : Json) :
    Blocked (m.set k v) k' ↔ Blocked m k' := by
  unfold Blocked
  rw [Fields.has_set_ne hk]

/-- Updates at two paths neither of which leads to the other commute. -/
theorem setKeys_comm {x : Option Json} {p q : List String} (hp : Reaches x p) (hop : Owns x p) (hq : Reaches x q)
    (hoq : Owns x q) (hpq : ¬p <+: q) (hqp : ¬q <+: p) (v w : Json) :
    SameMap (setKeys (setKeys x p v) q w) (setKeys (setKeys x q w) p v) := by
  induction p generalizing x q with
  | nil => exact absurd List.nil_prefix hpq
  | cons k p ih =>
    cases q with
    | nil => exact absurd List.nil_prefix hqp
    | cons k' q =>
      obtain ⟨hx, hp⟩ := reaches_cons hp
      obtain ⟨-, hq⟩ := reaches_cons hq
      obtain ⟨m, hm, hlookup⟩ := exists_copy hx
      have hb := hop.not_blocked hlookup
      have hb' := hoq.not_blocked hlookup
      obtain ⟨-, hop⟩ := owns_cons hop
      obtain ⟨-, hoq⟩ := owns_cons hoq
      obtain ⟨y, hy⟩ := exists_setKeys hp hop v
      obtain ⟨z, hz⟩ := exists_setKeys hq hoq w
      rw [setKeys_cons hm hlookup hb, setKeys_cons hm hlookup hb', hy, hz, Option.map_some, Option.map_some]
      by_cases hk : k' = k
      · -- the paths part below this key
        subst hk
        have hpq' : ¬p <+: q := fun h => hpq (List.cons_prefix_cons.2 ⟨rfl, h⟩)
        have hqp' : ¬q <+: p := fun h => hqp (List.cons_prefix_cons.2 ⟨rfl, h⟩)
        have hbelow := ih hp hop hq hoq hpq' hqp'
        obtain ⟨yz, hyz⟩ := exists_setKeys (reaches_setKeys hp hop hq hpq' v) (owns_setKeys hp hop hoq hpq' v) w
        obtain ⟨zy, hzy⟩ := exists_setKeys (reaches_setKeys hq hoq hp hqp' w) (owns_setKeys hq hoq hop hqp' w) v
        rw [hyz, hzy] at hbelow
        rw [hy] at hyz
        rw [hz] at hzy
        rw [setKeys_obj (not_blocked_set m k' y), setKeys_obj (not_blocked_set m k' z), Fields.lookup_set,
          Fields.lookup_set, if_pos rfl, if_pos rfl, hyz, hzy, Option.map_some, Option.map_some, set_set, set_set]
        apply sameMap_obj
        intro j
        rw [Fields.lookup_set, Fields.lookup_set]
        by_cases hj : j = k'
        · rw [if_pos hj, if_pos hj]
          exact hbelow
        · rw [if_neg hj, if_neg hj]
          exact .refl _
      · -- the paths part at this key
        rw [setKeys_obj (mt (blocked_set_iff hk y).1 hb'), setKeys_obj (mt (blocked_set_iff (Ne.symm hk) z).1 hb),
          Fields.lookup_set, Fields.lookup_set, if_neg hk, if_neg (Ne.symm hk), hlookup, hlookup, hy, hz,
          Option.map_some, Option.map_some]
        apply sameMap_obj
        intro j
        simp only [Fields.lookup_set]
        by_cases hj : j = k'
        · subst hj
          rw [if_pos rfl, if_neg hk, if_pos rfl]
          exact .refl _
        · rw [if_neg hj, if_neg hj]
          exact .refl _

/-! ### The laws of `setNested` -/

/-- The laws of a lens, where every `__proto__` on the two paths is a property of its record. -/
theorem setNested_laws (o : Fields) (p q : String) (v w : Json) (hp : Reaches (some (.obj o)) (segments p))
    (hop : Owns (some (.obj o)) (segments p)) (hq : Reaches (some (.obj o)) (segments q))
    (hoq : Owns (some (.obj o)) (segments q)) :
    ∃ x y, setNested (.obj o) p v = some x ∧ setNested (.obj o) q w = some y ∧
      walk property (some x) (segments p) = some v ∧
      setNested x p w = setNested (.obj o) p w ∧
      (∀ r, ¬r <+: segments p → ¬segments p <+: r → walk property (some x) r = walk property (some (.obj o)) r) ∧
      (¬segments p <+: segments q → ¬segments q <+: segments p →
        ∃ x' y', setNested x q w = some x' ∧ setNested y p v = some y' ∧ SameMap (some x') (some y')) := by
  obtain ⟨x, hx⟩ := exists_setKeys hp hop v
  obtain ⟨y, hy⟩ := exists_setKeys hq hoq w
  refine ⟨x, y, hx, hy, ?_, ?_, ?_, ?_⟩
  · have hread := walk_setKeys hp hop v
    rwa [hx] at hread
  · have hsecond := setKeys_setKeys hp hop v w
    rwa [hx] at hsecond
  · intro r hr hpr
    have hframe := (changedAt_setKeys hp hop v).outside hr hpr
    rwa [hx] at hframe
  · intro hpq hqp
    obtain ⟨x', hx'⟩ := exists_setKeys (reaches_setKeys hp hop hq hpq v) (owns_setKeys hp hop hoq hpq v) w
    obtain ⟨y', hy'⟩ := exists_setKeys (reaches_setKeys hq hoq hp hqp w) (owns_setKeys hq hoq hop hqp w) v
    have hcomm := setKeys_comm hp hop hq hoq hpq hqp v w
    rw [hx', hy'] at hcomm
    rw [hx] at hx'
    rw [hy] at hy'
    exact ⟨x', y', hx', hy', hcomm⟩

/-- The draft of a resource in the third zone. -/
def zoneDraft : Fields := [("resourceAttributes", .obj [("tariffZone", .str "ZONE_3"), ("deductibleAmount", .str "")])]

theorem owns_of_not_mem (x : Option Json) {p : List String} (h : "__proto__" ∉ p) : Owns x p := fun r hr =>
  absurd (hr.subset (List.mem_append_right r (List.mem_singleton_self _))) h

theorem setNested_laws_zone :
    ∃ x y, setNested (.obj zoneDraft) "resourceAttributes.tariffZone" (.str "ZONE_1") = some x ∧
      setNested (.obj zoneDraft) "resourceAttributes.premiumRateRange" (.obj []) = some y ∧
      walk property (some x) ["resourceAttributes", "tariffZone"] = some (.str "ZONE_1") ∧
      ∃ x' y', setNested x "resourceAttributes.premiumRateRange" (.obj []) = some x' ∧
        setNested y "resourceAttributes.tariffZone" (.str "ZONE_1") = some y' ∧ SameMap (some x') (some y') := by
  have hrecord : ∀ m : Fields, Record (some (Json.obj m)) := fun m _ hv => ⟨m, (Option.some.inj hv).symm⟩
  have hreaches : ∀ name, Reaches (some (.obj zoneDraft)) ["resourceAttributes", name] :=
    fun _ => reaches_of_cons (hrecord _) (reaches_of_cons (hrecord _) (reaches_nil _))
  obtain ⟨x, y, hx, hy, hread, -, -, hcomm⟩ := setNested_laws zoneDraft "resourceAttributes.tariffZone"
    "resourceAttributes.premiumRateRange" (.str "ZONE_1") (.obj []) (hreaches _) (owns_of_not_mem _ (by decide +kernel))
    (hreaches _) (owns_of_not_mem _ (by decide +kernel))
  exact ⟨x, y, hx, hy, hread, hcomm (by decide +kernel) (by decide +kernel)⟩

/-- A string under the name `__proto__` goes to the setter that every record inherits, and is lost. -/
theorem setNested_proto_lost : ¬∀ (o : Fields) (p : String) (v : Json), Reaches (some (.obj o)) (segments p) →
    walk property (setNested (.obj o) p v) (segments p) = some v := by
  intro h
  have hreaches : Reaches (some (.obj [])) (segments "__proto__") :=
    reaches_of_cons (fun _ hv => ⟨[], (Option.some.inj hv).symm⟩) (reaches_nil _)
  have hlost : walk property (setNested (.obj []) "__proto__" (.str "x")) (segments "__proto__") = none := rfl
  have hread := h [] "__proto__" (.str "x") hreaches
  rw [hlost] at hread
  cases hread

/-! ### The zone of a resource -/

def ojkRates : Fields :=
  [("ZONE_1", .obj [("min", .num (382 / 100)), ("max", .num (420 / 100))]),
   ("ZONE_2", .obj [("min", .num (326 / 100)), ("max", .num (359 / 100))]),
   ("ZONE_3", .obj [("min", .num (253 / 100)), ("max", .num (308 / 100))]),
   ("ZONE_4", .obj [("min", .num (208 / 100)), ("max", .num (229 / 100))]),
   ("ZONE_5", .obj [("min", .num (154 / 100)), ("max", .num (169 / 100))])]

/-- The range that a zone sets. -/
def rateRange (zone : String) : Json :=
  let rates := (ojkRates.get zone).fields
  .obj [("min", rates.get "min"), ("max", rates.get "max")]

/-- The draft after one of the zones of the form has been selected. -/
def handleZone (zone : String) (draft : Json) : Option Json := do
  let draft ← setNested draft "resourceAttributes.tariffZone" (.str zone)
  if ojkRates.has zone then setNested draft "resourceAttributes.premiumRateRange" (rateRange zone) else some draft

def zonePath : List String := ["resourceAttributes", "tariffZone"]

def ratePath : List String := ["resourceAttributes", "premiumRateRange"]

/-- A zone change writes the zone and its rates, in either order, and nothing else. -/
theorem handleZone_reads (zone : String) (o : Fields) (ho : Record (o.lookup "resourceAttributes")) :
    ∃ x, handleZone zone (.obj o) = some x ∧ walk property (some x) zonePath = some (.str zone) ∧
      (ojkRates.has zone = true → walk property (some x) ratePath = some (rateRange zone) ∧
        ∃ y z, setNested (.obj o) "resourceAttributes.premiumRateRange" (rateRange zone) = some y ∧
          setNested y "resourceAttributes.tariffZone" (.str zone) = some z ∧ SameMap (some x) (some z)) ∧
      (∀ r, ¬r <+: zonePath → ¬zonePath <+: r → ¬r <+: ratePath → ¬ratePath <+: r →
        walk property (some x) r = walk property (some (.obj o)) r) := by
  have hrecord : Record (some (Json.obj o)) := fun _ hv => ⟨o, (Option.some.inj hv).symm⟩
  have hreaches : ∀ name, Reaches (some (.obj o)) ["resourceAttributes", name] :=
    fun _ => reaches_of_cons hrecord (reaches_of_cons ho (reaches_nil _))
  have hzone : Reaches (some (.obj o)) zonePath := hreaches _
  have hrate : Reaches (some (.obj o)) ratePath := hreaches _
  have hownZone : ∀ x, Owns x zonePath := fun _ => owns_of_not_mem _ (by decide)
  have hownRate : ∀ x, Owns x ratePath := fun _ => owns_of_not_mem _ (by decide)
  obtain ⟨x, hx⟩ := exists_setKeys hzone (hownZone _) (.str zone)
  obtain ⟨y, hy⟩ := exists_setKeys hrate (hownRate _) (rateRange zone)
  have hread := walk_setKeys hzone (hownZone _) (.str zone)
  have hframe := changedAt_setKeys hzone (hownZone _) (.str zone)
  have hafter := reaches_setKeys hzone (hownZone _) hrate (by decide) (.str zone)
  have hback := reaches_setKeys hrate (hownRate _) hzone (by decide) (rateRange zone)
  have hcomm := setKeys_comm hzone (hownZone _) hrate (hownRate _) (by decide) (by decide) (.str zone) (rateRange zone)
  rw [hx] at hread hframe hafter hcomm
  rw [hy] at hback hcomm
  have hselect : handleZone zone (.obj o) =
      if ojkRates.has zone then setKeys (some x) ratePath (rateRange zone) else some x := by
    show (setKeys (some (.obj o)) zonePath (.str zone)).bind _ = _
    rw [hx]
    rfl
  rw [hselect]
  by_cases hz : ojkRates.has zone = true
  · obtain ⟨x', hx'⟩ := exists_setKeys hafter (hownRate _) (rateRange zone)
    obtain ⟨y', hy'⟩ := exists_setKeys hback (hownZone _) (.str zone)
    have hwritten := walk_setKeys hafter (hownRate _) (rateRange zone)
    have hchanged := changedAt_setKeys hafter (hownRate _) (rateRange zone)
    rw [hx'] at hwritten hchanged hcomm
    rw [hy'] at hcomm
    refine ⟨x', (if_pos hz).trans hx', ?_, fun _ => ⟨hwritten, y, y', hy, hy', hcomm⟩, ?_⟩
    · rw [← hread]
      exact hchanged.outside (by decide) (by decide)
    · intro r hr hzr hr' hrr
      rw [hchanged.outside hr' hrr]
      exact hframe.outside hr hzr
  · refine ⟨x, if_neg hz, hread, fun h => absurd h hz, ?_⟩
    intro r hr hzr _ _
    exact hframe.outside hr hzr

end IonInsurance.Wizard
