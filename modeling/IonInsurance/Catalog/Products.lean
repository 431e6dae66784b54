import IonInsurance.Catalog.Messages
import IonInsurance.Catalog.Offers
import IonInsurance.Marshal

/-!
# Products, published and discovered

A publication and an `on_discover` show the same rows.  Discovery stamps the columns on the attributes of a resource; a
publication keeps what the attributes say of their own.
-/

namespace IonInsurance.Catalog

open Relational

/-- The fields that say what is insured. -/
def productFields : List String := ["productType", "vehicleType", "ojkProductCode"]

/-- The column of such a field. -/
def Resource.column (r : Resource) (k : String) : String :=
  if k = "productType" then r.productType
  else if k = "vehicleType" then r.vehicleType
  else r.ojkProductCode

/-- The attributes of a resource in a message. -/
def attributesOf (item : Json) : Fields := (item.fields.get "resourceAttributes").fields

/-- The resources of a `catalog/publish`. -/
def published (payload : Fields) : List Json :=
  ((((payload.get "message").fields.get "catalogs").first).get "resources").items

/-- Both messages describe one product. -/
def SameProduct (item item' : Json) : Prop :=
  ∀ k ∈ productFields, (attributesOf item).get k = (attributesOf item').get k

/-- The attributes do not name the product, or they say the same as the columns. -/
def NamesColumns (r : Resource) : Prop :=
  ∀ k ∈ productFields, r.resourceAttributes.fields.has k = true →
    r.resourceAttributes.fields.get k = .str (r.column k)

theorem setMissing_get_self (m : Fields) (k : String) (v : Json) :
    (setMissing m k v).get k = if m.has k then m.get k else v := by
  unfold setMissing
  split
  · rfl
  · exact Fields.get_set_self m k v

theorem setMissing_get_ne {k k' : String} (h : k' ≠ k) (m : Fields) (v : Json) :
    (setMissing m k v).get k' = m.get k' := by
  unfold setMissing
  split
  · rfl
  · exact Fields.get_set_ne h m v

theorem has_setMissing_ne {k k' : String} (h : k' ≠ k) (m : Fields) (v : Json) :
    (setMissing m k v).has k' = m.has k' := by
  unfold setMissing
  split
  · rfl
  · exact Fields.has_set_ne h m v

/-- A publication shows the attributes first. -/
theorem get_publishedResource (r : Int × Resource) (offers : List (Int × Offer)) {k : String} (hk : k ∈ productFields) :
    (attributesOf (publishedResource r offers)).get k =
      if r.2.resourceAttributes.fields.has k then r.2.resourceAttributes.fields.get k else .str (r.2.column k) := by
  have hattrs : attributesOf (publishedResource r offers) =
      setMissing (setMissing (setMissing ((r.2.resourceAttributes.fields.set "@context"
        (.str (Bpp.ionSchemaBase ++ "insurance-resource/v1/context.jsonld"))).set "@type" (.str "InsuranceProduct"))
        "productType" (.str r.2.productType)) "vehicleType" (.str r.2.vehicleType))
        "ojkProductCode" (.str r.2.ojkProductCode) := rfl
  rw [hattrs]
  simp only [productFields, List.mem_cons, List.not_mem_nil, or_false] at hk
  rcases hk with rfl | rfl | rfl
  · rw [setMissing_get_ne (by decide), setMissing_get_ne (by decide), setMissing_get_self, Fields.has_set_ne (by decide),
      Fields.has_set_ne (by decide), Fields.get_set_ne (by decide), Fields.get_set_ne (by decide)]
    rfl
  · rw [setMissing_get_ne (by decide), setMissing_get_self, has_setMissing_ne (by decide), Fields.has_set_ne (by decide),
      Fields.has_set_ne (by decide), setMissing_get_ne (by decide), Fields.get_set_ne (by decide),
      Fields.get_set_ne (by decide)]
    rfl
  · rw [setMissing_get_self, has_setMissing_ne (by decide), has_setMissing_ne (by decide), Fields.has_set_ne (by decide),
      Fields.has_set_ne (by decide), setMissing_get_ne (by decide), setMissing_get_ne (by decide),
      Fields.get_set_ne (by decide), Fields.get_set_ne (by decide)]
    rfl

/-- Discovery shows the columns. -/
theorem get_discovered {s : Bpp.BecknService} {context : Fields} {rows : List Bpp.ResourceRow} {item : Json}
    (h : item ∈ discovered (Bpp.buildOnSearchResponse s context rows)) :
    ∃ row ∈ rows, item.fields.get "id" = .str (toString row.id) ∧
      ∀ k ∈ productFields, (attributesOf item).get k = .str
        (if k = "productType" then row.productType else if k = "vehicleType" then row.vehicleType
         else row.ojkProductCode) := by
  obtain ⟨row, hrow, rfl⟩ := List.mem_map.1 h
  refine ⟨row, hrow, rfl, ?_⟩
  intro k hk
  have hother : k ≠ "tariffZone" ∧ k ≠ "premiumRateMin" ∧ k ≠ "premiumRateMax" := by
    revert k
    decide
  show Fields.get (ite _ _ _) k = _
  rw [get_stamp hother.2.2, get_stamp hother.2.1, get_stamp hother.1]
  simp only [productFields, List.mem_cons, List.not_mem_nil, or_false] at hk
  rcases hk with rfl | rfl | rfl
  · rw [Fields.get_set_ne (by decide), Fields.get_set_ne (by decide), Fields.get_set_self]
    rfl
  · rw [Fields.get_set_ne (by decide), Fields.get_set_self]
    rfl
  · rw [Fields.get_set_self]
    rfl

/-- Different numbers have different texts. -/
theorem toString_int_injective : Function.Injective (toString : Int → String) := by
  have hdigits : ∀ {m n : Nat}, Nat.toDigits 10 m = Nat.toDigits 10 n → m = n := by
    intro m n h
    rw [← Nat.ofDigitChars_ten_toDigits (n := m), ← Nat.ofDigitChars_ten_toDigits (n := n), h]
  have hnat : ∀ m : Nat, (toString (Int.ofNat m)).toList = Nat.toDigits 10 m := fun _ => Nat.toList_repr
  have hneg : ∀ m : Nat, (toString (Int.negSucc m)).toList = '-' :: Nat.toDigits 10 (m + 1) := by
    intro m
    have hminus : toString (Int.negSucc m) = "-" ++ Nat.repr (m + 1) := rfl
    rw [hminus, String.toList_append, Nat.toList_repr]
    rfl
  -- the text of a number that is not negative begins with a digit
  have hsign : ∀ m n : Nat, Nat.toDigits 10 m ≠ '-' :: Nat.toDigits 10 (n + 1) := by
    intro m n h
    have hdigit : Char.isDigit '-' = true :=
      Nat.isDigit_of_mem_toDigits (by decide) (by decide) (h ▸ List.mem_cons_self)
    exact absurd hdigit (by decide)
  intro a b h
  have htext := congrArg String.toList h
  cases a with
  | ofNat m =>
    cases b with
    | ofNat n =>
      rw [hnat, hnat] at htext
      rw [hdigits htext]
    | negSucc n =>
      rw [hnat, hneg] at htext
      exact absurd htext (hsign m n)
  | negSucc m =>
    cases b with
    | ofNat n =>
      rw [hnat, hneg] at htext
      exact absurd htext.symm (hsign n m)
    | negSucc n =>
      rw [hneg, hneg] at htext
      have hsucc := hdigits (List.cons.inj htext).2
      rw [Nat.succ.inj hsucc]

theorem sameProduct_row_iff (r : Int × Resource) (offers : List (Int × Offer)) {item : Json}
    (h : ∀ k ∈ productFields, (attributesOf item).get k = .str (r.2.column k)) :
    SameProduct (publishedResource r offers) item ↔ NamesColumns r.2 := by
  constructor
  · intro hsame k hk hhas
    have hat := hsame k hk
    rwa [get_publishedResource r offers hk, if_pos hhas, h k hk] at hat
  · intro hnames k hk
    rw [get_publishedResource r offers hk, h k hk]
    split
    · rename_i hhas
      exact hnames k hk hhas
    · rfl

/-- A `catalog/publish` and an `on_discover` show the same product of a row, if its attributes name none of their own:
`rows` are those that are published, with the offers that have been read for each. -/
theorem sameProduct_iff (s : Bpp.BecknService) (context : Fields) (catalogID : Int) (bppID name : String)
    (provider : Fields) (t₁ t₂ t₃ : Time) {db : Db} {rows : List (Int × Resource)} (offers : Int → List (Int × Offer))
    (hrows : ∀ x ∈ rows, x ∈ db.resources.rows) {r : Int × Resource} (hr : r ∈ rows) :
    (∀ item ∈ published (catalogPublish catalogID bppID name provider
        (rows.map fun x => publishedResource x (offers x.1)) t₁ t₂ t₃),
      ∀ item' ∈ discovered (Bpp.buildOnSearchResponse s context (queryMatchingResources db)),
        item.fields.get "id" = .str ("RES-" ++ toString r.1) → item'.fields.get "id" = .str (toString r.1) →
          SameProduct item item') ↔ NamesColumns r.2 := by
  have hid : ∀ x ∈ db.resources.rows, x.1 = r.1 → x = r := by
    intro x hx heq
    have hfound := db.resources.get?_eq_some_iff.2 hx
    have hfound' := db.resources.get?_eq_some_iff.2 (hrows r hr)
    rw [heq, hfound'] at hfound
    exact Prod.ext heq (Option.some.inj hfound).symm
  have hshown : ∀ item' ∈ discovered (Bpp.buildOnSearchResponse s context (queryMatchingResources db)),
      item'.fields.get "id" = .str (toString r.1) →
        ∀ k ∈ productFields, (attributesOf item').get k = .str (r.2.column k) := by
    intro item' hitem' hitemid k hk
    obtain ⟨row, hrow, hrowid, hcolumns⟩ := get_discovered hitem'
    obtain ⟨pair, hpair, rfl⟩ := List.mem_map.1 hrow
    have hjoined := (List.mem_insertionSort _).1 hpair
    have hsame : pair.1.1 = r.1 := toString_int_injective (Json.str.inj (hrowid.symm.trans hitemid))
    have hpairr := hid pair.1 (mem_rows_of_mem_leftJoin hjoined) hsame
    rw [hcolumns k hk, ← hpairr]
    rfl
  constructor
  · intro h
    obtain ⟨o, ho⟩ : ∃ o, (r, o) ∈ leftJoin db.resources.rows fun x => offersOf db x.1 := exists_mem_leftJoin (hrows r hr)
    have hrow : resourceRow r o ∈ queryMatchingResources db :=
      List.mem_map.2 ⟨(r, o), (List.mem_insertionSort _).2 ho, rfl⟩
    obtain ⟨item', hitem', hitemid⟩ : ∃ item' ∈ discovered (Bpp.buildOnSearchResponse s context
        (queryMatchingResources db)), item'.fields.get "id" = .str (toString r.1) :=
      ⟨_, List.mem_map.2 ⟨_, hrow, rfl⟩, rfl⟩
    have hsame := h (publishedResource r (offers r.1)) (List.mem_map.2 ⟨r, hr, rfl⟩) item' hitem' rfl hitemid
    exact (sameProduct_row_iff r _ (hshown item' hitem' hitemid)).1 hsame
  · intro hnames item hitem item' hitem' hitemid hitemid'
    obtain ⟨x, hx, rfl⟩ := List.mem_map.1 (show item ∈ rows.map _ from hitem)
    have htext : "RES-" ++ toString x.1 = "RES-" ++ toString r.1 := Json.str.inj hitemid
    have hxr : x = r := hid x (hrows x hx) (toString_int_injective (String.append_right_inj "RES-" |>.1 htext))
    subst hxr
    exact (sameProduct_row_iff x _ (hshown item' hitem' hitemid')).2 hnames

/-- A motorcycle in its columns, a car in its attributes. -/
private def motorcycle : Resource :=
  { comprehensive with vehicleType := "MOTORCYCLE", resourceAttributes := .obj [("vehicleType", .str "CAR")] }

private def garage : Db := { resources := Table.empty.insert motorcycle }

private def garagePublish : Fields :=
  catalogPublish 1 "insurance-bpp.iontest" "Motor" (plainProvider "insurance-bpp.iontest" "Insurer")
    (garage.resources.rows.map fun x => publishedResource x []) Time.zero Time.zero Time.zero

theorem sameProduct_motorcycle :
    (∀ item ∈ published garagePublish,
      ∀ item' ∈ discovered (Bpp.buildOnSearchResponse {} [] (queryMatchingResources garage)),
        item.fields.get "id" = .str ("RES-" ++ toString (1 : Int)) → item'.fields.get "id" = .str (toString (1 : Int)) →
          SameProduct item item') ↔ NamesColumns motorcycle := by
  have hr : (1, motorcycle) ∈ garage.resources.rows := List.mem_singleton_self _
  exact @sameProduct_iff {} [] 1 "insurance-bpp.iontest" "Motor" (plainProvider "insurance-bpp.iontest" "Insurer")
    Time.zero Time.zero Time.zero garage garage.resources.rows (fun _ => []) (fun _ h => h) (1, motorcycle) hr

private def shown : Json := (discovered (Bpp.buildOnSearchResponse {} [] (queryMatchingResources garage))).headD .null

/-- It is published as a car, and discovered as a motorcycle. -/
theorem motorcycle_published_as_car :
    publishedResource (1, motorcycle) [] ∈ published garagePublish ∧
      shown ∈ discovered (Bpp.buildOnSearchResponse {} [] (queryMatchingResources garage)) ∧
      ((attributesOf (publishedResource (1, motorcycle) [])).get "vehicleType").text = "CAR" ∧
      ((attributesOf shown).get "vehicleType").text = "MOTORCYCLE" ∧
      ¬SameProduct (publishedResource (1, motorcycle) []) shown := by
  have hpublished : ((attributesOf (publishedResource (1, motorcycle) [])).get "vehicleType").text = "CAR" := by
    decide +kernel
  have hshown : ((attributesOf shown).get "vehicleType").text = "MOTORCYCLE" := by decide +kernel
  refine ⟨List.mem_singleton_self _, List.mem_singleton_self _, hpublished, hshown, ?_⟩
  intro hsame
  have htext := congrArg Json.text (hsame "vehicleType" (by decide))
  rw [hpublished, hshown] at htext
  revert htext
  decide

end IonInsurance.Catalog
