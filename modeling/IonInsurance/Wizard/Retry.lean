import Mathlib.Data.List.Flatten
import IonInsurance.Wizard.Publish

/-!
# What attempts leave behind

An attempt that succeeds has inserted one row for each call it makes.  It makes one call for an offer, whose row belongs
to the first of its resources, and an attempt that fails after its first row leaves this row to the next attempt.
-/

namespace IonInsurance.Wizard

open Catalog Interleave Relational

/-! ### An attempt that succeeds -/

/-- The rows that an attempt has inserted. -/
structure Inserted (companyName : Option String) (w : PublishPage) (old new : Db) (ps : List (Int × Provider))
    (rs : List (Int × Resource)) (os : List (Int × Offer)) (cs : List (Int × CatalogRow)) : Prop where
  providers : new.providers.rows = old.providers.rows ++ ps
  resources : new.resources.rows = old.resources.rows ++ rs
  offers : new.offers.rows = old.offers.rows ++ os
  catalogs : new.catalogs.rows = old.catalogs.rows ++ cs
  eachProvider : List.Forall₂ (fun prov x => x.2 = providerRow companyName prov) w.providers.items ps
  eachResource : List.Forall₂ (fun res x => IsResourceRow w.providers.items res x.2) w.resources.items rs
  eachOffer : List.Forall₂ (fun x y => IsOfferRow x.2.2 x.2.1 x.1 y.2)
    (wanted w.resources.items (idMap ResourceItem.id w.resources.items rs) w.offers.items) os
  eachCatalog : List.Forall₂ (fun cat x => IsCatalogRow companyName
    (truthy ((idMap ProviderItem.id w.providers.items ps).get cat.providerId)) cat x.2) w.catalogs.items cs
  positiveProviders : ∀ x ∈ ps, 0 < x.1
  positiveResources : ∀ x ∈ rs, 0 < x.1

/-- No operation takes a provider away. -/
theorem exec_keeps_providers (o : Op) (c : Catalog.Choice) (db : Db) :
    db.providers.rows <+: (exec o c db).2.providers.rows := by
  rcases exec_providers o c db with hsame | ⟨row, hnew⟩
  · rw [hsame]
  · rw [hnew]
    exact List.prefix_append _ _

theorem answer_keeps_providers (s : CatalogService) (r : Request) (c : Call) (db : Db) :
    db.providers.rows <+: (answer s r c db).2.providers.rows := by
  unfold answer
  split
  · have hfollows : (Catalog.handler s r).Follows (fun _ _ => True) (fun _ _ => True) [] :=
      (Prog.asks_of_forall (A := fun _ => True) (fun _ => trivial) _).follows (J := fun _ => True)
        (fun _ _ _ _ => trivial) (fun _ _ _ _ _ => trivial) trivial
    exact Machine.ends_of_follows (M := Catalog.machine s) (d := 0) (w := ⟨db, []⟩)
      (P := fun w => db.providers.rows <+: w.store.providers.rows) hfollows
      (fun w o c hw _ => hw.trans (exec_keeps_providers o c w.store)) (List.prefix_refl _) c.choices
  · exact List.prefix_refl _

theorem run_keeps_providers (s : CatalogService) {α : Type} (p : Page α) (calls : Nat → Call) (db : Db) :
    db.providers.rows <+: (run s p calls db).2.providers.rows := by
  induction p generalizing calls db with
  | ret a => exact List.prefix_refl _
  | ask r next ih => exact (answer_keeps_providers s r (calls 0) db).trans (ih _ _ _)

/-- If the first call of an attempt stores no provider, nothing has happened. -/
theorem attempt_unstored {s : CatalogService} {companyName : Option String} {w : PublishPage} {prov : ProviderItem}
    {calls : Nat → Call} {db : Db} (hfirst : w.providers.items.head? = some prov)
    (h : ¬(calls 0).Stores (providerRow companyName prov)) :
    ∃ err, attempt s companyName w calls db = (.error err, db) := by
  obtain ⟨provs, hprovs⟩ := List.head?_eq_some_iff.1 hfirst
  obtain ⟨err, herr⟩ := (answer_createProvider s companyName prov (calls 0) db).2 h
  refine ⟨err, ?_⟩
  unfold attempt handlePublish
  rw [hprovs]
  exact run_post_error herr

/-- A provider that has been stored stays, whatever comes of the attempt. -/
theorem attempt_stored {s : CatalogService} {companyName : Option String} {w : PublishPage} {prov : ProviderItem}
    {calls : Nat → Call} {db : Db} (hfirst : w.providers.items.head? = some prov)
    (h : (calls 0).Stores (providerRow companyName prov)) :
    db.providers.rows.length < (attempt s companyName w calls db).2.providers.rows.length := by
  obtain ⟨provs, hprovs⟩ := List.head?_eq_some_iff.1 hfirst
  have hstored := (answer_createProvider s companyName prov (calls 0) db).1 h
  have hlonger : db.providers.rows.length <
      (db.providers.insert (providerRow companyName prov)).rows.length := by
    rw [Table.rows_insert, List.length_append]
    exact Nat.lt_succ_self _
  refine hlonger.trans_le ?_
  unfold attempt handlePublish
  rw [hprovs, saveEach]
  unfold Call.told at hstored
  split at hstored
  · rw [run_post_ok hstored]
    exact (run_keeps_providers s _ _ { db with
      providers := db.providers.insert (providerRow companyName prov) }).length_le
  · rw [run_post_error hstored]

/-- The attempt that succeeds starts where the others have left the database. -/
theorem Attempts.before {s : CatalogService} {companyName : Option String} {w : PublishPage} {prov : ProviderItem}
    {db db' : Db} {failed : List (Nat → Call)} (h : Attempts s companyName w db failed db')
    (hfirst : w.providers.items.head? = some prov) :
    ∃ calls db₁, attempt s companyName w calls db₁ = (.ok (), db') ∧
      ((∀ calls ∈ failed, ¬(calls 0).Stores (providerRow companyName prov)) → db₁ = db) ∧
      ((∃ calls ∈ failed, (calls 0).Stores (providerRow companyName prov)) →
        db.providers.rows.length < db₁.providers.rows.length) := by
  induction h with
  | @last db db' calls h =>
    refine ⟨calls, db, h, fun _ => rfl, ?_⟩
    rintro ⟨_, hnone, -⟩
    cases hnone
  | @retry db db₁ db' failed err calls h hrest ih =>
    obtain ⟨calls', db₂, hlast, hsame, hmore⟩ := ih
    refine ⟨calls', db₂, hlast, ?_, ?_⟩
    · intro hnone
      have hunstored : ∃ err, attempt s companyName w calls db = (.error err, db) :=
        attempt_unstored hfirst (hnone calls List.mem_cons_self)
      obtain ⟨err', herr'⟩ := hunstored
      rw [hsame fun calls hcalls => hnone calls (List.mem_cons_of_mem _ hcalls)]
      exact (Prod.mk.inj (h.symm.trans herr')).2
    · intro hsome
      have hkeeps : db.providers.rows.length ≤ db₁.providers.rows.length := by
        have hprefix := (run_keeps_providers s (handlePublish companyName w) calls db).length_le
        rwa [show run s (handlePublish companyName w) calls db = _ from h] at hprefix
      by_cases hlater : ∃ calls ∈ failed, (calls 0).Stores (providerRow companyName prov)
      · exact hkeeps.trans_lt (hmore hlater)
      · obtain ⟨calls'', hmem, hstores⟩ := hsome
        rcases List.mem_cons.1 hmem with hnow | htail
        · rw [hnow] at hstores
          have hstored : db.providers.rows.length < (attempt s companyName w calls db).2.providers.rows.length :=
            attempt_stored hfirst hstores
          rw [h] at hstored
          rwa [hsame fun calls hcalls hstores => hlater ⟨calls, hcalls, hstores⟩]
        · exact absurd ⟨calls'', htail, hstores⟩ hlater

/-! ### Links -/

section Links

variable {α β : Type} {key : α → String} {items : List α} {rows : List (Int × β)}

/-- A test on the items selects as many of the pairs. -/
theorem filter_zip (h : items.length = rows.length) (test : α → Bool) :
    ((items.zip rows).filter fun x => test x.1).map Prod.fst = items.filter test := by
  have hfst : (items.zip rows).map Prod.fst = items := List.map_fst_zip h.le
  conv_rhs => rw [← hfst]
  rw [List.filter_map]
  rfl

theorem filter_zip_singleton (h : items.length = rows.length) {test : α → Bool} {item : α}
    (hitem : items.filter test = [item]) :
    ∃ row, (items.zip rows).filter (fun x => test x.1) = [(item, row)] := by
  rw [← filter_zip h] at hitem
  obtain ⟨x, hx, rfl⟩ := List.map_eq_singleton_iff.1 hitem
  exact ⟨x.2, hx⟩

theorem mem_of_get_idMap {k : String} {id : Int} (h : (idMap key items rows).get k = some id) :
    ∃ item ∈ items, key item = k := by
  obtain ⟨e, he, -⟩ := Option.bind_eq_some_iff.1 h
  obtain ⟨hmem, hkey⟩ := List.mem_filter.1 (List.mem_of_getLast? he)
  obtain ⟨x, hx, rfl⟩ := List.mem_map.1 hmem
  exact ⟨x.1, (List.of_mem_zip hx).1, of_decide_eq_true hkey⟩

/-- The row of the only item with an id. -/
theorem get_idMap_of_filter {k : String} {x : α × Int × β}
    (h : (items.zip rows).filter (fun x => key x.1 = k) = [x]) : (idMap key items rows).get k = some x.2.1 := by
  unfold IdMap.get idMap
  rw [List.filter_map]
  change Option.bind (List.map _ ((items.zip rows).filter fun x => key x.1 = k)).getLast? _ = _
  rw [h]
  rfl

theorem truthy_of_pos {id : Int} (h : 0 < id) : truthy (some id) = some id :=
  Option.filter_eq_some_iff.2 ⟨rfl, decide_eq_true h.ne'⟩

end Links

namespace PublishPage

/-- The resources that the page shows for an offer. -/
def linkedResources (w : PublishPage) (offer : OfferItem) : List ResourceItem :=
  w.resources.items.filter fun r => offer.resourceIds.contains r.id

/-- The offers with their linked resources, and the rows of these. -/
def offerPairs (w : PublishPage) (rs : List (Int × Resource)) : List (OfferItem × ResourceItem × Int × Resource) :=
  w.offers.items.flatMap fun offer =>
    ((w.resources.items.zip rs).filter fun x => offer.resourceIds.contains x.1.id).map fun x => (offer, x)

/-- The provider that a catalog references has that row, and no other provider has its id. -/
def IsLink (w : PublishPage) (ps : List (Int × Provider)) (cat : CatalogItem) (id : Int) : Prop :=
  (∃ x ∈ w.providers.items.zip ps, x.1.id = cat.providerId) ∧
    ∀ x ∈ w.providers.items.zip ps, x.1.id = cat.providerId → x.2.1 = id

end PublishPage

/-- A table has got one row for each item. -/
structure OneEach {α β : Type} (IsRow : α → Int × β → Prop) (items : List α) (old new : Table β)
    (rows : List (Int × β)) : Prop where
  each : List.Forall₂ IsRow items rows
  table : new.rows.Perm (old.rows ++ rows)

/-- The page has been saved: nothing is lost, and nothing is duplicated. -/
structure Published (companyName : Option String) (w : PublishPage) (old new : Db) (ps : List (Int × Provider))
    (rs : List (Int × Resource)) (os : List (Int × Offer)) (cs : List (Int × CatalogRow)) : Prop where
  providers : OneEach (fun prov x => x.2 = providerRow companyName prov) w.providers.items old.providers new.providers ps
  resources : OneEach (fun res x => IsResourceRow w.providers.items res x.2) w.resources.items
    old.resources new.resources rs
  offers : OneEach (fun pair x => IsOfferRow pair.2.2.1 (some pair.2.1) pair.1 x.2) (w.offerPairs rs)
    old.offers new.offers os
  catalogs : OneEach (fun cat x => ∃ id, IsCatalogRow companyName (some id) cat x.2 ∧ w.IsLink ps cat id)
    w.catalogs.items old.catalogs new.catalogs cs

theorem OneEach.length {α β : Type} {IsRow : α → Int × β → Prop} {items : List α} {old new : Table β}
    {rows : List (Int × β)} (h : OneEach IsRow items old new rows) :
    new.rows.length = old.rows.length + items.length := by
  rw [h.table.length_eq, List.length_append, h.each.length_eq]

/-- The resource of a created offer is linked to it. -/
theorem mem_linkedResources {w : PublishPage} {rs : List (Int × Resource)} {offer : OfferItem} {id : Int}
    (h : dbResourceId (idMap ResourceItem.id w.resources.items rs) offer = some id) :
    ∃ res ∈ w.linkedResources offer, offer.resourceIds.head? = some res.id := by
  obtain ⟨k, hk, hrow⟩ := Option.bind_eq_some_iff.1 h
  have hhead : offer.resourceIds.head? = some k := (Option.filter_eq_some_iff.1 hk).1
  obtain ⟨res, hres, rfl⟩ := mem_of_get_idMap (Option.filter_eq_some_iff.1 hrow).1
  refine ⟨res, List.mem_filter.2 ⟨hres, ?_⟩, hhead⟩
  exact List.contains_iff_mem.2 (List.mem_of_head? hhead)

/-- If only the first resource of an offer is linked, no other resource has its id. -/
private theorem filter_first {w : PublishPage} {rs : List (Int × Resource)} {offer : OfferItem} {res : ResourceItem}
    {row : Int × Resource}
    (hpair : (w.resources.items.zip rs).filter (fun x => offer.resourceIds.contains x.1.id) = [(res, row)])
    (hhead : offer.resourceIds.head? = some res.id) :
    (w.resources.items.zip rs).filter (fun x => x.1.id = res.id) = [(res, row)] := by
  have hfirst : offer.resourceIds.contains res.id = true := List.contains_iff_mem.2 (List.mem_of_head? hhead)
  have hfilter : (w.resources.items.zip rs).filter (fun x => x.1.id = res.id) =
      ((w.resources.items.zip rs).filter fun x => offer.resourceIds.contains x.1.id).filter
        fun x => x.1.id = res.id := by
    rw [List.filter_filter]
    apply List.filter_congr
    intro x _
    by_cases hid : x.1.id = res.id
    · simp only [hid, hfirst, decide_true, Bool.and_self]
    · simp only [hid, decide_false, Bool.false_and]
  rw [hfilter, hpair]
  simp only [List.filter_cons, decide_true, if_true, List.filter_nil]

/-- The first resource of an offer, if it is the only one that is linked, is found with its row. -/
theorem dbResourceId_of_linked {w : PublishPage} (hw : w.Saved) {rs : List (Int × Resource)}
    (hlength : w.resources.items.length = rs.length) (hpositive : ∀ x ∈ rs, 0 < x.1) {offer : OfferItem}
    {res : ResourceItem} (hlinked : w.linkedResources offer = [res]) (hhead : offer.resourceIds.head? = some res.id) :
    ∃ row, (w.resources.items.zip rs).filter (fun x => offer.resourceIds.contains x.1.id) = [(res, row)] ∧
      dbResourceId (idMap ResourceItem.id w.resources.items rs) offer = some row.1 ∧
      w.resources.items.find? (fun r => offer.resourceIds.head? = some r.id) = some res := by
  obtain ⟨row, hpair⟩ := filter_zip_singleton hlength hlinked
  have honly := filter_first hpair hhead
  have hmem : (res, row) ∈ (w.resources.items.zip rs).filter fun x => x.1.id = res.id := by
    rw [honly]
    exact List.mem_singleton_self _
  obtain ⟨hres, hrow⟩ := List.of_mem_zip (List.mem_of_mem_filter hmem)
  refine ⟨row, hpair, ?_, ?_⟩
  · unfold dbResourceId
    rw [hhead, Option.filter_some, if_pos (decide_eq_true (ne_empty_of_trim (hw.resources res hres).1)),
      Option.bind_some, get_idMap_of_filter honly]
    exact truthy_of_pos (hpositive row hrow)
  · have hfind : w.resources.items.filter (fun r => r.id = res.id) = [res] := by
      rw [← filter_zip hlength, honly]
      rfl
    have hsame : w.resources.items.filter (fun r => offer.resourceIds.head? = some r.id) =
        w.resources.items.filter fun r => r.id = res.id := by
      rw [hhead]
      apply List.filter_congr
      intro r _
      exact decide_eq_decide.2 (Option.some_inj.trans eq_comm)
    rw [← List.head?_filter, hsame, hfind]
    rfl

/-- The calls for the offers are those of the pairs. -/
theorem wanted_eq {w : PublishPage} (hw : w.Saved) {rs : List (Int × Resource)}
    (hlength : w.resources.items.length = rs.length) (hpositive : ∀ x ∈ rs, 0 < x.1)
    (h : ∀ offer ∈ w.offers.items, w.linkedResources offer = [] ∨
      ∃ res, w.linkedResources offer = [res] ∧ offer.resourceIds.head? = some res.id) :
    wanted w.resources.items (idMap ResourceItem.id w.resources.items rs) w.offers.items =
      (w.offerPairs rs).map fun pair => (pair.1, some pair.2.1, pair.2.2.1) := by
  unfold wanted PublishPage.offerPairs
  rw [List.filterMap_eq_flatMap_toList, List.map_flatMap]
  apply List.flatMap_congr
  intro offer hoffer
  rw [List.map_map]
  rcases h offer hoffer with hnone | ⟨res, hlinked, hhead⟩
  · have hpairs : (w.resources.items.zip rs).filter (fun x => offer.resourceIds.contains x.1.id) = [] := by
      unfold PublishPage.linkedResources at hnone
      rw [← filter_zip hlength] at hnone
      exact List.map_eq_nil_iff.1 hnone
    rw [hpairs]
    cases hid : dbResourceId (idMap ResourceItem.id w.resources.items rs) offer with
    | none => rfl
    | some id =>
      obtain ⟨res, hres, -⟩ := mem_linkedResources hid
      rw [hnone] at hres
      cases hres
  · obtain ⟨row, hpairs, hid, hfind⟩ := dbResourceId_of_linked hw hlength hpositive hlinked hhead
    rw [hpairs, hid, hfind]
    rfl

/-! ### Catalogs -/

/-- Then the id map has the row of this provider. -/
theorem isLink_of_one {w : PublishPage} {ps : List (Int × Provider)} (hlength : w.providers.items.length = ps.length)
    (hpositive : ∀ x ∈ ps, 0 < x.1) {cat : CatalogItem}
    (h : w.providers.items.countP (fun prov => prov.id = cat.providerId) = 1) :
    ∃ id, truthy ((idMap ProviderItem.id w.providers.items ps).get cat.providerId) = some id ∧ w.IsLink ps cat id := by
  rw [List.countP_eq_length_filter, List.length_eq_one_iff] at h
  obtain ⟨prov, hprov⟩ := h
  obtain ⟨row, hrow⟩ := filter_zip_singleton hlength hprov
  have hmem : (prov, row) ∈ (w.providers.items.zip ps).filter fun x => x.1.id = cat.providerId := by
    rw [hrow]
    exact List.mem_singleton_self _
  obtain ⟨hzip, hid⟩ := List.mem_filter.1 hmem
  refine ⟨row.1, ?_, ⟨_, hzip, of_decide_eq_true hid⟩, ?_⟩
  · rw [get_idMap_of_filter hrow]
    exact truthy_of_pos (hpositive _ (List.of_mem_zip hzip).2)
  · intro y hy hyid
    have hys : y ∈ (w.providers.items.zip ps).filter fun x => x.1.id = cat.providerId :=
      List.mem_filter.2 ⟨hy, decide_eq_true hyid⟩
    rw [hrow] at hys
    rw [List.mem_singleton.1 hys]

/-! ### Attempts -/

/-- An attempt that succeeds saves the page, if its offers and its references are clear. -/
theorem Inserted.published {companyName : Option String} {w : PublishPage} (hw : w.Saved) {old new : Db}
    {ps : List (Int × Provider)} {rs : List (Int × Resource)} {os : List (Int × Offer)} {cs : List (Int × CatalogRow)}
    (h : Inserted companyName w old new ps rs os cs)
    (hoffers : ∀ offer ∈ w.offers.items, w.linkedResources offer = [] ∨
      ∃ res, w.linkedResources offer = [res] ∧ offer.resourceIds.head? = some res.id)
    (hcatalogs : ∀ cat ∈ w.catalogs.items,
      w.providers.items.countP (fun prov => prov.id = cat.providerId) = 1) :
    Published companyName w old new ps rs os cs := by
  refine ⟨⟨h.eachProvider, ?_⟩, ⟨h.eachResource, ?_⟩, ⟨?_, ?_⟩, ⟨?_, ?_⟩⟩
  · rw [h.providers]
  · rw [h.resources]
  · have heach := h.eachOffer
    rw [wanted_eq hw h.eachResource.length_eq h.positiveResources hoffers, List.forall₂_map_left_iff] at heach
    exact heach
  · rw [h.offers]
  · refine ((List.forall₂_and_left _ _).2 ⟨hcatalogs, h.eachCatalog⟩).imp ?_
    intro cat x hcat
    obtain ⟨hone, hrow⟩ := hcat
    obtain ⟨id, hid, hlink⟩ := isLink_of_one h.eachProvider.length_eq h.positiveProviders hone
    exact ⟨id, hid ▸ hrow, hlink⟩
  · rw [h.catalogs]

section Published

variable {companyName : Option String} {w : PublishPage} {old new : Db} {ps : List (Int × Provider)}
  {rs : List (Int × Resource)} {os : List (Int × Offer)} {cs : List (Int × CatalogRow)}

end Published

end IonInsurance.Wizard
