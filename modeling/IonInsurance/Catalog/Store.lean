import Mathlib.Data.List.Sort
import Mathlib.Data.Rat.Floor
import IonInsurance.Relational.LeftJoin
import IonInsurance.Relational.Table
import IonInsurance.Bap.Store
import IonInsurance.Bpp.Store

/-!
# The tables of the catalogue

What an insurer publishes: its providers, catalogs, resources and offers, and the results of publishing a catalog.
Discovery joins the resources with their offers, and the list of catalogs shows the result with the largest id.
-/

namespace IonInsurance.Catalog

open Relational

/-! ### Rows -/

/-- `NUMERIC(5,2)`. -/
structure Rate where
  hundredths : Int
  fits : hundredths.natAbs < 100000
  deriving DecidableEq

def Rate.value (r : Rate) : ℚ := r.hundredths / 100

/-- A number for a `NUMERIC(5,2)` column, rounded half away from zero. -/
def Rate.ofFloat? (q : ℚ) : Option Rate :=
  let n := if 0 ≤ q then ⌊q * 100 + 1 / 2⌋ else -⌊-(q * 100) + 1 / 2⌋
  if h : n.natAbs < 100000 then some ⟨n, h⟩ else none

structure Provider where
  bppID : String
  name : String
  descriptor : Json
  locations : List Json
  attributes : Json

/-- A row of `catalogs`. -/
structure CatalogRow where
  bppID : String
  name : String
  descriptor : Json
  validity : Json
  version : String
  providerID : Option Int
  createdAt : Time

structure Resource where
  bppID : String
  productType : String
  vehicleType : String
  ojkProductCode : String
  resourceAttributes : Json
  createdAt : Time

structure Offer where
  resourceID : Int
  bppID : String
  tariffZone : String
  premiumRateMin : Rate
  premiumRateMax : Rate
  offerAttributes : Json
  validUntil : Option Time

/-- A row of `catalog_publish_results`. -/
structure PublishResult where
  catalogID : Int
  cdsStatus : String
  resultPayload : Fields := []
  publishedAt : Option Time := none

/-- `companyName` is that of the first provider account. -/
structure Db where
  companyName : Option String := none
  providers : Table Provider := .empty
  catalogs : Table CatalogRow := .empty
  resources : Table Resource := .empty
  offers : Table Offer := .empty
  publishResults : Table PublishResult := .empty

/-! ### Statements -/

/-- The values of a provider fit their columns. -/
def Provider.fits (p : Provider) : Bool :=
  fitsVarchar 255 p.bppID && fitsVarchar 255 p.name && Bap.fitsJsonb p.descriptor && Bap.fitsJsonbItems p.locations &&
    Bap.fitsJsonb p.attributes

namespace Db

def insertProvider (s : Db) (p : Provider) : Except String Int × Db :=
  if p.fits then
    (.ok s.providers.next, { s with providers := s.providers.insert p })
  else (.error valueTooLong, s)

/-- The provider of a catalog must have a row, if it has one. -/
def insertCatalog (s : Db) (c : CatalogRow) : Except String Int × Db :=
  if fitsVarchar 255 c.bppID && fitsVarchar 255 c.name && fitsVarchar 50 c.version && Bap.fitsJsonb c.descriptor &&
      Bap.fitsJsonb c.validity then
    if c.providerID.all fun id => (s.providers.get? id).isSome then
      (.ok s.catalogs.next, { s with catalogs := s.catalogs.insert c })
    else (.error "insert violates foreign key constraint", s)
  else (.error valueTooLong, s)

def insertResource (s : Db) (r : Resource) : Except String Int × Db :=
  if fitsVarchar 255 r.bppID && fitsVarchar 50 r.productType && fitsVarchar 50 r.vehicleType &&
      fitsVarchar 100 r.ojkProductCode && Bap.fitsJsonb r.resourceAttributes then
    (.ok s.resources.next, { s with resources := s.resources.insert r })
  else (.error valueTooLong, s)

/-- The resource of an offer must have a row, and its rates must fit their columns. -/
def insertOffer (s : Db) (resourceID : Int) (bppID zone : String) (minRate maxRate : ℚ) (attributes : Json)
    (validUntil : Option Time) : Except String Int × Db :=
  if fitsVarchar 255 bppID && fitsVarchar 20 zone && Bap.fitsJsonb attributes then
    match Rate.ofFloat? minRate, Rate.ofFloat? maxRate with
    | some min, some max =>
      if (s.resources.get? resourceID).isSome then
        (.ok s.offers.next, { s with
          offers := s.offers.insert ⟨resourceID, bppID, zone, min, max, attributes, validUntil⟩ })
      else (.error "insert violates foreign key constraint", s)
    | _, _ => (.error "numeric field overflow", s)
  else (.error valueTooLong, s)

/-- `INSERT INTO catalog_publish_results (catalog_id, cds_status) VALUES (catalogID, 'PENDING')`. -/
def insertPending (s : Db) (catalogID : Int) : Except String Unit × Db :=
  if (s.catalogs.get? catalogID).isSome then
    (.ok (), { s with publishResults := s.publishResults.insert { catalogID := catalogID, cdsStatus := "PENDING" } })
  else (.error "insert violates foreign key constraint", s)

/-- `UPDATE catalog_publish_results SET cds_status, … WHERE catalog_id = catalogID`: every result of the catalog. -/
def updateResults (s : Db) (catalogID : Int) (status : String) (payload : Fields) (now : Time) :
    Except String Unit × Db :=
  if fitsVarchar 50 status && Bap.fitsJsonbFields payload then
    (.ok (), { s with publishResults := s.publishResults.update (fun r => r.catalogID = catalogID) fun r =>
      { r with cdsStatus := status, resultPayload := payload, publishedAt := some now.toMicro } })
  else (.error valueTooLong, s)

/-! A statement inserts its row or changes nothing. -/

theorem insertProvider_cases (s : Db) (p : Provider) :
    s.insertProvider p = (.ok s.providers.next, { s with providers := s.providers.insert p }) ∨
      ∃ err, s.insertProvider p = (.error err, s) := by
  unfold insertProvider
  split
  · exact .inl rfl
  · exact .inr ⟨_, rfl⟩

theorem insertCatalog_cases (s : Db) (c : CatalogRow) :
    s.insertCatalog c = (.ok s.catalogs.next, { s with catalogs := s.catalogs.insert c }) ∨
      ∃ err, s.insertCatalog c = (.error err, s) := by
  unfold insertCatalog
  split
  · split
    · exact .inl rfl
    · exact .inr ⟨_, rfl⟩
  · exact .inr ⟨_, rfl⟩

theorem insertResource_cases (s : Db) (r : Resource) :
    s.insertResource r = (.ok s.resources.next, { s with resources := s.resources.insert r }) ∨
      ∃ err, s.insertResource r = (.error err, s) := by
  unfold insertResource
  split
  · exact .inl rfl
  · exact .inr ⟨_, rfl⟩

theorem insertOffer_cases (s : Db) (resourceID : Int) (bppID zone : String) (minRate maxRate : ℚ) (attributes : Json)
    (validUntil : Option Time) :
    (∃ min max, Rate.ofFloat? minRate = some min ∧ Rate.ofFloat? maxRate = some max ∧
      s.insertOffer resourceID bppID zone minRate maxRate attributes validUntil = (.ok s.offers.next,
        { s with offers := s.offers.insert ⟨resourceID, bppID, zone, min, max, attributes, validUntil⟩ })) ∨
      ∃ err, s.insertOffer resourceID bppID zone minRate maxRate attributes validUntil = (.error err, s) := by
  unfold insertOffer
  split
  · split
    · rename_i min max hmin hmax
      split
      · exact .inl ⟨min, max, hmin, hmax, rfl⟩
      · exact .inr ⟨_, rfl⟩
    · exact .inr ⟨_, rfl⟩
  · exact .inr ⟨_, rfl⟩

theorem insertPending_cases (s : Db) (catalogID : Int) :
    s.insertPending catalogID = (.ok (), { s with
        publishResults := s.publishResults.insert { catalogID := catalogID, cdsStatus := "PENDING" } }) ∨
      ∃ err, s.insertPending catalogID = (.error err, s) := by
  unfold insertPending
  split
  · exact .inl rfl
  · exact .inr ⟨_, rfl⟩

theorem updateResults_cases (s : Db) (catalogID : Int) (status : String) (payload : Fields) (now : Time) :
    s.updateResults catalogID status payload now = (.ok (), { s with
        publishResults := s.publishResults.update (fun r => r.catalogID = catalogID) fun r =>
          { r with cdsStatus := status, resultPayload := payload, publishedAt := some now.toMicro } }) ∨
      ∃ err, s.updateResults catalogID status payload now = (.error err, s) := by
  unfold updateResults
  split
  · exact .inl rfl
  · exact .inr ⟨_, rfl⟩

/-! ### Queries -/

/-- The result of a catalog with the largest id. -/
def cdsStatus (s : Db) (catalogID : Int) : String :=
  ((s.publishResults.latest? fun r => r.catalogID = catalogID).map fun x => x.2.cdsStatus).getD "UNPUBLISHED"

end Db

/-- A row of the list of catalogs. -/
structure ListedCatalog where
  id : Int
  bppID : String
  name : String
  version : String
  createdAt : Time
  cdsStatus : String
  providerID : Option Int
  providerName : String

/-- The catalogs, latest first. -/
def listCatalogs (s : Db) : List ListedCatalog :=
  (s.catalogs.rows.insertionSort fun x y => ¬x.2.createdAt.Before y.2.createdAt).map fun (id, c) =>
    { id := id
      bppID := c.bppID
      name := c.name
      version := c.version
      createdAt := c.createdAt
      cdsStatus := s.cdsStatus id
      providerID := c.providerID
      providerName := ((c.providerID.bind s.providers.get?).map Provider.name).getD "" }

/-- A resource with one of its offers, or with none. -/
def resourceRow (r : Int × Resource) (o : Option (Int × Offer)) : Bpp.ResourceRow where
  id := r.1
  productType := r.2.productType
  vehicleType := r.2.vehicleType
  ojkProductCode := r.2.ojkProductCode
  resourceAttributes := r.2.resourceAttributes.fields
  tariffZone := (o.map fun o => o.2.tariffZone).getD ""
  premiumRateMin := (o.map fun o => o.2.premiumRateMin.value).getD 0
  premiumRateMax := (o.map fun o => o.2.premiumRateMax.value).getD 0

/-- The offers of a resource. -/
def offersOf (s : Db) (resourceID : Int) : List (Int × Offer) :=
  s.offers.rows.filter fun o => o.2.resourceID = resourceID

/-- The resources with their offers, latest resource first. -/
def queryMatchingResources (s : Db) : List Bpp.ResourceRow :=
  ((leftJoin s.resources.rows fun r => offersOf s r.1).insertionSort
    fun x y => ¬x.1.2.createdAt.Before y.1.2.createdAt).map fun x => resourceRow x.1 x.2

/-- Every resource is found with each of its offers. -/
theorem mem_queryMatchingResources {s : Db} {r : Int × Resource} {o : Int × Offer} (hr : r ∈ s.resources.rows)
    (ho : o ∈ s.offers.rows) (hlink : o.2.resourceID = r.1) : resourceRow r (some o) ∈ queryMatchingResources s := by
  have hpair : (r, some o) ∈ leftJoin s.resources.rows fun r => offersOf s r.1 :=
    mem_leftJoin.2 ⟨hr, List.mem_filter.2 ⟨ho, decide_eq_true hlink⟩⟩
  exact List.mem_map.2 ⟨_, (List.mem_insertionSort _).2 hpair, rfl⟩

end IonInsurance.Catalog
