import IonInsurance.Interleave.Machine
import IonInsurance.Catalog.Messages

/-!
# The catalogue service

The handlers through which an insurer fills the catalogue and publishes it, and the webhook that the cataloguing
service calls back: their statements, their requests and their readings of the clock, in the order of the source.
-/

namespace IonInsurance.Catalog

open Interleave

structure CatalogService where
  scanGPS : String → Option (ℚ × ℚ) := fun _ => none

/-! ### Operations -/

inductive Op : Type where
  | now
  | mapOrder
  | postPublish (payload : Fields)
  | insertProvider (p : Provider)
  | insertCatalog (bppID name : String) (descriptor validity : Json) (version : String) (providerID : Option Int)
  | insertResource (bppID productType vehicleType ojkCode : String) (attrs : Json)
  | insertOffer (resourceID : Int) (bppID zone : String) (minRate maxRate : ℚ) (attrs : Json)
      (validUntil : Option Time)
  | selectCatalog (id : Int)
  | selectProvider (id : Int)
  | selectCompanyName
  | selectResources (bppID : String)
  | selectOffers (resourceID : Int)
  | insertPending (catalogID : Int)
  | updateResults (catalogID : Int) (status : String) (payload : Fields) (now : Time)

/-- What `rows.Next()` gives of a query that was sent: all its rows, or the first of them and an error, which only
`rows.Err()` would show. -/
structure Rows (α : Type) where
  rows : List α
  err : Option String

def Op.Ans : Op → Type
  | now => Time
  | mapOrder => MapOrder
  | postPublish _ => Reply
  | insertProvider _ => Except String Int
  | insertCatalog .. => Except String Int
  | insertResource .. => Except String Int
  | insertOffer .. => Except String Int
  | selectCatalog _ => Except String CatalogRow
  | selectProvider _ => Except String Provider
  | selectCompanyName => Except String String
  | selectResources _ => Except String (Rows (Int × Resource))
  | selectOffers _ => Except String (Rows (Int × Offer))
  | insertPending _ => Except String Unit
  | updateResults .. => Except String Unit

/-- What the environment decides about one operation. -/
structure Choice where
  sqlError : Option String := none
  /-- The error that ends the rows of a query, and how many rows there are before it. -/
  rowsError : Option (Nat × String) := none
  now : Time := Time.zero
  reply : Reply := .status 200
  mapOrder : MapOrder := {}

theorem perm_self (_ : Nat) (m : Fields) : m.Perm m := .refl m

/-- No statement fails, and a map is ranged over in its own order. -/
def Choice.plain (now : Time) : Choice where
  now := now
  mapOrder := ⟨fun _ m => m, perm_self⟩

/-- The row that a query finds. -/
def found {α : Type} (row : Option α) : Except String α := row.elim (.error noRows) .ok

/-- The rows of a query, as far as the connection gives them. -/
def Choice.read {α : Type} (c : Choice) (rows : List α) : Rows α :=
  match c.rowsError with
  | some (n, err) => ⟨rows.take n, some err⟩
  | none => ⟨rows, none⟩

theorem Choice.read_prefix {α : Type} (c : Choice) (rows : List α) : (c.read rows).rows <+: rows := by
  unfold read
  cases c.rowsError with
  | none => exact List.prefix_rfl
  | some e => exact List.take_prefix ..

/-- A query whose rows do not end with an error has given all of them. -/
theorem Choice.read_complete {α : Type} {c : Choice} {rows : List α} (h : (c.read rows).err = none) :
    (c.read rows).rows = rows := by
  unfold read at h ⊢
  cases hc : c.rowsError with
  | none => rfl
  | some e =>
    rw [hc] at h
    cases h

def exec : (o : Op) → Choice → Db → o.Ans × Db
  | .now, c, s => (c.now, s)
  | .mapOrder, c, s => (c.mapOrder, s)
  | .postPublish _, c, s => (c.reply, s)
  | .insertProvider p, c, s => statement c.sqlError s (s.insertProvider p)
  | .insertCatalog bppID name descriptor validity version providerID, c, s =>
    statement c.sqlError s (s.insertCatalog ⟨bppID, name, descriptor, validity, version, providerID, c.now.toMicro⟩)
  | .insertResource bppID productType vehicleType ojkCode attrs, c, s =>
    statement c.sqlError s (s.insertResource ⟨bppID, productType, vehicleType, ojkCode, attrs, c.now.toMicro⟩)
  | .insertOffer resourceID bppID zone minRate maxRate attrs validUntil, c, s =>
    statement c.sqlError s (s.insertOffer resourceID bppID zone minRate maxRate attrs (validUntil.map Time.toMicro))
  | .selectCatalog id, c, s => statement c.sqlError s (found (s.catalogs.get? id), s)
  | .selectProvider id, c, s => statement c.sqlError s (found (s.providers.get? id), s)
  | .selectCompanyName, c, s => statement c.sqlError s (found s.companyName, s)
  | .selectResources bppID, c, s =>
    statement c.sqlError s (.ok (c.read (s.resources.rows.filter fun r => r.2.bppID = bppID)), s)
  | .selectOffers resourceID, c, s => statement c.sqlError s (.ok (c.read (offersOf s resourceID)), s)
  | .insertPending catalogID, c, s => statement c.sqlError s (s.insertPending catalogID)
  | .updateResults catalogID status payload now, c, s =>
    statement c.sqlError s (s.updateResults catalogID status payload now)

/-! ### Requests and responses -/

/-- The bodies of the requests; a `map[string]any` is an object or null. -/
structure CreateProviderRequest where
  name : String
  descriptor : Json := .null
  locations : Option (List Json) := none
  providerAttributes : Json := .null

structure CreateCatalogRequest where
  name : String
  descriptor : Json := .null
  validity : Json := .null
  version : String := ""
  providerID : Option Int := none

structure CreateResourceRequest where
  productType : String
  vehicleType : String
  ojkProductCode : String
  resourceAttributes : Json := .null

structure CreateOfferRequest where
  resourceID : Int
  tariffZone : String
  premiumRateMin : ℚ
  premiumRateMax : ℚ
  offerAttributes : Json := .null
  validUntil : Option Time := none

/-- A request; the claims of its token may name a company. -/
inductive Request : Type where
  | createProvider (companyName : Option String) (req : CreateProviderRequest)
  | createCatalog (companyName : Option String) (req : CreateCatalogRequest)
  | createResource (req : CreateResourceRequest)
  | createOffer (req : CreateOfferRequest)
  | publishCatalog (catalogID : Int)
  | onPublish (req : Fields)

inductive Response : Type where
  | created (id : Int)
  | publishSent
  | ack
  | problem (status : Nat) (title detail : String)

/-! ### Handlers -/

abbrev Task := Prog Op Op.Ans

abbrev call (o : Op) : Task o.Ans := Prog.call o

def defaultBPPID : String := "insurance-bpp.iontest"

/-- `c.ShouldBindJSON`: the errors of the required fields that are missing. -/
def missing (request : String) (fields : List (String × Bool)) : List String :=
  (fields.filter fun field => !field.2).map fun (field, _) =>
    "Key: '" ++ request ++ "." ++ field ++ "' Error:Field validation for '" ++ field ++ "' failed on the 'required' tag"

/-- A request with all its required fields is handled. -/
def bound (errors : List String) (p : Task Response) : Task Response :=
  if errors.isEmpty then p else return .problem 400 "Bad Request" ("\n".intercalate errors)

/-- The response to a request that inserts a row. -/
def created : Except String Int → Response
  | .error err => .problem 500 "Internal Error" err
  | .ok id => .created id

def create (o : Task (Except String Int)) : Task Response := do
  return created (← o)

def createProvider (companyName : Option String) (req : CreateProviderRequest) : Task Response :=
  bound (missing "CreateProviderRequest" [("Name", req.name ≠ "")]) <| create <| call <| .insertProvider
    { bppID := companyName.getD defaultBPPID
      name := req.name
      descriptor := req.descriptor
      locations := req.locations.getD []
      attributes := req.providerAttributes }

def createCatalog (companyName : Option String) (req : CreateCatalogRequest) : Task Response :=
  bound (missing "CreateCatalogRequest" [("Name", req.name ≠ "")]) <| create <| call <|
    .insertCatalog (companyName.getD defaultBPPID) req.name req.descriptor req.validity
      (if req.version = "" then "1.0.0" else req.version) req.providerID

def createResource (req : CreateResourceRequest) : Task Response :=
  bound (missing "CreateResourceRequest" [("ProductType", req.productType ≠ ""),
    ("VehicleType", req.vehicleType ≠ ""), ("OJKProductCode", req.ojkProductCode ≠ "")]) <| create <| call <|
    .insertResource defaultBPPID req.productType req.vehicleType req.ojkProductCode req.resourceAttributes

def createOffer (req : CreateOfferRequest) : Task Response :=
  bound (missing "CreateOfferRequest" [("ResourceID", req.resourceID ≠ 0), ("TariffZone", req.tariffZone ≠ ""),
    ("PremiumRateMin", req.premiumRateMin ≠ 0), ("PremiumRateMax", req.premiumRateMax ≠ 0)]) <| create <| call <|
    .insertOffer req.resourceID defaultBPPID req.tariffZone req.premiumRateMin req.premiumRateMax req.offerAttributes
      req.validUntil

/-- Prefers the linked providers row; falls back to the provider accounts. -/
def providerBlock (s : CatalogService) (bppID : String) (catalog : CatalogRow) : Task Fields := do
  match catalog.providerID with
  | some id =>
    match ← call (.selectProvider id) with
    | .error _ => return plainProvider bppID bppID
    | .ok p =>
      let order ← call .mapOrder
      return linkedProvider s.scanGPS order id p
  | none =>
    let companyName := (← call .selectCompanyName).toOption.getD ""
    return plainProvider bppID (if companyName = "" then bppID else companyName)

/-- The resources, each with its offers. -/
def publishedResources : List (Int × Resource) → Task (List Json)
  | [] => return []
  | r :: rows => do
    let offers ← call (.selectOffers r.1)
    let resources ← publishedResources rows
    return publishedResource r (offers.toOption.elim [] Rows.rows) :: resources

def publishFailed (err : String) : Response := .problem 500 "Publish Failed" err

/-- Sends the catalog to the cataloguing service, and inserts a `PENDING` result once it has been taken. -/
def sendPublish (catalogID : Int) (payload : Fields) : Task Response := do
  match ← call (.postPublish payload) with
  | .failed err => return publishFailed ("forward catalog/publish to onix-bpp caller: " ++ err)
  | .response status body _ =>
    if status ≥ 400 then
      return publishFailed ("onix-bpp caller returned " ++ toString status ++ ": " ++ body)
    else
      match ← call (.insertPending catalogID) with
      | .error err => return publishFailed err
      | .ok () => return .publishSent

def publishCatalog (s : CatalogService) (catalogID : Int) : Task Response :=
  bound (missing "PublishCatalogRequest" [("CatalogID", catalogID ≠ 0)]) do
    match ← call (.selectCatalog catalogID) with
    | .error err => return publishFailed ("fetch catalog " ++ toString catalogID ++ ": " ++ err)
    | .ok catalog =>
      let provider ← providerBlock s defaultBPPID catalog
      match ← call (.selectResources defaultBPPID) with
      | .error err => return publishFailed ("fetch resources: " ++ err)
      | .ok resRows =>
        -- an error of the rows is not looked at
        let resources ← publishedResources resRows.rows
        let resources := if resources.isEmpty then [defaultResource catalogID catalog.name] else resources
        let t₁ ← call .now
        let t₂ ← call .now
        let t₃ ← call .now
        sendPublish catalogID (catalogPublish catalogID defaultBPPID catalog.name provider resources t₁ t₂ t₃)

/-- The callback is acknowledged whatever its update has done. -/
def onPublish (req : Fields) : Task Response := do
  let input := onPublishInput req
  let now ← call .now
  let _ ← call (.updateResults input.catalogID input.status req now)
  return .ack

def handler (s : CatalogService) : Request → Task Response
  | .createProvider companyName req => createProvider companyName req
  | .createCatalog companyName req => createCatalog companyName req
  | .createResource req => createResource req
  | .createOffer req => createOffer req
  | .publishCatalog catalogID => publishCatalog s catalogID
  | .onPublish req => onPublish req

def machine (s : CatalogService) : Machine Db Choice Request Op Op.Ans Response where
  exec := exec
  handler := handler s

abbrev CatalogWorld := World Db Request Op Op.Ans

abbrev CatalogConfig := Config Db Request Op Op.Ans Response

/-! ### What an operation does -/

/-- The operation may change the results of a catalog. -/
def Op.writesResults : Op → Bool
  | insertPending _ | updateResults .. => true
  | _ => false

/-- What an operation does to the tables: it inserts a row, changes the results, or leaves them alone. -/
inductive DbStep (s : Db) : Op → Db → Prop where
  | keep (o : Op) : DbStep s o s
  | provider {o : Op} (row : Provider) : DbStep s o { s with providers := s.providers.insert row }
  | catalog {o : Op} (row : CatalogRow) : DbStep s o { s with catalogs := s.catalogs.insert row }
  | resource {o : Op} (row : Resource) : DbStep s o { s with resources := s.resources.insert row }
  | offer {o : Op} (row : Offer) : DbStep s o { s with offers := s.offers.insert row }
  | results {o : Op} (ho : o.writesResults = true) (T : Relational.Table PublishResult) :
      DbStep s o { s with publishResults := T }

/-- Every operation changes the tables in one of these ways. -/
theorem exec_dbStep (o : Op) (c : Choice) (s : Db) : DbStep s o (exec o c s).2 := by
  have hstatement : ∀ {α : Type} {run : Except String α × Db}, DbStep s o run.2 →
      DbStep s o (statement c.sqlError s run).2 :=
    fun hrun => statement_keeps c.sqlError (.keep o) hrun
  cases o with
  | insertProvider p =>
    apply hstatement
    rcases s.insertProvider_cases p with hok | ⟨err, herr⟩
    · rw [hok]
      exact .provider p
    · rw [herr]
      exact .keep _
  | insertCatalog bppID name descriptor validity version providerID =>
    apply hstatement
    rcases s.insertCatalog_cases ⟨bppID, name, descriptor, validity, version, providerID, c.now.toMicro⟩ with
      hok | ⟨err, herr⟩
    · rw [hok]
      exact .catalog _
    · rw [herr]
      exact .keep _
  | insertResource bppID productType vehicleType ojkCode attrs =>
    apply hstatement
    rcases s.insertResource_cases ⟨bppID, productType, vehicleType, ojkCode, attrs, c.now.toMicro⟩ with
      hok | ⟨err, herr⟩
    · rw [hok]
      exact .resource _
    · rw [herr]
      exact .keep _
  | insertOffer resourceID bppID zone minRate maxRate attrs validUntil =>
    apply hstatement
    rcases s.insertOffer_cases resourceID bppID zone minRate maxRate attrs (validUntil.map Time.toMicro) with
      ⟨min, max, -, -, hok⟩ | ⟨err, herr⟩
    · rw [hok]
      exact .offer _
    · rw [herr]
      exact .keep _
  | insertPending catalogID =>
    apply hstatement
    rcases s.insertPending_cases catalogID with hok | ⟨err, herr⟩
    · rw [hok]
      exact .results rfl _
    · rw [herr]
      exact .keep _
  | updateResults catalogID status payload now =>
    apply hstatement
    rcases s.updateResults_cases catalogID status payload now with hok | ⟨err, herr⟩
    · rw [hok]
      exact .results rfl _
    · rw [herr]
      exact .keep _
  | selectCatalog | selectProvider | selectCompanyName | selectResources | selectOffers => exact hstatement (.keep _)
  | now | mapOrder | postPublish => exact .keep _

/-- An operation that does not write results leaves them alone. -/
theorem exec_publishResults {o : Op} (ho : o.writesResults = false) (c : Choice) (s : Db) :
    (exec o c s).2.publishResults = s.publishResults := by
  have hstep := exec_dbStep o c s
  generalize (exec o c s).2 = s' at hstep ⊢
  cases hstep with
  | results hwrites T =>
    rw [ho] at hwrites
    cases hwrites
  | keep | provider | catalog | resource | offer => rfl

/-- An operation inserts at most one catalog. -/
theorem exec_catalogs (o : Op) (c : Choice) (s : Db) :
    (exec o c s).2.catalogs = s.catalogs ∨ ∃ row, (exec o c s).2.catalogs = s.catalogs.insert row := by
  have hstep := exec_dbStep o c s
  generalize (exec o c s).2 = s' at hstep ⊢
  cases hstep with
  | catalog row => exact .inr ⟨row, rfl⟩
  | keep | provider | resource | offer | results => exact .inl rfl

/-- An operation inserts at most one provider. -/
theorem exec_providers (o : Op) (c : Choice) (s : Db) :
    (exec o c s).2.providers = s.providers ∨ ∃ row, (exec o c s).2.providers = s.providers.insert row := by
  have hstep := exec_dbStep o c s
  generalize (exec o c s).2 = s' at hstep ⊢
  cases hstep with
  | provider row => exact .inr ⟨row, rfl⟩
  | keep | catalog | resource | offer | results => exact .inl rfl

/-! ### What a publish asks -/

/-- The operation reads the clock, the tables or the order of a map. -/
def Op.Reads : Op → Prop
  | now | mapOrder | selectCatalog _ | selectProvider _ | selectCompanyName | selectResources _ | selectOffers _ => True
  | _ => False

theorem bound_asks {A : Op → Prop} {p : Task Response} (errors : List String) (h : p.Asks A) :
    (bound errors p).Asks A := by
  unfold bound
  split
  · exact h
  · trivial

theorem providerBlock_reads (s : CatalogService) (bppID : String) (catalog : CatalogRow) :
    (providerBlock s bppID catalog).Asks Op.Reads := by
  unfold providerBlock
  cases catalog.providerID with
  | none => exact ⟨trivial, fun _ => trivial⟩
  | some id =>
    refine ⟨trivial, fun a => ?_⟩
    change Except String Provider at a
    cases a with
    | error err => trivial
    | ok p => exact ⟨trivial, fun _ => trivial⟩

theorem publishedResources_reads (rows : List (Int × Resource)) : (publishedResources rows).Asks Op.Reads := by
  induction rows with
  | nil => trivial
  | cons r rows ih => exact ⟨trivial, fun _ => ih.bind fun _ => trivial⟩

/-- A publish only reads, sends and writes results. -/
theorem publishCatalog_asks (s : CatalogService) (catalogID : Int) :
    (publishCatalog s catalogID).Asks fun o =>
      o.Reads ∨ (∃ payload, o = .postPublish payload) ∨ ∃ id, o = .insertPending id := by
  have hreads : ∀ {α : Type} {p : Task α}, p.Asks Op.Reads → p.Asks fun o =>
      o.Reads ∨ (∃ payload, o = .postPublish payload) ∨ ∃ id, o = .insertPending id :=
    fun hp => hp.mono fun _ => .inl
  refine bound_asks _ ⟨.inl trivial, fun a => ?_⟩
  change Except String CatalogRow at a
  cases a with
  | error err => trivial
  | ok catalog =>
    refine (hreads (providerBlock_reads s defaultBPPID catalog)).bind fun provider => ⟨.inl trivial, fun a => ?_⟩
    change Except String (Rows (Int × Resource)) at a
    cases a with
    | error err => trivial
    | ok resRows =>
      refine (hreads (publishedResources_reads resRows.rows)).bind fun resources => ?_
      refine ⟨.inl trivial, fun _ => ⟨.inl trivial, fun _ => ⟨.inl trivial, fun _ => ⟨.inr (.inl ⟨_, rfl⟩), ?_⟩⟩⟩⟩
      intro reply
      change Reply at reply
      cases reply with
      | failed err => trivial
      | response status body json =>
        show Prog.Asks _ (if status ≥ 400 then _ else _)
        split
        · trivial
        · refine ⟨.inr (.inr ⟨_, rfl⟩), fun a => ?_⟩
          change Except String Unit at a
          cases a <;> trivial

end IonInsurance.Catalog
