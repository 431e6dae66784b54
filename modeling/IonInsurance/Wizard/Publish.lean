import IonInsurance.Interleave.Serve
import IonInsurance.Catalog.Service
import IonInsurance.Wizard.Steps

/-!
# Publishing the wizard

`handlePublish` saves the items of the page one call after the other, remembers the ids of the rows, and stops at the
first call that fails.  Another attempt starts from the beginning.
-/

namespace IonInsurance.Wizard

open Catalog Interleave Relational

/-! ### Calls -/

/-- What happens to a call on its way: whether it arrives, what the service finds, and whether the response returns. -/
structure Call where
  arrives : Bool := true
  choices : Nat → Catalog.Choice := fun _ => {}
  returns : Bool := true

/-- `res.data?.id`, or the error that is thrown. -/
def result : Response → Except String (Option Int)
  | .created id => .ok (some id)
  | .publishSent | .ack => .ok none
  | .problem _ _ detail => .error detail

def networkError : String := "Network Error"

/-- `client.post`: the service handles the request to completion, if it arrives. -/
def answer (s : CatalogService) (r : Request) (c : Call) (db : Db) : Except String (Option Int) × Db :=
  if c.arrives then
    let served := (Catalog.machine s).finish 0 (Catalog.handler s r) c.choices ⟨db, []⟩
    (if c.returns then result served.1 else .error networkError, served.2.store)
  else (.error networkError, db)

abbrev Page := Prog Request fun _ => Except String (Option Int)

/-- `await client.post(…)`, followed by the rest of the `try` block. -/
def post (r : Request) (next : Option Int → Page (Except String Unit)) : Page (Except String Unit) := do
  match ← Prog.call r with
  | .error err => return .error err
  | .ok id => next id

/-! ### Requests -/

/-- An object that is used as a map; the last assignment to a key counts.  A name that every object inherits, such as
`__proto__`, is taken for a key like any other. -/
abbrev IdMap := List (String × Option Int)

def IdMap.get (m : IdMap) (k : String) : Option Int := ((m.filter fun e => e.1 = k).getLast?).bind Prod.snd

/-- A row id where the page asks for a true value. -/
def truthy (id : Option Int) : Option Int := id.filter fun n => n ≠ 0

/-- `{ ...base, ...m }`. -/
def spread (base m : Fields) : Fields := m.foldl (fun acc e => acc.set e.1 e.2) base

def providerRequest (prov : ProviderItem) : CreateProviderRequest where
  name := nameOf prov.descriptor
  descriptor := .obj prov.descriptor
  locations := some prov.availableAt
  providerAttributes := .obj prov.providerAttributes

def resourceRequest (providers : List ProviderItem) (res : ResourceItem) : CreateResourceRequest :=
  let ra := res.resourceAttributes
  let linkedProvider := (providers.find? fun p => p.id = res.providerId).or providers.head?
  let attrs := spread
    [("@context", .str "https://schema.ion.id/finance/insurance-resource/v1/context.jsonld"),
     ("@type", .str "ion:InsuranceProduct")] ra
  let attrs := (attrs.set "descriptor" (.obj res.descriptor)).set "category" (.obj res.category)
  { productType := (ra.get "productType").text
    vehicleType := (ra.get "vehicleType").text
    ojkProductCode := (ra.get "ojkProductCode").text
    resourceAttributes := .obj <|
      match linkedProvider with
      | some p => attrs.set "provider" (.obj
          [("id", .str p.id), ("descriptor", .obj p.descriptor), ("providerAttributes", .obj p.providerAttributes)])
      | none => attrs }

/-- `Number(s)` of the value of a number input; anything else is not a number. -/
def parseNumber (s : String) : Option ℚ :=
  let (sign, cs) : ℚ × List Char :=
    match s.toList with
    | '-' :: cs => (-1, cs)
    | cs => (1, cs)
  let mantissa := cs.takeWhile fun c => c ≠ 'e' && c ≠ 'E'
  let exponent := (cs.drop mantissa.length).drop 1
  let whole := mantissa.takeWhile fun c => c ≠ '.'
  let fraction := (mantissa.drop whole.length).drop 1
  let (up, power) : Bool × List Char :=
    match exponent with
    | '-' :: cs => (false, cs)
    | '+' :: cs => (true, cs)
    | cs => (true, cs)
  if (whole ++ fraction ++ power).all Char.isDigit ∧ whole ++ fraction ≠ [] then
    let value := sign * Nat.ofDigitChars 10 (whole ++ fraction) 0 / 10 ^ fraction.length
    let scale : ℚ := 10 ^ Nat.ofDigitChars 10 power 0
    some (if up then value * scale else value / scale)
  else none

/-- `Number(v || 0)`; what is not a number is sent as null, which the service reads as zero. -/
def number (v : Json) : ℚ :=
  match v with
  | .num q => q
  | .str s => (parseNumber s).getD 0
  | _ => 0

def rateOf (res : Option ResourceItem) (bound : String) : ℚ :=
  (res.map fun r => number ((r.resourceAttributes.get "premiumRateRange").fields.get bound)).getD 0

/-- The tariff zone of the linked resource. -/
def zoneOf (res : Option ResourceItem) : String :=
  let zone := (res.map fun r => (r.resourceAttributes.get "tariffZone").text).getD ""
  if zone = "" then "ZONE_3" else zone

def offerAttributes (offer : OfferItem) : Json :=
  let attrs := spread
    [("@context", .str "https://schema.ion.id/finance/insurance-offer/v1/context.jsonld"),
     ("@type", .str "ion:PolicyQuote")] offer.offerAttributes
  .obj ((attrs.set "offerId" (.str offer.id)).set "resourceIds" (.arr (offer.resourceIds.map Json.str)))

def offerRequest (linkedResource : Option ResourceItem) (dbResourceId : Int) (offer : OfferItem) :
    CreateOfferRequest where
  resourceID := dbResourceId
  tariffZone := zoneOf linkedResource
  premiumRateMin := rateOf linkedResource "min"
  premiumRateMax := rateOf linkedResource "max"
  offerAttributes := offerAttributes offer

def catalogRequest (dbProviderID : Option Int) (cat : CatalogItem) : CreateCatalogRequest where
  name := nameOf cat.descriptor
  version := cat.version
  descriptor := .obj cat.descriptor
  providerID := dbProviderID

/-! ### The attempt -/

/-- Saves the items one after the other, and continues with the ids of their rows. -/
def saveEach {α : Type} (key : α → String) (request : α → Request) :
    List α → IdMap → (IdMap → Page (Except String Unit)) → Page (Except String Unit)
  | [], m, next => next m
  | item :: items, m, next => post (request item) fun id => saveEach key request items (m ++ [(key item, id)]) next

/-- The row of the first resource of an offer, if this has one. -/
def dbResourceId (resourceIdMap : IdMap) (offer : OfferItem) : Option Int :=
  (offer.resourceIds.head?.filter fun id => id ≠ "").bind fun id => truthy (resourceIdMap.get id)

/-- Creates an offer for the first resource of each item only. -/
def saveOffers (resources : List ResourceItem) (resourceIdMap : IdMap) :
    List OfferItem → Page (Except String Unit) → Page (Except String Unit)
  | [], next => next
  | offer :: offers, next =>
    let linkedResource := resources.find? fun r => offer.resourceIds.head? = some r.id
    match dbResourceId resourceIdMap offer with
    | some id =>
      post (.createOffer (offerRequest linkedResource id offer)) fun _ =>
        saveOffers resources resourceIdMap offers next
    | none => saveOffers resources resourceIdMap offers next

/-- Creates and publishes each catalog. -/
def saveCatalogs (companyName : Option String) (providerDbIdMap : IdMap) : List CatalogItem → Page (Except String Unit)
  | [] => return .ok ()
  | cat :: catalogs =>
    post (.createCatalog companyName (catalogRequest (truthy (providerDbIdMap.get cat.providerId)) cat)) fun catalogId =>
      post (.publishCatalog (catalogId.getD 0)) fun _ => saveCatalogs companyName providerDbIdMap catalogs

def handlePublish (companyName : Option String) (w : PublishPage) : Page (Except String Unit) :=
  saveEach ProviderItem.id (fun prov => .createProvider companyName (providerRequest prov)) w.providers.items []
    fun providerDbIdMap =>
    saveEach ResourceItem.id (fun res => .createResource (resourceRequest w.providers.items res)) w.resources.items []
      fun resourceIdMap =>
      saveOffers w.resources.items resourceIdMap w.offers.items <|
        saveCatalogs companyName providerDbIdMap w.catalogs.items

/-- What the calls return, and the database after them. -/
def run (s : CatalogService) {α : Type} : Page α → (Nat → Call) → Db → α × Db
  | .ret a, _, db => (a, db)
  | .ask r next, calls, db =>
    let answered := answer s r (calls 0) db
    run s (next answered.1) (fun n => calls (n + 1)) answered.2

def attempt (s : CatalogService) (companyName : Option String) (w : PublishPage) (calls : Nat → Call) (db : Db) :
    Except String Unit × Db :=
  run s (handlePublish companyName w) calls db

/-- Attempts that fail, and one that succeeds. -/
inductive Attempts (s : CatalogService) (companyName : Option String) (w : PublishPage) :
    Db → List (Nat → Call) → Db → Prop where
  | last {db db' : Db} (calls : Nat → Call) (h : attempt s companyName w calls db = (.ok (), db')) :
    Attempts s companyName w db [] db'
  | retry {db db₁ db' : Db} {failed : List (Nat → Call)} {err : String} (calls : Nat → Call)
    (h : attempt s companyName w calls db = (.error err, db₁)) (hrest : Attempts s companyName w db₁ failed db') :
    Attempts s companyName w db (calls :: failed) db'

/-! ### Rows -/

def providerRow (companyName : Option String) (prov : ProviderItem) : Provider where
  bppID := companyName.getD defaultBPPID
  name := nameOf prov.descriptor
  descriptor := .obj prov.descriptor
  locations := prov.availableAt
  attributes := .obj prov.providerAttributes

def IsResourceRow (providers : List ProviderItem) (res : ResourceItem) (row : Resource) : Prop :=
  let req := resourceRequest providers res
  ∃ t, row = ⟨defaultBPPID, req.productType, req.vehicleType, req.ojkProductCode, req.resourceAttributes, t⟩

def IsOfferRow (dbResourceId : Int) (res : Option ResourceItem) (offer : OfferItem) (row : Offer) : Prop :=
  ∃ min max, Rate.ofFloat? (rateOf res "min") = some min ∧ Rate.ofFloat? (rateOf res "max") = some max ∧
    row = ⟨dbResourceId, defaultBPPID, zoneOf res, min, max, offerAttributes offer, none⟩

def IsCatalogRow (companyName : Option String) (dbProviderID : Option Int) (cat : CatalogItem) (row : CatalogRow) :
    Prop :=
  ∃ t, row = ⟨companyName.getD defaultBPPID, nameOf cat.descriptor, .obj cat.descriptor, .null,
    if cat.version = "" then "1.0.0" else cat.version, dbProviderID, t⟩

/-! ### What one call does -/

/-- The provider is stored. -/
def Call.Stores (c : Call) (p : Provider) : Prop :=
  c.arrives = true ∧ p.name ≠ "" ∧ (c.choices 0).sqlError = none ∧ p.fits = true

/-- What the page is told of a row that has been inserted. -/
def Call.told (c : Call) (id : Int) : Except String (Option Int) :=
  if c.returns then .ok (some id) else .error networkError

/-- A call that inserts a row. -/
private theorem answer_create {s : CatalogService} {r : Request} {c : Call} {db : Db} {errors : List String}
    {p : Catalog.Task (Except String Int)} (out : Except String Int × Db)
    (hr : Catalog.handler s r = bound errors (create p))
    (hp : ∃ trace, (Catalog.machine s).finish 0 (create p) c.choices ⟨db, []⟩ = (created out.1, ⟨out.2, trace⟩)) :
    (c.arrives = true ∧ errors = [] →
      answer s r c db = (if c.returns then result (created out.1) else .error networkError, out.2)) ∧
    (¬(c.arrives = true ∧ errors = []) → ∃ err, answer s r c db = (.error err, db)) := by
  obtain ⟨trace, hp⟩ := hp
  unfold answer
  rw [hr]
  constructor
  · intro h
    obtain ⟨harrives, rfl⟩ := h
    have hserved : (Catalog.machine s).finish 0 (bound [] (create p)) c.choices ⟨db, []⟩ =
        (created out.1, ⟨out.2, trace⟩) := hp
    rw [if_pos harrives, hserved]
  · intro h
    by_cases harrives : c.arrives = true
    · have herrors : errors.isEmpty = false := by
        rw [List.isEmpty_eq_false_iff]
        exact fun hempty => h ⟨harrives, hempty⟩
      have hserved : (Catalog.machine s).finish 0 (bound errors (create p)) c.choices ⟨db, []⟩ =
          (.problem 400 "Bad Request" ("\n".intercalate errors), ⟨db, []⟩) := by
        unfold bound
        rw [herrors]
        rfl
      rw [if_pos harrives, hserved]
      cases c.returns
      · exact ⟨_, rfl⟩
      · exact ⟨_, rfl⟩
    · rw [if_neg harrives]
      exact ⟨_, rfl⟩

private theorem missing_eq_nil (request : String) (fields : List (String × Bool)) :
    missing request fields = [] ↔ ∀ field ∈ fields, field.2 = true := by
  simp [missing]

/-- A call whose insert is refused, or fails. -/
private theorem answer_refused {s : CatalogService} {r : Request} {c : Call} {db : Db} {errors : List String}
    {p : Catalog.Task (Except String Int)} {e : Option String} {out : Except String Int × Db}
    (hr : Catalog.handler s r = bound errors (create p))
    (hp : ∃ trace, (Catalog.machine s).finish 0 (create p) c.choices ⟨db, []⟩ =
      (created (statement e db out).1, ⟨(statement e db out).2, trace⟩))
    (hout : (∃ err, e = some err) ∨ ∃ err, out = (.error err, db)) : ∃ err, answer s r c db = (.error err, db) := by
  have hrefused : ∃ err, statement e db out = (.error err, db) := by
    rcases hout with ⟨err, rfl⟩ | ⟨err, rfl⟩
    · exact ⟨err, rfl⟩
    · cases e with
      | some err' => exact ⟨err', rfl⟩
      | none => exact ⟨err, rfl⟩
  obtain ⟨err, hrefused⟩ := hrefused
  obtain ⟨hbound, hunbound⟩ := answer_create _ hr hp
  by_cases harrives : c.arrives = true ∧ errors = []
  · have hanswer := hbound harrives
    rw [hrefused] at hanswer
    cases hreturns : c.returns with
    | true => exact ⟨err, by rw [hanswer, hreturns]; rfl⟩
    | false => exact ⟨networkError, by rw [hanswer, hreturns]; rfl⟩
  · exact hunbound harrives

theorem answer_createProvider (s : CatalogService) (companyName : Option String) (prov : ProviderItem) (c : Call)
    (db : Db) :
    let answered := answer s (.createProvider companyName (providerRequest prov)) c db
    let row := providerRow companyName prov
    (c.Stores row → answered = (c.told db.providers.next, { db with providers := db.providers.insert row })) ∧
    (¬c.Stores row → ∃ err, answered = (.error err, db)) := by
  intro answered row
  obtain ⟨hbound, hunbound⟩ := answer_create (s := s) (c := c) (r := .createProvider companyName (providerRequest prov))
    (statement (c.choices 0).sqlError db (db.insertProvider row)) rfl ⟨_, rfl⟩
  have hname : missing "CreateProviderRequest" [("Name", (providerRequest prov).name ≠ "")] = [] ↔ row.name ≠ "" := by
    rw [missing_eq_nil]
    constructor
    · intro h
      exact of_decide_eq_true (h _ List.mem_cons_self)
    · intro h field hfield
      obtain rfl := List.mem_singleton.1 hfield
      exact decide_eq_true h
  rw [hname] at hbound hunbound
  constructor
  · intro h
    obtain ⟨harrives, hne, hsql, hfits⟩ := h
    have hstored : db.insertProvider row = (.ok db.providers.next, { db with providers := db.providers.insert row }) := by
      unfold Db.insertProvider
      rw [if_pos hfits]
    rw [hsql, statement_none, hstored] at hbound
    exact hbound ⟨harrives, hne⟩
  · intro h
    by_cases harrives : c.arrives = true ∧ row.name ≠ ""
    · refine answer_refused (s := s) (r := .createProvider companyName (providerRequest prov)) rfl ⟨_, rfl⟩ ?_
      show (∃ err, (c.choices 0).sqlError = some err) ∨ ∃ err, db.insertProvider row = (.error err, db)
      by_cases hsql : (c.choices 0).sqlError = none
      · have hfits : ¬row.fits = true := fun hfits => h ⟨harrives.1, harrives.2, hsql, hfits⟩
        refine .inr ⟨valueTooLong, ?_⟩
        unfold Db.insertProvider
        rw [if_neg hfits]
      · exact .inl (Option.ne_none_iff_exists'.1 hsql)
    · exact hunbound harrives

theorem run_post_error {s : CatalogService} {r : Request} {next : Option Int → Page (Except String Unit)}
    {calls : Nat → Call} {db db' : Db} {err : String} (h : answer s r (calls 0) db = (.error err, db')) :
    run s (post r next) calls db = (.error err, db') := by
  show run s (Prog.ask r _) calls db = _
  rw [run, h]
  rfl

theorem run_post_ok {s : CatalogService} {r : Request} {next : Option Int → Page (Except String Unit)}
    {calls : Nat → Call} {db db' : Db} {id : Option Int} (h : answer s r (calls 0) db = (.ok id, db')) :
    run s (post r next) calls db = run s (next id) (fun n => calls (n + 1)) db' := by
  show run s (Prog.ask r _) calls db = _
  rw [run, h]
  rfl

/-- A table of the database, and how a row gets into it. -/
structure Column (β : Type) where
  table : Db → Table β
  insert : Db → β → Db
  table_insert : ∀ db row, table (insert db row) = (table db).insert row

/-- Each call for an item fails without a trace, or inserts a row of the item. -/
def Saves {α β : Type} (s : CatalogService) (C : Column β) (IsRow : α → β → Prop) (request : α → Request) : Prop :=
  ∀ item c db, (∃ err, answer s (request item) c db = (.error err, db)) ∨ ∃ row, IsRow item row ∧
    answer s (request item) c db = (c.told (C.table db).next, C.insert db row)

/-- The ids under which the rows of the items are remembered. -/
def idMap {α β : Type} (key : α → String) (items : List α) (rows : List (Int × β)) : IdMap :=
  (items.zip rows).map fun x => (key x.1, some x.2.1)

/-- The rows have been added, one for each item. -/
structure Added {α β : Type} (C : Column β) (IsRow : α → β → Prop) (items : List α) (old new : Db)
    (rows : List (Int × β)) : Prop where
  each : List.Forall₂ (fun item x => IsRow item x.2) items rows
  new_eq : new = (rows.map Prod.snd).foldl C.insert old
  table : (C.table new).rows = (C.table old).rows ++ rows
  positive : ∀ x ∈ rows, 0 < x.1

/-- The other tables are the same. -/
theorem Added.keeps {α β γ : Type} {C : Column β} {IsRow : α → β → Prop} {items : List α} {old new : Db}
    {rows : List (Int × β)} (h : Added C IsRow items old new rows) {f : Db → γ}
    (hf : ∀ db row, f (C.insert db row) = f db) : f new = f old := by
  have hfold : ∀ (rows : List β) (db : Db), f (rows.foldl C.insert db) = f db := by
    intro rows
    induction rows with
    | nil => exact fun _ => rfl
    | cons row rows ih => exact fun db => (ih _).trans (hf db row)
  rw [h.new_eq]
  exact hfold _ old

/-- The offers for which a call is made, with the resource and its row. -/
def wanted (resources : List ResourceItem) (m : IdMap) (offers : List OfferItem) :
    List (OfferItem × Option ResourceItem × Int) :=
  offers.filterMap fun offer =>
    (dbResourceId m offer).map fun id => (offer, resources.find? fun r => offer.resourceIds.head? = some r.id, id)

end IonInsurance.Wizard
