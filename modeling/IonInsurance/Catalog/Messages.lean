import Mathlib.Data.List.TakeWhile
import IonInsurance.Bpp.Quote
import IonInsurance.Catalog.Store

/-!
# The messages of a publication

The `catalog/publish` that `PublishCatalog` sends, with the field names and constants of the source, the
`catalog/on_publish` that the cataloguing service calls back with, and what the webhook reads of it.
-/

namespace IonInsurance.Catalog

open Arith

/-! ### Locations -/

/-- The orders in which Go ranges over the addresses of a list of locations. -/
structure MapOrder where
  order : Nat → Fields → Fields := fun _ m => m
  perm : ∀ i m, (order i m).Perm m := by exact fun _ _ => .refl _

def validAddr : List String :=
  ["addressCountry", "addressLocality", "addressRegion", "extendedAddress", "postalCode", "streetAddress"]

/-- Legacy field mapping from old frontend form names. -/
def addrMap : List (String × String) :=
  [("city", "addressLocality"), ("state", "addressRegion"), ("country", "addressCountry"), ("areaCode", "postalCode"),
   ("street", "streetAddress")]

/-- `cleanAddr`, for the fields of `rawAddr` in the order in which they are ranged over. -/
def cleanAddress (rawAddr ranged : Fields) : Fields :=
  let door := (rawAddr.get "door").text
  let building := (rawAddr.get "building").text
  let parts :=
    if building = "" then door
    else if door = "" then building
    else door ++ ", " ++ building
  let start : Fields := if parts = "" then [] else [("extendedAddress", .str parts)]
  ranged.foldl (fun m (k, v) =>
    if validAddr.contains k then m.set k v
    else
      match addrMap.lookup k with
      | some mapped => m.set mapped v
      | none => m) start

/-- A location without coordinates is skipped.  `scanGPS` is `fmt.Sscanf(gps, "%f,%f", &lat, &lng)`. -/
def cleanLocation (scanGPS : String → Option (ℚ × ℚ)) (range : Fields → Fields) (l : Json) : Option Json :=
  l.fields?.bind fun loc =>
    let geo : Option Json :=
      if loc.has "geo" then some (loc.get "geo")
      else if (loc.get "gps").text = "" then none
      else (scanGPS (loc.get "gps").text).map fun (lat, lng) =>
        .obj [("type", .str "Point"), ("coordinates", .arr [.num lng, .num lat])]
    geo.map fun geo =>
      match (loc.get "address").fields? with
      | none => .obj [("geo", geo)]
      | some rawAddr =>
        let cleanAddr := cleanAddress rawAddr (range rawAddr)
        if cleanAddr.isEmpty then .obj [("geo", geo)] else .obj [("geo", geo), ("address", .obj cleanAddr)]

def sanitizeLocations (scanGPS : String → Option (ℚ × ℚ)) (o : MapOrder) (locs : List Json) : List Json :=
  locs.zipIdx.filterMap fun (l, i) => cleanLocation scanGPS (o.order i) l

/-! ### The publication -/

/-- `m[k] = v` for a field that is not there. -/
def setMissing (m : Fields) (k : String) (v : Json) : Fields := if m.has k then m else m.set k v

/-- The provider block of a catalog without a provider row. -/
def plainProvider (bppID name : String) : Fields :=
  [("id", .str bppID), ("descriptor", .obj [("name", .str name)])]

/-- The provider block of a catalog with one. -/
def linkedProvider (scanGPS : String → Option (ℚ × ℚ)) (o : MapOrder) (id : Int) (p : Provider) : Fields :=
  let pDesc := p.descriptor.fields?.getD [("name", .str p.name)]
  let pAttrs := (p.attributes.fields.set "@context"
    (.str (Bpp.ionSchemaBase ++ "insurance-participant/v1/context.jsonld"))).set "@type" (.str "Insurer")
  let cleanLoc := sanitizeLocations scanGPS o p.locations
  [("id", .str ("PROV-" ++ toString id)), ("descriptor", .obj pDesc), ("providerAttributes", .obj pAttrs)] ++
    if cleanLoc.isEmpty then [] else [("availableAt", .arr cleanLoc)]

def publishedOffer (o : Int × Offer) : Json :=
  let oAttrs := (o.2.offerAttributes.fields.set "@context"
    (.str (Bpp.ionSchemaBase ++ "insurance-offer/v1/context.jsonld"))).set "@type" (.str "PolicyQuote")
  .obj
    [("id", .str ("OFFER-" ++ toString o.1)),
     ("tariffZone", .str o.2.tariffZone),
     ("premiumRateMin", .num o.2.premiumRateMin.value),
     ("premiumRateMax", .num o.2.premiumRateMax.value),
     ("offerAttributes", .obj oAttrs)]

/-- A resource with its offers.  The columns go into the attributes that do not name them. -/
def publishedResource (r : Int × Resource) (offers : List (Int × Offer)) : Json :=
  let attrs := r.2.resourceAttributes.fields
  let resDescriptor := (attrs.get "descriptor").fields?.getD
    [("name", .str (r.2.productType ++ " — " ++ r.2.vehicleType))]
  let attrs := (attrs.set "@context" (.str (Bpp.ionSchemaBase ++ "insurance-resource/v1/context.jsonld"))).set "@type"
    (.str "InsuranceProduct")
  let attrs := setMissing attrs "productType" (.str r.2.productType)
  let attrs := setMissing attrs "vehicleType" (.str r.2.vehicleType)
  let attrs := setMissing attrs "ojkProductCode" (.str r.2.ojkProductCode)
  .obj ([("id", .str ("RES-" ++ toString r.1)), ("descriptor", .obj resDescriptor),
    ("resourceAttributes", .obj attrs)] ++
    if offers.isEmpty then [] else [("offers", .arr (offers.map publishedOffer))])

/-- What is published of a BPP without resources. -/
def defaultResource (catalogID : Int) (catalogName : String) : Json :=
  .obj [("id", .str ("CAT-" ++ toString catalogID ++ "-default")),
    ("descriptor", .obj [("name", .str catalogName)])]

/-- The `catalog/publish` message, at the three clock readings it takes. -/
def catalogPublish (catalogID : Int) (bppID catalogName : String) (provider : Fields) (resources : List Json)
    (t₁ t₂ t₃ : Time) : Fields :=
  [("context", .obj
    [("action", .str "catalog/publish"),
     ("version", .str "2.0.0"),
     ("domain", .str "ion:finance"),
     ("bpp_id", .str bppID),
     ("transaction_id", .str ("pub-" ++ toString catalogID ++ "-" ++ toString t₁.unixMilli)),
     ("message_id", .str ("msg-" ++ toString catalogID ++ "-" ++ toString t₂.unixNano)),
     ("timestamp", .str t₃.rfc3339),
     ("ttl", .str "PT30S")]),
   ("message", .obj
    [("catalogs", .arr
      [.obj
        [("id", .str ("CAT-" ++ toString catalogID)),
         ("descriptor", .obj [("name", .str catalogName)]),
         ("bppId", .str bppID),
         ("provider", .obj provider),
         ("resources", .arr resources)]])])]

/-! ### The callback -/

/-- The digits that `%d` reads, as a number of 64 bits. -/
def scanDigits (sign : Int) (cs : List Char) : Option Int :=
  let digits := cs.takeWhile Char.isDigit
  let n := sign * Nat.ofDigitChars 10 digits 0
  if digits.isEmpty ∨ n < -2 ^ 63 ∨ 2 ^ 63 ≤ n then none else some n

/-- `fmt.Sscanf(id, "CAT-%d", &catalogID)`, where a failed scan leaves the zero. -/
def scanCatalogID (id : String) : Int :=
  if hasPrefix id "CAT-" then
    match (trimPrefix id "CAT-").toList with
    | '-' :: cs => (scanDigits (-1) cs).getD 0
    | '+' :: cs => (scanDigits 1 cs).getD 0
    | cs => (scanDigits 1 cs).getD 0
  else 0

/-- The callback of the cataloguing service to a publication.  The mock accepts everything. -/
def csOnPublish (req : Fields) (status : String) (now : Time) : Fields :=
  let ctx := (req.get "context").fields
  let txnID := (ctx.get "transaction_id").text
  let bppID := (ctx.get "bpp_id").text
  let version := (ctx.get "version").text
  let cat := ((req.get "message").fields.get "catalogs").first
  [("context", .obj
    [("action", .str "catalog/on_publish"),
     ("version", .str (if version = "" then "2.0.0" else version)),
     ("domain", .str (ctx.get "domain").text),
     ("bpp_id", .str bppID),
     ("transaction_id", .str txnID),
     ("message_id", .str (txnID ++ "-onpub")),
     ("timestamp", .str now.rfc3339),
     ("ttl", .str "PT30S")]),
   ("message", .obj
    [("catalog_id", .int (scanCatalogID (cat.get "id").text)),
     ("catalogs", .arr [.obj [("bpp_id", .str bppID), ("status", .str status)]])])]

structure OnPublishInput where
  catalogID : Int
  status : String

/-- What the webhook reads of a callback. -/
def onPublishInput (req : Fields) : OnPublishInput :=
  let msg := (req.get "message").fields
  { catalogID := ((msg.get "catalog_id").num?.map int64).getD 0
    status :=
      match (msg.get "catalogs").first.get "status" with
      | .str s => s
      | _ => "ACCEPTED" }

theorem scanDigits_toDigits {sign : Int} {n : Nat} (h : InInt64 (sign * n)) :
    scanDigits sign (Nat.toDigits 10 n) = some (sign * n) := by
  have hdigits : (Nat.toDigits 10 n).takeWhile Char.isDigit = Nat.toDigits 10 n := by
    rw [List.takeWhile_eq_self_iff]
    intro c hc
    exact Nat.isDigit_of_mem_toDigits (by decide) (by decide) hc
  obtain ⟨hge, hlt⟩ := h
  have hsome : ¬((Nat.toDigits 10 n).isEmpty = true ∨ sign * n < -2 ^ 63 ∨ 2 ^ 63 ≤ sign * n) := by
    rw [List.isEmpty_iff]
    intro hnone
    rcases hnone with hempty | hout
    · exact Nat.toDigits_ne_nil hempty
    · omega
  unfold scanDigits
  simp only [hdigits, Nat.ofDigitChars_ten_toDigits]
  rw [if_neg hsome]

/-- The service finds the id of the catalog in its publication. -/
theorem scanCatalogID_toString {catalogID : Int} (h : InInt64 catalogID) :
    scanCatalogID ("CAT-" ++ toString catalogID) = catalogID := by
  unfold scanCatalogID
  rw [hasPrefix_append, if_pos rfl, trimPrefix_append]
  cases catalogID with
  | ofNat n =>
    have htext : (toString (Int.ofNat n)).toList = Nat.toDigits 10 n := Nat.toList_repr
    have hscan : scanDigits 1 (Nat.toDigits 10 n) = some (Int.ofNat n) := by
      have hscan : scanDigits 1 (Nat.toDigits 10 n) = some (1 * (n : Int)) := scanDigits_toDigits (by rwa [one_mul])
      rwa [one_mul] at hscan
    rw [htext]
    -- the text of a number that is not negative begins with a digit
    split
    · rename_i cs hcs
      have hsign : Char.isDigit '-' = true :=
        Nat.isDigit_of_mem_toDigits (by decide) (by decide) (hcs ▸ List.mem_cons_self)
      exact absurd hsign (by decide)
    · rename_i cs hcs
      have hsign : Char.isDigit '+' = true :=
        Nat.isDigit_of_mem_toDigits (by decide) (by decide) (hcs ▸ List.mem_cons_self)
      exact absurd hsign (by decide)
    · rw [hscan]
      rfl
  | negSucc n =>
    have hneg : (-1 : Int) * (n + 1 : Nat) = Int.negSucc n := by rw [Int.negSucc_eq, neg_one_mul, Nat.cast_succ]
    have htext : (toString (Int.negSucc n)).toList = '-' :: Nat.toDigits 10 (n + 1) := by
      have hminus : toString (Int.negSucc n) = "-" ++ Nat.repr (n + 1) := rfl
      rw [hminus, String.toList_append, Nat.toList_repr]
      rfl
    have hscan : scanDigits (-1) (Nat.toDigits 10 (n + 1)) = some ((-1 : Int) * (n + 1 : Nat)) :=
      scanDigits_toDigits (by rwa [hneg])
    rw [htext]
    show (scanDigits (-1) (Nat.toDigits 10 (n + 1))).getD 0 = _
    rw [hscan, Option.getD_some, hneg]

/-- A callback is about the catalog that was published, and it carries the status of the service. -/
theorem onPublishInput_csOnPublish {catalogID : Int} (h : InInt64 catalogID) (bppID catalogName : String)
    (provider : Fields) (resources : List Json) (t₁ t₂ t₃ : Time) (status : String) (now : Time) :
    onPublishInput (csOnPublish (catalogPublish catalogID bppID catalogName provider resources t₁ t₂ t₃) status now) =
      ⟨catalogID, status⟩ := by
  have hread : int64 (catalogID : ℚ) = catalogID := by
    rw [int64_of_inInt64 (by rwa [trunc_intCast]), trunc_intCast]
  have hinput : onPublishInput (csOnPublish (catalogPublish catalogID bppID catalogName provider resources t₁ t₂ t₃)
      status now) = ⟨int64 (scanCatalogID ("CAT-" ++ toString catalogID) : ℚ), status⟩ := rfl
  rw [hinput, scanCatalogID_toString h, hread]

end IonInsurance.Catalog
