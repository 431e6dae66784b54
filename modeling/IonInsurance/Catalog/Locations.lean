import IonInsurance.Catalog.Messages
import IonInsurance.Marshal

/-!
# Clean locations

`sanitizeLocations` ranges over the address of a location as a map, and writes each field under its current name.  What
a field of a clean address holds is what has been written to it last.
-/

namespace IonInsurance.Catalog

/-! ### The fields of an address -/

/-- The field of a clean address that a field is written to. -/
def addressTarget (k : String) : Option String := if validAddr.contains k then some k else addrMap.lookup k

theorem addressTarget_of_valid {k : String} (h : k ∈ validAddr) : addressTarget k = some k :=
  if_pos (List.contains_iff_mem.2 h)

theorem addressTarget_valid {k k' : String} (h : addressTarget k = some k') : k' ∈ validAddr := by
  unfold addressTarget at h
  split at h
  · rename_i hvalid
    obtain rfl := Option.some.inj h
    exact List.contains_iff_mem.1 hvalid
  · have hmapped : ∀ e ∈ addrMap, e.2 ∈ validAddr := by decide
    have hmem : ∀ m : List (String × String), m.lookup k = some k' → ∃ e ∈ m, e.2 = k' := by
      intro m
      induction m with
      | nil => intro hnone; cases hnone
      | cons e m ih =>
        intro hlookup
        rw [List.lookup_cons] at hlookup
        split at hlookup
        · exact ⟨e, List.mem_cons_self, Option.some.inj hlookup⟩
        · obtain ⟨e', he', hvalue⟩ := ih hlookup
          exact ⟨e', List.mem_cons_of_mem _ he', hvalue⟩
    obtain ⟨e, he, rfl⟩ := hmem addrMap h
    exact hmapped e he

/-- The fields that are written, in the order of the writes. -/
def addressWrites (ranged : Fields) : Fields :=
  ranged.filterMap fun e => (addressTarget e.1).map fun k => (k, e.2)

/-- The fields that are written one after the other. -/
def written (start ws : Fields) : Fields := ws.foldl (fun m e => m.set e.1 e.2) start

/-- `extendedAddress`, as door and building give it. -/
def composedAddress (rawAddr : Fields) : Fields :=
  let door := (rawAddr.get "door").text
  let building := (rawAddr.get "building").text
  let parts :=
    if building = "" then door
    else if door = "" then building
    else door ++ ", " ++ building
  if parts = "" then [] else [("extendedAddress", .str parts)]

theorem composedAddress_cases (rawAddr : Fields) :
    composedAddress rawAddr = [] ∨ ∃ parts, composedAddress rawAddr = [("extendedAddress", .str parts)] := by
  unfold composedAddress
  dsimp only
  generalize (if (rawAddr.get "building").text = "" then _ else _ : String) = parts
  by_cases hparts : parts = ""
  · rw [if_pos hparts]
    exact .inl rfl
  · rw [if_neg hparts]
    exact .inr ⟨parts, rfl⟩

theorem cleanAddress_eq (rawAddr ranged : Fields) :
    cleanAddress rawAddr ranged = written (composedAddress rawAddr) (addressWrites ranged) := by
  show List.foldl _ (composedAddress rawAddr) ranged = _
  generalize composedAddress rawAddr = start
  induction ranged generalizing start with
  | nil => rfl
  | cons e ranged ih =>
    obtain ⟨k, v⟩ := e
    rw [List.foldl_cons, ih]
    unfold addressWrites addressTarget written
    rw [List.filterMap_cons]
    by_cases hvalid : validAddr.contains k = true
    · simp only [hvalid, if_true]
      rfl
    · simp only [hvalid]
      cases addrMap.lookup k with
      | none => rfl
      | some mapped => rfl

/-- The value that has been written last counts. -/
theorem lookup_written (start ws : Fields) (k : String) :
    (written start ws).lookup k = ((ws.filter fun e => e.1 = k).getLast?.map Prod.snd).or (start.lookup k) := by
  induction ws using List.reverseRecOn with
  | nil => rfl
  | append_singleton ws e ih =>
    have hlast : written start (ws ++ [e]) = (written start ws).set e.1 e.2 := by
      unfold written
      rw [List.foldl_append]
      rfl
    rw [hlast, Fields.lookup_set, List.filter_append]
    by_cases hk : k = e.1
    · have hfilter : [e].filter (fun e => decide (e.1 = k)) = [e] := by simp [hk]
      rw [if_pos hk, hfilter, List.getLast?_append]
      rfl
    · have hfilter : [e].filter (fun e => decide (e.1 = k)) = [] := by simp [Ne.symm hk]
      rw [if_neg hk, hfilter, List.append_nil]
      exact ih

theorem nodup_written {start : Fields} (h : (start.map Prod.fst).Nodup) (ws : Fields) :
    ((written start ws).map Prod.fst).Nodup := by
  unfold written
  induction ws generalizing start with
  | nil => exact h
  | cons e ws ih => exact ih (Fields.nodup_set h e.1 e.2)

theorem nodup_cleanAddress (rawAddr ranged : Fields) : ((cleanAddress rawAddr ranged).map Prod.fst).Nodup := by
  rw [cleanAddress_eq]
  apply nodup_written
  rcases composedAddress_cases rawAddr with hnone | ⟨parts, hparts⟩
  · rw [hnone]
    exact .nil
  · rw [hparts]
    exact List.nodup_singleton _

/-- Every field of a clean address is one of the six. -/
theorem valid_cleanAddress {rawAddr ranged : Fields} {e : String × Json} (h : e ∈ cleanAddress rawAddr ranged) :
    e.1 ∈ validAddr := by
  rw [cleanAddress_eq] at h
  have hwrites : ∀ e ∈ addressWrites ranged, e.1 ∈ validAddr := by
    intro e he
    obtain ⟨e', -, htarget⟩ := List.mem_filterMap.1 he
    obtain ⟨k, hk, rfl⟩ := Option.map_eq_some_iff.1 htarget
    exact addressTarget_valid hk
  have hwritten : ∀ (ws start : Fields), (∀ e ∈ start, e.1 ∈ validAddr) → (∀ e ∈ ws, e.1 ∈ validAddr) →
      ∀ e ∈ written start ws, e.1 ∈ validAddr := by
    intro ws
    induction ws with
    | nil => exact fun start hstart _ => hstart
    | cons e₀ ws ih =>
      intro start hstart hws
      refine ih (start.set e₀.1 e₀.2) ?_ fun e he => hws e (List.mem_cons_of_mem _ he)
      intro e he
      rcases List.mem_cons.1 he with rfl | hrest
      · exact hws e₀ List.mem_cons_self
      · exact hstart e (List.mem_filter.1 hrest).1
  refine hwritten _ _ ?_ hwrites e h
  intro e he
  rcases composedAddress_cases rawAddr with hnone | ⟨parts, hparts⟩
  · rw [hnone] at he
    cases he
  · rw [hparts] at he
    obtain rfl := List.mem_singleton.1 he
    show "extendedAddress" ∈ validAddr
    decide

/-! ### A location -/

/-- `clean["geo"]`. -/
def geoOf (scanGPS : String → Option (ℚ × ℚ)) (loc : Fields) : Option Json :=
  if loc.has "geo" then some (loc.get "geo")
  else if (loc.get "gps").text = "" then none
  else (scanGPS (loc.get "gps").text).map fun (lat, lng) =>
    .obj [("type", .str "Point"), ("coordinates", .arr [.num lng, .num lat])]

/-- The object has a `geo` entry, or a `gps` string of two numbers. -/
def HasCoordinates (scanGPS : String → Option (ℚ × ℚ)) (loc : Fields) : Bool :=
  loc.has "geo" || ((loc.get "gps").text ≠ "" && (scanGPS (loc.get "gps").text).isSome)

/-- An object that has coordinates. -/
def Located (scanGPS : String → Option (ℚ × ℚ)) (l : Json) : Bool := l.fields?.any (HasCoordinates scanGPS)

theorem isSome_geoOf (scanGPS : String → Option (ℚ × ℚ)) (loc : Fields) :
    (geoOf scanGPS loc).isSome = HasCoordinates scanGPS loc := by
  unfold geoOf HasCoordinates
  by_cases hgeo : loc.has "geo" = true
  · rw [if_pos hgeo, hgeo]
    rfl
  · have hnogeo : loc.has "geo" = false := by simpa using hgeo
    rw [if_neg hgeo, hnogeo, Bool.false_or]
    by_cases hgps : (loc.get "gps").text = ""
    · rw [if_pos hgps, hgps]
      rfl
    · rw [if_neg hgps, Option.isSome_map, decide_eq_true hgps, Bool.true_and]

/-- The coordinates with the clean address, unless this is empty. -/
def locationOf (geo : Json) (cleanAddr : Fields) : Json :=
  if cleanAddr.isEmpty then .obj [("geo", geo)] else .obj [("geo", geo), ("address", .obj cleanAddr)]

/-- The address of a location. -/
def rawAddress (l : Json) : Fields := (l.fields.get "address").fields

theorem cleanLocation_obj (scanGPS : String → Option (ℚ × ℚ)) {range : Fields → Fields} (hrange : range [] = [])
    (loc : Fields) :
    cleanLocation scanGPS range (.obj loc) = (geoOf scanGPS loc).map fun geo =>
      locationOf geo (cleanAddress (rawAddress (.obj loc)) (range (rawAddress (.obj loc)))) := by
  show (geoOf scanGPS loc).map _ = _
  congr 1
  funext geo
  unfold rawAddress
  rw [Json.fields_obj]
  cases loc.get "address" with
  | obj rawAddr => rfl
  | _ =>
    show _ = locationOf geo (cleanAddress [] (range []))
    rw [hrange]
    rfl

/-- The order of an address matters to the clean address only. -/
theorem cleanLocation_eq {scanGPS : String → Option (ℚ × ℚ)} {l : Json} (h : Located scanGPS l = true) :
    ∃ geo, ∀ range : Fields → Fields, range [] = [] →
      cleanLocation scanGPS range l = some (locationOf geo (cleanAddress (rawAddress l) (range (rawAddress l)))) := by
  cases l with
  | obj loc =>
    have hgeo : (geoOf scanGPS loc).isSome = true := (isSome_geoOf scanGPS loc).trans h
    obtain ⟨geo, hgeo⟩ := Option.isSome_iff_exists.1 hgeo
    refine ⟨geo, fun range hrange => ?_⟩
    rw [cleanLocation_obj scanGPS hrange, hgeo]
    rfl
  | _ => cases h

theorem cleanLocation_eq_none {scanGPS : String → Option (ℚ × ℚ)} {l : Json} (h : Located scanGPS l = false)
    {range : Fields → Fields} (hrange : range [] = []) : cleanLocation scanGPS range l = none := by
  cases l with
  | obj loc =>
    have hgeo : (geoOf scanGPS loc).isSome = false := (isSome_geoOf scanGPS loc).trans h
    rw [cleanLocation_obj scanGPS hrange, Option.isSome_eq_false_iff.1 hgeo |> Option.isNone_iff_eq_none.1]
    rfl
  | _ => rfl

theorem MapOrder.order_nil (o : MapOrder) (i : Nat) : o.order i [] = [] := (o.perm i []).eq_nil

/-- Each location with coordinates is cleaned in its place. -/
theorem sanitizeLocations_forall₂ (scanGPS : String → Option (ℚ × ℚ)) (o : MapOrder) (locs : List Json) :
    List.Forall₂ (fun (x : Json × Nat) l => cleanLocation scanGPS (o.order x.2) x.1 = some l)
      (locs.zipIdx.filter fun x => Located scanGPS x.1) (sanitizeLocations scanGPS o locs) := by
  unfold sanitizeLocations
  generalize locs.zipIdx = xs
  induction xs with
  | nil => exact .nil
  | cons x xs ih =>
    obtain ⟨l, i⟩ := x
    cases hlocated : Located scanGPS l with
    | true =>
      obtain ⟨geo, hgeo⟩ := cleanLocation_eq hlocated
      have hclean := hgeo (o.order i) (o.order_nil i)
      simp only [List.filter_cons, List.filterMap_cons, hlocated, hclean, if_true]
      exact .cons hclean ih
    | false =>
      have hclean := cleanLocation_eq_none hlocated (o.order_nil i)
      simp only [List.filter_cons, List.filterMap_cons, hlocated, hclean, Bool.false_eq_true, if_false]
      exact ih

/-- Addresses that are the same give locations that are the same, and only these do. -/
theorem canonical_locationOf_iff (geo : Json) (a a' : Fields) :
    canonical (locationOf geo a) = canonical (locationOf geo a') ↔ canonical (.obj a) = canonical (.obj a') := by
  have hlookup : ∀ a : Fields, ∃ loc : Fields, locationOf geo a = .obj loc ∧ (loc.map Prod.fst).Nodup ∧
      loc.lookup "geo" = some geo ∧ (∀ k, k ≠ "geo" → k ≠ "address" → loc.lookup k = none) ∧
      loc.lookup "address" = if a.isEmpty then none else some (.obj a) := by
    intro a
    have hother : ∀ k v, k ≠ "geo" → k ≠ "address" → List.lookup k [("geo", geo), ("address", v)] = none := by
      intro k v hgeo haddress
      rw [List.lookup_cons, beq_eq_false_iff_ne.2 hgeo]
      dsimp only
      rw [List.lookup_cons, beq_eq_false_iff_ne.2 haddress]
      rfl
    unfold locationOf
    by_cases hempty : a.isEmpty = true
    · rw [if_pos hempty, if_pos hempty]
      refine ⟨_, rfl, List.nodup_singleton _, rfl, ?_, rfl⟩
      intro k hgeo haddress
      rw [List.lookup_cons, beq_eq_false_iff_ne.2 hgeo]
      rfl
    · rw [if_neg hempty, if_neg hempty]
      refine ⟨_, rfl, ?_, rfl, fun k hgeo haddress => hother k _ hgeo haddress, rfl⟩
      show ["geo", "address"].Nodup
      decide
  obtain ⟨loc, hloc, hnodup, hgeo, hrest, haddress⟩ := hlookup a
  obtain ⟨loc', hloc', hnodup', hgeo', hrest', haddress'⟩ := hlookup a'
  rw [hloc, hloc', canonical_obj_eq_iff hnodup hnodup']
  constructor
  · intro h
    have hat := h "address"
    rw [haddress, haddress'] at hat
    cases a with
    | nil =>
      cases a' with
      | nil => rfl
      | cons e' a' => cases hat
    | cons e a =>
      cases a' with
      | nil => cases hat
      | cons e' a' => exact Option.some.inj hat
  · intro h k
    have hlength : a.length = a'.length := by
      rw [canonical_obj, canonical_obj] at h
      have hsorted := congrArg List.length (Json.obj.inj h)
      simpa [byKey, canonicalFields_eq, List.length_insertionSort] using hsorted
    have hempty : a.isEmpty = a'.isEmpty := by
      rw [Bool.eq_iff_iff, List.isEmpty_iff_length_eq_zero, List.isEmpty_iff_length_eq_zero, hlength]
    by_cases hk : k = "geo"
    · rw [hk, hgeo, hgeo']
    · by_cases hk' : k = "address"
      · rw [hk', haddress, haddress', hempty]
        split
        · rfl
        · exact congrArg some h
      · rw [hrest k hk hk', hrest' k hk hk']

/-! ### Clean locations -/

/-- Coordinates, and an address of the six fields, if there is one. -/
def CleanLocation (l : Json) : Prop :=
  ∃ geo, l = .obj [("geo", geo)] ∨
    ∃ address : Fields, address ≠ [] ∧ (address.map Prod.fst).Nodup ∧ (∀ e ∈ address, e.1 ∈ validAddr) ∧
      l = .obj [("geo", geo), ("address", .obj address)]

theorem CleanLocation.of_cleanLocation {scanGPS : String → Option (ℚ × ℚ)} {range : Fields → Fields}
    (hrange : range [] = []) {l l' : Json} (h : cleanLocation scanGPS range l = some l') : CleanLocation l' := by
  cases hlocated : Located scanGPS l with
  | false =>
    rw [cleanLocation_eq_none hlocated hrange] at h
    cases h
  | true =>
    obtain ⟨geo, hgeo⟩ := cleanLocation_eq hlocated
    obtain rfl := Option.some.inj ((hgeo range hrange).symm.trans h)
    refine ⟨geo, ?_⟩
    unfold locationOf
    by_cases hempty : (cleanAddress (rawAddress l) (range (rawAddress l))).isEmpty = true
    · rw [if_pos hempty]
      exact .inl rfl
    · rw [if_neg hempty]
      refine .inr ⟨_, ?_, nodup_cleanAddress _ _, fun e => valid_cleanAddress, rfl⟩
      rwa [List.isEmpty_iff] at hempty

/-- A clean address is cleaned to itself, in any order. -/
theorem cleanAddress_of_valid {address ranged : Fields} (hnodup : (address.map Prod.fst).Nodup)
    (hvalid : ∀ e ∈ address, e.1 ∈ validAddr) (hranged : ranged.Perm address) :
    canonical (.obj (cleanAddress address ranged)) = canonical (.obj address) := by
  have hget : ∀ k, k ∉ validAddr → address.get k = .null := by
    intro k hk
    unfold Fields.get
    cases hlookup : address.lookup k with
    | none => rfl
    | some v => exact absurd (hvalid _ ((lookup_eq_some_iff hnodup).1 hlookup)) hk
  have hcomposed : composedAddress address = [] := by
    unfold composedAddress
    rw [hget "door" (by decide), hget "building" (by decide)]
    rfl
  have hwrites : addressWrites ranged = ranged := by
    unfold addressWrites
    have hall : ∀ e ∈ ranged, (addressTarget e.1).map (fun k => (k, e.2)) = some e := by
      intro e he
      rw [addressTarget_of_valid (hvalid e (hranged.mem_iff.1 he))]
      rfl
    rw [List.filterMap_congr hall, List.filterMap_some]
  rw [canonical_obj_eq_iff (nodup_cleanAddress _ _) hnodup]
  intro k
  congr 1
  rw [cleanAddress_eq, hcomposed, hwrites, lookup_written]
  show (Option.map Prod.snd _).or none = _
  rw [Option.or_none]
  apply Option.ext
  intro v
  rw [lookup_eq_some_iff hnodup, ← hranged.mem_iff, Option.map_eq_some_iff]
  have hkeys : (ranged.map Prod.fst).Nodup := (hranged.map Prod.fst).nodup_iff.2 hnodup
  constructor
  · intro h
    obtain ⟨e, he, rfl⟩ := h
    obtain ⟨hmem, hk⟩ := List.mem_filter.1 (List.mem_of_getLast? he)
    rw [← of_decide_eq_true hk]
    exact hmem
  · intro h
    have hmem : (k, v) ∈ ranged.filter fun e => e.1 = k := List.mem_filter.2 ⟨h, decide_eq_true rfl⟩
    obtain ⟨e, he⟩ := Option.ne_none_iff_exists'.1 (mt List.getLast?_eq_none_iff.1 (List.ne_nil_of_mem hmem))
    refine ⟨e, he, ?_⟩
    obtain ⟨hlast, hk⟩ := List.mem_filter.1 (List.mem_of_getLast? he)
    have hfound := (lookup_eq_some_iff hkeys).2 h
    rw [← of_decide_eq_true hk, (lookup_eq_some_iff hkeys).2 (show (e.1, e.2) ∈ ranged from hlast)] at hfound
    exact Option.some.inj hfound

theorem CleanLocation.cleanLocation {l : Json} (h : CleanLocation l) (scanGPS : String → Option (ℚ × ℚ))
    {range : Fields → Fields} (hrange : ∀ m, (range m).Perm m) :
    ∃ l', cleanLocation scanGPS range l = some l' ∧ canonical l' = canonical l := by
  have hnil : range [] = [] := (hrange []).eq_nil
  obtain ⟨geo, hl⟩ := h
  rcases hl with rfl | ⟨address, hne, hnodup, hvalid, rfl⟩
  · exact ⟨_, cleanLocation_obj scanGPS hnil _, by
      show canonical (locationOf geo (cleanAddress [] (range []))) = _
      rw [hnil]
      rfl⟩
  · refine ⟨_, cleanLocation_obj scanGPS hnil _, ?_⟩
    show canonical (locationOf geo (cleanAddress address (range address))) = _
    have hsame : locationOf geo address = .obj [("geo", geo), ("address", .obj address)] := by
      unfold locationOf
      rw [if_neg (by rwa [List.isEmpty_iff])]
    rw [← hsame, canonical_locationOf_iff]
    exact cleanAddress_of_valid hnodup hvalid (hrange address)

/-- `sanitizeLocations` gives clean locations: those of the locations with coordinates, in their order, and it leaves
clean locations as they are. -/
theorem sanitizeLocations_clean (scanGPS : String → Option (ℚ × ℚ)) (o : MapOrder) (locs : List Json) :
    let out := sanitizeLocations scanGPS o locs
    (List.Forall₂ (fun (x : Json × Nat) l => cleanLocation scanGPS (o.order x.2) x.1 = some l)
      (locs.zipIdx.filter fun x => Located scanGPS x.1) out) ∧
    (∀ l ∈ out, CleanLocation l) ∧
    ∀ o', (sanitizeLocations scanGPS o' out).map canonical = out.map canonical := by
  intro out
  have hforall := sanitizeLocations_forall₂ scanGPS o locs
  have hclean : ∀ l ∈ out, CleanLocation l := by
    intro l hl
    obtain ⟨x, -, hx⟩ := List.mem_filterMap.1 hl
    exact .of_cleanLocation (o.order_nil x.2) hx
  refine ⟨hforall, hclean, ?_⟩
  intro o'
  have hagain : ∀ xs : List (Json × Nat), (∀ x ∈ xs, CleanLocation x.1) →
      (xs.filterMap fun x => Catalog.cleanLocation scanGPS (o'.order x.2) x.1).map canonical =
        (xs.map Prod.fst).map canonical := by
    intro xs
    induction xs with
    | nil => exact fun _ => rfl
    | cons x xs ih =>
      intro hxs
      have hrest := ih fun x' hx' => hxs x' (List.mem_cons_of_mem _ hx')
      obtain ⟨l', hl', hsame⟩ := (hxs x List.mem_cons_self).cleanLocation scanGPS (o'.perm x.2)
      simp only [List.filterMap_cons, hl', List.map_cons, hsame, hrest]
  have hfst : out.zipIdx.map Prod.fst = out := by rw [List.zipIdx_map_fst]
  calc (sanitizeLocations scanGPS o' out).map canonical
      = (out.zipIdx.map Prod.fst).map canonical := hagain _ fun x hx => hclean x.1 (by
        rw [← hfst]
        exact List.mem_map.2 ⟨x, hx, rfl⟩)
    _ = out.map canonical := by rw [hfst]

/-! ### The order of an address -/

/-- Fields that are written to the same field have the same value. -/
def Unambiguous (rawAddr : Fields) : Prop :=
  ∀ e ∈ rawAddr, ∀ e' ∈ rawAddr, ∀ k, addressTarget e.1 = some k → addressTarget e'.1 = some k →
    canonical e.2 = canonical e'.2

/-- The field that is ranged over last is kept. -/
theorem lookup_cleanAddress_last (rawAddr l : Fields) {e : String × Json} {k : String}
    (h : addressTarget e.1 = some k) : (cleanAddress rawAddr (l ++ [e])).lookup k = some e.2 := by
  have hwrites : addressWrites (l ++ [e]) = addressWrites l ++ [(k, e.2)] := by
    unfold addressWrites
    rw [List.filterMap_append, List.filterMap_cons_some (by rw [h]; rfl)]
    rfl
  have hfilter : [(k, e.2)].filter (fun e => decide (e.1 = k)) = [(k, e.2)] := by simp
  rw [cleanAddress_eq, hwrites, lookup_written, List.filter_append, hfilter, List.getLast?_append]
  rfl

theorem lookup_cleanAddress {rawAddr ranged : Fields} (h : Unambiguous rawAddr) (hranged : ranged.Perm rawAddr)
    (k : String) :
    (∀ e ∈ rawAddr, addressTarget e.1 = some k →
      ((cleanAddress rawAddr ranged).lookup k).map canonical = some (canonical e.2)) ∧
    ((∀ e ∈ rawAddr, addressTarget e.1 ≠ some k) →
      (cleanAddress rawAddr ranged).lookup k = (composedAddress rawAddr).lookup k) := by
  have hmem : ∀ w, w ∈ (addressWrites ranged).filter (fun e => e.1 = k) ↔
      ∃ e ∈ rawAddr, addressTarget e.1 = some k ∧ w = (k, e.2) := by
    intro w
    unfold addressWrites
    rw [List.mem_filter, List.mem_filterMap, decide_eq_true_eq]
    constructor
    · intro hw
      obtain ⟨⟨e, he, htarget⟩, hk⟩ := hw
      obtain ⟨k', hk', rfl⟩ := Option.map_eq_some_iff.1 htarget
      obtain rfl : k' = k := hk
      exact ⟨e, hranged.mem_iff.1 he, hk', rfl⟩
    · intro hw
      obtain ⟨e, he, htarget, rfl⟩ := hw
      exact ⟨⟨e, hranged.mem_iff.2 he, by rw [htarget]; rfl⟩, rfl⟩
  rw [cleanAddress_eq, lookup_written]
  constructor
  · intro e he htarget
    have hne := List.ne_nil_of_mem ((hmem _).2 ⟨e, he, htarget, rfl⟩)
    obtain ⟨w, hw⟩ := Option.ne_none_iff_exists'.1 (mt List.getLast?_eq_none_iff.1 hne)
    obtain ⟨e', he', htarget', rfl⟩ := (hmem w).1 (List.mem_of_getLast? hw)
    rw [hw]
    exact congrArg some (h e' he' e he k htarget' htarget)
  · intro hnone
    have hnil : (addressWrites ranged).filter (fun e => decide (e.1 = k)) = [] := by
      rw [List.eq_nil_iff_forall_not_mem]
      intro w hw
      obtain ⟨e, he, htarget, -⟩ := (hmem w).1 hw
      exact hnone e he htarget
    rw [hnil]
    rfl

theorem cleanAddress_order_iff (rawAddr : Fields) :
    (∀ ranged ranged' : Fields, ranged.Perm rawAddr → ranged'.Perm rawAddr →
      canonical (.obj (cleanAddress rawAddr ranged)) = canonical (.obj (cleanAddress rawAddr ranged'))) ↔
      Unambiguous rawAddr := by
  constructor
  · intro h e he e' he' k htarget htarget'
    have hlast : ∀ e ∈ rawAddr, ∃ l, (l ++ [e]).Perm rawAddr := by
      intro e he
      obtain ⟨before, behind, hsplit⟩ := List.append_of_mem he
      refine ⟨before ++ behind, ?_⟩
      rw [hsplit]
      exact (List.perm_append_singleton e _).trans List.perm_middle.symm
    obtain ⟨l, hl⟩ := hlast e he
    obtain ⟨l', hl'⟩ := hlast e' he'
    have hsame := h _ _ hl hl'
    rw [canonical_obj_eq_iff (nodup_cleanAddress _ _) (nodup_cleanAddress _ _)] at hsame
    have hat := hsame k
    rw [lookup_cleanAddress_last rawAddr l htarget, lookup_cleanAddress_last rawAddr l' htarget'] at hat
    exact Option.some.inj hat
  · intro h ranged ranged' hranged hranged'
    rw [canonical_obj_eq_iff (nodup_cleanAddress _ _) (nodup_cleanAddress _ _)]
    intro k
    obtain ⟨hvalue, hnone⟩ := lookup_cleanAddress h hranged k
    obtain ⟨hvalue', hnone'⟩ := lookup_cleanAddress h hranged' k
    by_cases hwritten : ∃ e ∈ rawAddr, addressTarget e.1 = some k
    · obtain ⟨e, he, htarget⟩ := hwritten
      rw [hvalue e he htarget, hvalue' e he htarget]
    · have hunwritten : ∀ e ∈ rawAddr, addressTarget e.1 ≠ some k := fun e he htarget => hwritten ⟨e, he, htarget⟩
      rw [hnone hunwritten, hnone' hunwritten]

/-- An address may be ranged over in any order. -/
theorem exists_order {rawAddr ranged : Fields} (h : ranged.Perm rawAddr) :
    ∃ o : MapOrder, ∀ i, o.order i rawAddr = ranged := by
  classical
  refine ⟨⟨fun _ m => if m = rawAddr then ranged else m, ?_⟩, fun _ => if_pos rfl⟩
  intro i m
  by_cases hm : m = rawAddr
  · rw [if_pos hm, hm]
    exact h
  · rw [if_neg hm]

/-- The cleaned locations, as a map over those with coordinates. -/
theorem sanitizeLocations_eq_map (scanGPS : String → Option (ℚ × ℚ)) (o : MapOrder) (locs : List Json) :
    sanitizeLocations scanGPS o locs = (locs.zipIdx.filter fun x => Located scanGPS x.1).map fun x =>
      (cleanLocation scanGPS (o.order x.2) x.1).getD .null := by
  have hforall := sanitizeLocations_forall₂ scanGPS o locs
  generalize sanitizeLocations scanGPS o locs = out at hforall ⊢
  generalize (locs.zipIdx.filter fun x => Located scanGPS x.1) = xs at hforall ⊢
  induction hforall with
  | nil => rfl
  | cons hclean _ ih => rw [List.map_cons, ← ih, hclean, Option.getD_some]

/-- Two runs agree in every order of the addresses, if no location has an old and a current name for one field, with
different values. -/
theorem sanitizeLocations_order_iff (scanGPS : String → Option (ℚ × ℚ)) (locs : List Json) :
    (∀ o o' : MapOrder, (sanitizeLocations scanGPS o locs).map canonical =
        (sanitizeLocations scanGPS o' locs).map canonical) ↔
      ∀ l ∈ locs, Located scanGPS l = true → Unambiguous (rawAddress l) := by
  have hpointwise : ∀ o o' : MapOrder, (sanitizeLocations scanGPS o locs).map canonical =
      (sanitizeLocations scanGPS o' locs).map canonical ↔ ∀ x ∈ locs.zipIdx, Located scanGPS x.1 = true →
        canonical (.obj (cleanAddress (rawAddress x.1) (o.order x.2 (rawAddress x.1)))) =
          canonical (.obj (cleanAddress (rawAddress x.1) (o'.order x.2 (rawAddress x.1)))) := by
    intro o o'
    rw [sanitizeLocations_eq_map, sanitizeLocations_eq_map, List.map_map, List.map_map, List.map_inj_left]
    have hat : ∀ x : Json × Nat, Located scanGPS x.1 = true →
        (canonical ((cleanLocation scanGPS (o.order x.2) x.1).getD .null) =
            canonical ((cleanLocation scanGPS (o'.order x.2) x.1).getD .null) ↔
          canonical (.obj (cleanAddress (rawAddress x.1) (o.order x.2 (rawAddress x.1)))) =
            canonical (.obj (cleanAddress (rawAddress x.1) (o'.order x.2 (rawAddress x.1))))) := by
      intro x hx
      obtain ⟨geo, hgeo⟩ := cleanLocation_eq hx
      rw [hgeo _ (o.order_nil x.2), hgeo _ (o'.order_nil x.2), Option.getD_some, Option.getD_some,
        canonical_locationOf_iff]
    constructor
    · intro h x hx hlocated
      exact (hat x hlocated).1 (h x (List.mem_filter.2 ⟨hx, hlocated⟩))
    · intro h x hx
      obtain ⟨hmem, hlocated⟩ := List.mem_filter.1 hx
      exact (hat x hlocated).2 (h x hmem hlocated)
  constructor
  · intro h l hl hlocated
    rw [← cleanAddress_order_iff]
    intro ranged ranged' hranged hranged'
    obtain ⟨o, ho⟩ := exists_order hranged
    obtain ⟨o', ho'⟩ := exists_order hranged'
    obtain ⟨i, hi⟩ := List.mem_iff_getElem?.1 hl
    have hat := (hpointwise o o').1 (h o o') (l, i) (List.mem_zipIdx_iff_getElem?.2 hi) hlocated
    rwa [ho i, ho' i] at hat
  · intro h o o'
    rw [hpointwise]
    intro x hx hlocated
    have hl : x.1 ∈ locs := List.mem_of_getElem? (List.mem_zipIdx_iff_getElem?.1 hx)
    exact (cleanAddress_order_iff _).2 (h x.1 hl hlocated) _ _ (o.perm x.2 _) (o'.perm x.2 _)

private def twoCities : List Json :=
  [.obj [("geo", .obj []), ("address", .obj [("city", .str "Bandung"), ("addressLocality", .str "Jakarta")])]]

private def backwards : MapOrder where
  order _ m := m.reverse
  perm _ m := m.reverse_perm

private def cityOf (out : List Json) : String := ((rawAddress (out.headD .null)).get "addressLocality").text

/-- The old and the current name of a city, of different values: the one that comes last is published. -/
theorem sanitizeLocations_two_cities :
    cityOf (sanitizeLocations (fun _ => none) {} twoCities) = "Jakarta" ∧
      cityOf (sanitizeLocations (fun _ => none) backwards twoCities) = "Bandung" ∧
      ¬∀ o o' : MapOrder, (sanitizeLocations (fun _ => none) o twoCities).map canonical =
        (sanitizeLocations (fun _ => none) o' twoCities).map canonical := by
  have hforth : cityOf ((sanitizeLocations (fun _ => none) {} twoCities).map canonical) = "Jakarta" := by
    decide +kernel
  have hback : cityOf ((sanitizeLocations (fun _ => none) backwards twoCities).map canonical) = "Bandung" := by
    decide +kernel
  refine ⟨by decide +kernel, by decide +kernel, ?_⟩
  intro h
  rw [h {} backwards, hback] at hforth
  revert hforth
  decide

end IonInsurance.Catalog
