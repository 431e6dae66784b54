import IonInsurance.Accounts.Access

/-!
# Who fills the catalogue

The catalogue is filled through the protected routes only, so each of its rows goes back to a login.  The rows do not
carry the name of the company, though: the claims of a token are not of the type that the handlers expect, and every
publish takes along the resources of all companies.
-/

namespace IonInsurance.Accounts

open Interleave Relational

/-! ### The rows of the catalogue -/

/-- A row of the catalogue, by its table and its key. -/
inductive RowKey : Type where
  | provider (id : Int)
  | catalog (id : Int)
  | resource (id : Int)
  | offer (id : Int)

def RowKey.In (db : Catalog.Db) : RowKey → Prop
  | provider id => ∃ row, (id, row) ∈ db.providers.rows
  | catalog id => ∃ row, (id, row) ∈ db.catalogs.rows
  | resource id => ∃ row, (id, row) ∈ db.resources.rows
  | offer id => ∃ row, (id, row) ∈ db.offers.rows

/-- The row that an operation has inserted, if it is answered so. -/
def inserted : (o : Catalog.Op) → o.Ans → Option RowKey
  | .insertProvider _, .ok id => some (.provider id)
  | .insertCatalog .., .ok id => some (.catalog id)
  | .insertResource .., .ok id => some (.resource id)
  | .insertOffer .., .ok id => some (.offer id)
  | _, _ => none

/-- What an operation does to the tables of the catalogue, and what it answers: it inserts a row, or leaves them alone. -/
inductive RowStep (db : Catalog.Db) : (o : Catalog.Op) → o.Ans → Catalog.Db → Prop where
  | keep (o : Catalog.Op) (a : o.Ans) {db' : Catalog.Db} (hproviders : db'.providers = db.providers)
      (hcatalogs : db'.catalogs = db.catalogs) (hresources : db'.resources = db.resources)
      (hoffers : db'.offers = db.offers) : RowStep db o a db'
  | provider (p : Catalog.Provider) :
      RowStep db (.insertProvider p) (.ok db.providers.next) { db with providers := db.providers.insert p }
  | catalog {bppID name version : String} {descriptor validity : Json} {providerID : Option Int} (createdAt : Time) :
      RowStep db (.insertCatalog bppID name descriptor validity version providerID) (.ok db.catalogs.next)
        { db with catalogs := db.catalogs.insert ⟨bppID, name, descriptor, validity, version, providerID, createdAt⟩ }
  | resource {bppID productType vehicleType ojkCode : String} {attrs : Json} (createdAt : Time) :
      RowStep db (.insertResource bppID productType vehicleType ojkCode attrs) (.ok db.resources.next)
        { db with resources := db.resources.insert ⟨bppID, productType, vehicleType, ojkCode, attrs, createdAt⟩ }
  | offer {id : Int} {bppID zone : String} {min max : ℚ} {attrs : Json} {validUntil : Option Time} (row : Catalog.Offer)
      (hrow : row.bppID = bppID) :
      RowStep db (.insertOffer id bppID zone min max attrs validUntil) (.ok db.offers.next)
        { db with offers := db.offers.insert row }

theorem exec_rowStep (o : Catalog.Op) (c : Catalog.Choice) (db : Catalog.Db) :
    RowStep db o (Catalog.exec o c db).1 (Catalog.exec o c db).2 := by
  obtain ⟨sqlError, rowsError, now, reply, order⟩ := c
  cases sqlError with
  | some err => cases o <;> exact .keep _ _ rfl rfl rfl rfl
  | none =>
    cases o with
    | insertProvider p =>
      change RowStep db (.insertProvider p) (db.insertProvider p).1 (db.insertProvider p).2
      rcases db.insertProvider_cases p with hok | ⟨err, herr⟩
      · rw [hok]
        exact .provider p
      · rw [herr]
        exact .keep _ _ rfl rfl rfl rfl
    | insertCatalog bppID name descriptor validity version providerID =>
      let row : Catalog.CatalogRow := ⟨bppID, name, descriptor, validity, version, providerID, now.toMicro⟩
      change RowStep db (.insertCatalog bppID name descriptor validity version providerID) (db.insertCatalog row).1
        (db.insertCatalog row).2
      rcases db.insertCatalog_cases row with hok | ⟨err, herr⟩
      · rw [hok]
        exact .catalog _
      · rw [herr]
        exact .keep _ _ rfl rfl rfl rfl
    | insertResource bppID productType vehicleType ojkCode attrs =>
      let row : Catalog.Resource := ⟨bppID, productType, vehicleType, ojkCode, attrs, now.toMicro⟩
      change RowStep db (.insertResource bppID productType vehicleType ojkCode attrs) (db.insertResource row).1
        (db.insertResource row).2
      rcases db.insertResource_cases row with hok | ⟨err, herr⟩
      · rw [hok]
        exact .resource _
      · rw [herr]
        exact .keep _ _ rfl rfl rfl rfl
    | insertOffer resourceID bppID zone minRate maxRate attrs validUntil =>
      let until? : Option Time := validUntil.map Time.toMicro
      change RowStep db (.insertOffer resourceID bppID zone minRate maxRate attrs validUntil)
        (db.insertOffer resourceID bppID zone minRate maxRate attrs until?).1
        (db.insertOffer resourceID bppID zone minRate maxRate attrs until?).2
      rcases db.insertOffer_cases resourceID bppID zone minRate maxRate attrs until? with
        ⟨min, max, -, -, hok⟩ | ⟨err, herr⟩
      · rw [hok]
        exact .offer _ rfl
      · rw [herr]
        exact .keep _ _ rfl rfl rfl rfl
    | insertPending catalogID =>
      change RowStep db (.insertPending catalogID) (db.insertPending catalogID).1 (db.insertPending catalogID).2
      rcases db.insertPending_cases catalogID with hok | ⟨err, herr⟩
      · rw [hok]
        exact .keep _ _ rfl rfl rfl rfl
      · rw [herr]
        exact .keep _ _ rfl rfl rfl rfl
    | updateResults catalogID status payload updatedAt =>
      change RowStep db (.updateResults catalogID status payload updatedAt)
        (db.updateResults catalogID status payload updatedAt).1
        (db.updateResults catalogID status payload updatedAt).2
      rcases db.updateResults_cases catalogID status payload updatedAt with hok | ⟨err, herr⟩
      · rw [hok]
        exact .keep _ _ rfl rfl rfl rfl
      · rw [herr]
        exact .keep _ _ rfl rfl rfl rfl
    | selectCatalog | selectProvider | selectCompanyName | selectResources | selectOffers | now | mapOrder
      | postPublish => exact .keep _ _ rfl rfl rfl rfl

/-- A row that has come with an insertion has the key that the insertion was answered. -/
theorem mem_insert_or {α : Type} {T : Table α} {row : α} {id : Int} (h : ∃ x, (id, x) ∈ (T.insert row).rows) :
    (∃ x, (id, x) ∈ T.rows) ∨ id = T.next := by
  obtain ⟨x, hx⟩ := h
  rw [Table.rows_insert] at hx
  rcases List.mem_append.1 hx with hold | hnew
  · exact .inl ⟨x, hold⟩
  · exact .inr (Prod.mk.inj (List.mem_singleton.1 hnew)).1

/-- A row was there, or the operation has inserted it. -/
theorem RowStep.inserted {db db' : Catalog.Db} {o : Catalog.Op} {a : o.Ans} (h : RowStep db o a db') {key : RowKey}
    (hin : key.In db') : key.In db ∨ insertsRow o = true ∧ Accounts.inserted o a = some key := by
  cases h with
  | keep o a hproviders hcatalogs hresources hoffers =>
    refine .inl ?_
    cases key with
    | provider id => rwa [RowKey.In, hproviders] at hin
    | catalog id => rwa [RowKey.In, hcatalogs] at hin
    | resource id => rwa [RowKey.In, hresources] at hin
    | offer id => rwa [RowKey.In, hoffers] at hin
  | provider p =>
    cases key with
    | provider id =>
      rcases mem_insert_or hin with hold | rfl
      · exact .inl hold
      · exact .inr ⟨rfl, rfl⟩
    | catalog | resource | offer => exact .inl hin
  | catalog createdAt =>
    cases key with
    | catalog id =>
      rcases mem_insert_or hin with hold | rfl
      · exact .inl hold
      · exact .inr ⟨rfl, rfl⟩
    | provider | resource | offer => exact .inl hin
  | resource createdAt =>
    cases key with
    | resource id =>
      rcases mem_insert_or hin with hold | rfl
      · exact .inl hold
      · exact .inr ⟨rfl, rfl⟩
    | provider | catalog | offer => exact .inl hin
  | offer row hrow =>
    cases key with
    | offer id =>
      rcases mem_insert_or hin with hold | rfl
      · exact .inl hold
      · exact .inr ⟨rfl, rfl⟩
    | provider | catalog | resource => exact .inl hin

/-- Program `d` has inserted the row, and was answered its key. -/
def Wrote (w : AccountsWorld) (d : Nat) (key : RowKey) : Prop :=
  ∃ o ans, (Op.catalog o).answered ans ∈ w.exchanges d ∧ inserted o ans = some key

/-- All rows belong to the BPP itself. -/
structure RowsOwn (db : Catalog.Db) : Prop where
  providers : ∀ x ∈ db.providers.rows, x.2.bppID = Catalog.defaultBPPID
  catalogs : ∀ x ∈ db.catalogs.rows, x.2.bppID = Catalog.defaultBPPID
  resources : ∀ x ∈ db.resources.rows, x.2.bppID = Catalog.defaultBPPID
  offers : ∀ x ∈ db.offers.rows, x.2.bppID = Catalog.defaultBPPID

theorem Wrote.mono {w w' : AccountsWorld} {d : Nat} {key : RowKey} (h : Wrote w d key)
    (hsub : w.exchanges d ⊆ w'.exchanges d) : Wrote w' d key := by
  obtain ⟨o, ans, hanswered, hkey⟩ := h
  exact ⟨o, ans, hsub hanswered, hkey⟩

private theorem own_insert {α : Type} (bppID : α → String) {T : Table α} {row : α}
    (h : ∀ x ∈ T.rows, bppID x.2 = Catalog.defaultBPPID) (hrow : bppID row = Catalog.defaultBPPID) :
    ∀ x ∈ (T.insert row).rows, bppID x.2 = Catalog.defaultBPPID := by
  intro x hx
  rw [Table.rows_insert] at hx
  rcases List.mem_append.1 hx with hold | hnew
  · exact h x hold
  · obtain rfl := List.mem_singleton.1 hnew
    exact hrow

theorem RowStep.own {db db' : Catalog.Db} {o : Catalog.Op} {a : o.Ans} (h : RowStep db o a db') (hown : OwnRow o)
    (hdb : RowsOwn db) : RowsOwn db' := by
  cases h with
  | keep o a hproviders hcatalogs hresources hoffers =>
    exact ⟨hproviders ▸ hdb.providers, hcatalogs ▸ hdb.catalogs, hresources ▸ hdb.resources, hoffers ▸ hdb.offers⟩
  | provider p =>
    refine ⟨?_, hdb.catalogs, hdb.resources, hdb.offers⟩
    exact own_insert Catalog.Provider.bppID hdb.providers hown
  | catalog createdAt =>
    refine ⟨hdb.providers, ?_, hdb.resources, hdb.offers⟩
    exact own_insert Catalog.CatalogRow.bppID hdb.catalogs hown
  | resource createdAt =>
    refine ⟨hdb.providers, hdb.catalogs, ?_, hdb.offers⟩
    exact own_insert Catalog.Resource.bppID hdb.resources hown
  | offer row hrow =>
    refine ⟨hdb.providers, hdb.catalogs, hdb.resources, ?_⟩
    exact own_insert Catalog.Offer.bppID hdb.offers (hrow.trans hown)

section

variable {lib : Library} {s : AuthService} {k : AccountsConfig}

theorem catalog_exec {o : Op} (ho : ¬∃ o', o = .catalog o') (c : Choice) (s : Db) : (exec o c s).2.catalog = s.catalog := by
  cases o with
  | catalog o => exact absurd ⟨o, rfl⟩ ho
  | now | salt => rfl
  | insertAccount a =>
    refine statement_keeps c.catalog.sqlError (P := fun db : Db => db.catalog = s.catalog) rfl ?_
    unfold Db.insertAccount
    split
    · split <;> rfl
    · rfl
  | selectAccount email => exact statement_keeps c.catalog.sqlError (P := fun db : Db => db.catalog = s.catalog) rfl rfl

theorem in_catalogView {s : Db} {key : RowKey} : key.In s.catalogView ↔ key.In s.catalog := by
  cases key <;> rfl

/-- Every row was inserted by a request that was admitted. -/
theorem admitted_of_runs (hk : (machine lib s).Runs Machine.anything start k) {key : RowKey}
    (hkey : key.In k.world.store.catalog) :
    ∃ d r, Wrote k.world d key ∧ k.world.request? d = some r ∧ Admitted lib s r (k.world.exchanges d) := by
  have hkeeps : (protocol lib s).Keeps Machine.anything fun w => ∀ key : RowKey, key.In w.store.catalog →
      ∃ d r, Wrote w d key ∧ w.request? d = some r ∧ Admitted lib s r (w.exchanges d) := by
    constructor
    · intro w d r hw _ hd _ key hkey
      obtain ⟨e, r', hwrote, hr', hadmitted⟩ := hw key hkey
      exact ⟨e, r', hwrote, World.request?_stays hd hr', hadmitted⟩
    · intro w d r o c hw _ hr ho key hkey
      have hold : key.In w.store.catalog → ∃ d' r, Wrote ((machine lib s).asked w d o c) d' key ∧
          w.request? d' = some r ∧ Admitted lib s r (((machine lib s).asked w d o c).exchanges d') := by
        intro hkey
        obtain ⟨e, r', hwrote, hr', hadmitted⟩ := hw key hkey
        have hsub := Machine.exchanges_subset (machine lib s) w d e o c
        exact ⟨e, r', hwrote.mono hsub, hr', hadmitted.mono hsub⟩
      by_cases hcatalog : ∃ o', o = .catalog o'
      · obtain ⟨o, rfl⟩ := hcatalog
        cases ho with
        | catalog hadmitted hown =>
          -- the view has the tables of the catalogue
          rcases (exec_rowStep o c.catalog w.store.catalogView).inserted hkey with hthere | ⟨hinserts, hinserted⟩
          · exact hold (in_catalogView.1 hthere)
          · refine ⟨d, r, ⟨o, _, ?_, hinserted⟩, hr, (hadmitted hinserts).mono (Machine.exchanges_subset ..)⟩
            rw [Machine.exchanges_asked_self]
            exact List.mem_cons_self
      · change key.In (exec o c w.store).2.catalog at hkey
        rw [catalog_exec hcatalog] at hkey
        exact hold hkey
  refine Protocol.invariant hkeeps (Protocol.Obeyed.init _) ?_ hk key hkey
  intro key hkey
  cases key <;> obtain ⟨row, hrow⟩ := hkey <;> cases hrow

/-- The resources that are found for the BPP itself are all of them. -/
private theorem resources_of_select {db : Db} (hdb : RowsOwn db.catalog) {c : Choice}
    {answer : Catalog.Rows (Int × Catalog.Resource)} (h : (.ok answer : Except String (Catalog.Rows (Int × Catalog.Resource))) =
      (exec (.catalog (.selectResources Catalog.defaultBPPID)) c db).1) :
    answer = c.catalog.read db.catalog.resources.rows := by
  simp only [exec, Catalog.exec] at h
  cases hc : c.catalog.sqlError with
  | some err =>
    rw [hc] at h
    cases h
  | none =>
    rw [hc, statement_none] at h
    rw [Except.ok.inj h]
    refine congrArg _ (List.filter_eq_self.2 fun x hx => ?_)
    exact decide_eq_true (hdb.resources x hx)

/-- In every run, each row of the catalogue was inserted by a request to a protected route, whose token a login had
answered less than a day before; the account of that login was registered, it is there, and it is the only one with its
e-mail address or its licence. -/
theorem rows_authored (laws : JwtLaws lib) (hk : (machine lib s).Runs Machine.anything start k)
    (hunforged : Unforged lib s k) {key : RowKey} (hkey : key.In k.world.store.catalog) :
    ∃ d id a, Wrote k.world d key ∧ ActsFor lib k d id a := by
  obtain ⟨d, r, hwrote, hr, hadmitted⟩ := admitted_of_runs hk hkey
  obtain ⟨id, a, hacts⟩ := actsFor_of_admitted laws hk hunforged hr hadmitted
  exact ⟨d, id, a, hwrote, hacts⟩

/-- In every run, all rows belong to the BPP itself, whichever account has inserted them, and the resources that a
publish reads as its own are all the resources that there are then, or the first of them if the read ends with an error. -/
theorem rows_shared (hk : (machine lib s).Runs Machine.anything start k) :
    RowsOwn k.world.store.catalog ∧ ∀ d rows err,
      (Op.catalog (.selectResources Catalog.defaultBPPID)).answered (.ok ⟨rows, err⟩) ∈ k.world.exchanges d →
        k.world.Once fun db => rows <+: db.catalog.resources.rows ∧ (err = none → rows = db.catalog.resources.rows) := by
  have hkeeps : (protocol lib s).Keeps Machine.anything fun w => RowsOwn w.store.catalog ∧ ∀ d rows err,
      (Op.catalog (.selectResources Catalog.defaultBPPID)).answered (.ok ⟨rows, err⟩) ∈ w.exchanges d →
        w.Once fun db => rows <+: db.catalog.resources.rows ∧ (err = none → rows = db.catalog.resources.rows) := by
    constructor
    · intro w d r hw _ _ _
      refine ⟨hw.1, fun e rows err hread => ?_⟩
      rw [World.once_started]
      exact hw.2 e rows err hread
    · rintro w d r o c ⟨hown, hreads⟩ _ _ ho
      refine ⟨?_, fun e rows err hread => ?_⟩
      · by_cases hcatalog : ∃ o', o = .catalog o'
        · obtain ⟨o, rfl⟩ := hcatalog
          cases ho with
          | catalog hadmitted ho =>
            have hview : RowsOwn w.store.catalogView := ⟨hown.providers, hown.catalogs, hown.resources, hown.offers⟩
            exact (exec_rowStep o c.catalog w.store.catalogView).own ho hview
        · change RowsOwn (exec o c w.store).2.catalog
          rwa [catalog_exec hcatalog]
      · rw [Machine.once_asked]
        rcases Machine.exchange_asked hread with hold | ⟨-, rfl, hanswer⟩
        · exact .inr (hreads e rows err hold)
        · refine .inr (.inl ?_)
          have hread := resources_of_select hown hanswer
          have hgiven := c.catalog.read_prefix w.store.catalog.resources.rows
          rw [← hread] at hgiven
          refine ⟨hgiven, fun hend => ?_⟩
          have herr : (c.catalog.read w.store.catalog.resources.rows).err = none := by rw [← hread, hend]
          have hall := Catalog.Choice.read_complete herr
          rwa [← hread] at hall
  refine Protocol.invariant hkeeps (Protocol.Obeyed.init _) ?_ hk
  refine ⟨⟨?_, ?_, ?_, ?_⟩, ?_⟩
  all_goals intro x
  all_goals intros
  all_goals contradiction

end

/-! ### An account that creates a provider -/

def opsToken : String :=
  "eyJhbGciOiJIUzI1NiIsInR5cCI6IkpXVCJ9.eyJjb21wYW55X25hbWUiOiJQVCBOdXNhIiwiZW1haWwiOiJhQG51c2EuaWQiLCJleHAiOjE3MzU4" ++
    "NjI0MDAsInN1YiI6IjEifQ.KcrNjp16zxcRXKhkrc41BPgf0q-oJnS_MQ-mD17VDqE"

def opsHash : String := "$2a$10$abcdefghijklmnopqrstuut4tP.c/ys8G8hcvoC3vkxhSo2iki/Oq"

/-- The claims of the account at its login. -/
def opsClaims : Fields := claimsOf 1 "PT Nusa" "a@nusa.id" ⟨2025, 1, 2, 0, 0, 0, 0⟩

/-- `opsClaims`, which are signed as `opsToken`. -/
def isOps : Fields → Bool
  | [("sub", .str id), ("company_name", .str name), ("email", .str email), ("exp", .num exp)] =>
    id = "1" && name = "PT Nusa" && email = "a@nusa.id" && exp = 1735862400
  | _ => false

/-- bcrypt and golang-jwt, as far as the account goes. -/
def opsLibrary : Library where
  isEmail s := s.toList.contains '@'
  generateFromPassword _ password := if password = "rahasia-2024" then .ok opsHash else .error "unknown"
  compareHashAndPassword hash password := hash = opsHash && password = "rahasia-2024"
  signedString secret claims :=
    if secret = "change-me-in-production" && isOps claims then .ok opsToken else .error "unknown"
  parseUnverified token := if token = opsToken then some (.hmac "HS256", opsClaims) else none
  verify method secret token := method = .hmac "HS256" && secret = "change-me-in-production" && token = opsToken
  validAt now claims :=
    match claims.get "exp" with
    | .num exp => now.unixNano < exp * 1000000000
    | _ => true

theorem eq_opsClaims {claims : Fields} (h : isOps claims = true) : claims = opsClaims := by
  unfold isOps at h
  split at h
  · simp only [Bool.and_eq_true, decide_eq_true_eq] at h
    obtain ⟨⟨⟨rfl, rfl⟩, rfl⟩, rfl⟩ := h
    rfl
  · cases h

theorem opsLaws : JwtLaws opsLibrary where
  parse_signed secret id companyName email since token h := by
    simp only [opsLibrary] at h ⊢
    split at h
    · rename_i hops
      obtain rfl := Except.ok.inj h
      rw [if_pos rfl, eq_opsClaims (Bool.and_eq_true_iff.1 hops).2]
    · cases h
  expires now id companyName email since h := by
    have hexp : (claimsOf id companyName email since).get "exp" = .int (expiry since) := rfl
    simp only [opsLibrary, hexp, Json.int, decide_eq_true_eq] at h
    exact_mod_cast h

private def midnight : Choice where
  catalog := .plain ⟨2025, 1, 2, 0, 0, 0, 0⟩

private def morning : Choice where
  catalog := .plain ⟨2025, 1, 2, 9, 30, 0, 0⟩

/-- The account is registered, logs in, and creates a provider. -/
def opsSchedule : List (Machine.Label Choice Request) :=
  [.start (.register ⟨"PT Nusa", "OJK-KEP-101", "a@nusa.id", "rahasia-2024"⟩), .exec 0 midnight,
    .exec 0 midnight, .start (.login ⟨"a@nusa.id", "rahasia-2024"⟩), .exec 1 midnight, .exec 1 midnight,
    .start (.api ("Bearer " ++ opsToken) (.createProvider { name := "Asuransi Nusantara" })), .exec 2 morning,
    .exec 2 morning]

private def handsOut (token : String) : Option (Task Response) → Bool
  | some (.ret (.token t)) => t = token
  | _ => false

theorem rows_authored_ops : ∃ (k : AccountsConfig) (d : Nat) (id : Int) (a : Account),
    (RowKey.provider 1).In k.world.store.catalog ∧ Wrote k.world d (.provider 1) ∧ ActsFor opsLibrary k d id a := by
  have hrun : ((machine opsLibrary (newAuthService "")).run? (fun _ _ => true) start opsSchedule).any (fun k =>
      handsOut opsToken k.progs[1]? && (k.world.store.catalog.providers.rows.map Prod.fst).contains 1) = true := by
    decide +kernel
  obtain ⟨k, hk, hend⟩ := (Option.any_eq_true _ _).1 hrun
  obtain ⟨htoken, hprovider⟩ := Bool.and_eq_true_iff.1 hend
  have hrow : (RowKey.provider 1).In k.world.store.catalog := by
    obtain ⟨⟨id, row⟩, hmem, rfl⟩ := List.mem_map.1 (List.contains_iff_mem.1 hprovider)
    exact ⟨row, hmem⟩
  have hanswered : AnsweredToken k 1 opsToken := by
    unfold AnsweredToken
    unfold handsOut at htoken
    split at htoken
    · rename_i t hprog
      rw [hprog, of_decide_eq_true htoken]
    · cases htoken
  have hunforged : Unforged opsLibrary (newAuthService "") k := by
    intro d header apiCall now claims _ hvalid
    refine ⟨1, ?_⟩
    by_cases hops : trimPrefix header "Bearer " = opsToken
    · rwa [hops]
    · have hparse : opsLibrary.parseUnverified (trimPrefix header "Bearer ") = none := if_neg hops
      rw [validateToken, hparse] at hvalid
      cases hvalid
  obtain ⟨d, id, a, hwrote, hacts⟩ :=
    rows_authored opsLaws ((Machine.run?_runs hk).mono fun _ _ _ => trivial) hunforged hrow
  exact ⟨k, d, id, a, hrow, hwrote, hacts⟩

/-- A resource and a catalog are created, and the publish of the catalog reads the resources. -/
def opsPublish : List (Machine.Label Choice Request) :=
  [.start (.api ("Bearer " ++ opsToken)
      (.createResource { productType := "MOTOR", vehicleType := "CAR", ojkProductCode := "OJK-1" })), .exec 3 morning,
    .exec 3 morning, .start (.api ("Bearer " ++ opsToken) (.createCatalog { name := "Motor" })), .exec 4 morning,
    .exec 4 morning, .start (.api ("Bearer " ++ opsToken) (.publishCatalog 1))] ++ .replicate 4 (.exec 5 morning)

private def readsOne : Prog.Exchange Op Op.Ans → Bool
  | ⟨.catalog (.selectResources bppID), .ok ⟨rows, none⟩⟩ => bppID = Catalog.defaultBPPID && rows.length = 1
  | _ => false

theorem rows_shared_ops : ∃ (k : AccountsConfig) (rows : List (Int × Catalog.Resource)),
    rows.length = 1 ∧ RowsOwn k.world.store.catalog ∧ k.world.Once fun db =>
      rows <+: db.catalog.resources.rows ∧ ((none : Option String) = none → rows = db.catalog.resources.rows) := by
  have hrun : ((machine opsLibrary (newAuthService "")).run? (fun _ _ => true) start (opsSchedule ++ opsPublish)).any
      (fun k => (k.world.exchanges 5).any readsOne) = true := by
    decide +kernel
  obtain ⟨k, hk, hend⟩ := (Option.any_eq_true _ _).1 hrun
  obtain ⟨x, hx, hreads⟩ := List.any_eq_true.1 hend
  unfold readsOne at hreads
  split at hreads
  · rename_i bppID rows
    obtain ⟨hbpp, hone⟩ := Bool.and_eq_true_iff.1 hreads
    obtain rfl : bppID = Catalog.defaultBPPID := of_decide_eq_true hbpp
    obtain ⟨hown, hall⟩ := rows_shared ((Machine.run?_runs hk).mono fun _ _ _ => trivial)
    exact ⟨k, rows, of_decide_eq_true hone, hown, hall 5 rows none hx⟩
  · cases hreads

end IonInsurance.Accounts
