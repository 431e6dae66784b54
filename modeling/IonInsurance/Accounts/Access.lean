import IonInsurance.Accounts.Service
import IonInsurance.Interleave.Growth
import IonInsurance.Interleave.Protocol

/-!
# Who may write

A request to a protected route gets past the middleware with a token only.  The token of a login is valid for a day, and
the account behind it stays: no other account ever has its e-mail address or its licence.
-/

namespace IonInsurance.Accounts

open Interleave Relational

abbrev History := List (Prog.Exchange Op Op.Ans)

abbrev Op.answered (o : Op) (a : o.Ans) : Prog.Exchange Op Op.Ans := ⟨o, a⟩

/-! ### What the requests ask -/

/-- The operation inserts a row into the tables of the catalogue. -/
def insertsRow : Catalog.Op → Bool
  | .insertProvider _ | .insertCatalog .. | .insertResource .. | .insertOffer .. | .insertPending _ => true
  | _ => false

/-- A row that is inserted belongs to the BPP itself. -/
def OwnRow : Catalog.Op → Prop
  | .insertProvider p => p.bppID = Catalog.defaultBPPID
  | .insertCatalog bppID .. => bppID = Catalog.defaultBPPID
  | .insertResource bppID .. => bppID = Catalog.defaultBPPID
  | .insertOffer _ bppID .. => bppID = Catalog.defaultBPPID
  | _ => True

/-- The token of the request was valid at a time that has been read. -/
def Admitted (lib : Library) (s : AuthService) (r : Request) (h : History) : Prop :=
  ∃ header apiCall now claims, r = .api header apiCall ∧ hasPrefix header "Bearer " = true ∧
    Op.now.answered now ∈ h ∧ validateToken lib s now (trimPrefix header "Bearer ") = .ok claims

theorem Admitted.mono {lib : Library} {s : AuthService} {r : Request} {h h' : History} (hadmitted : Admitted lib s r h)
    (hsub : h ⊆ h') : Admitted lib s r h' := by
  obtain ⟨header, apiCall, now, claims, hr, hbearer, hnow, hvalid⟩ := hadmitted
  exact ⟨header, apiCall, now, claims, hr, hbearer, hsub hnow, hvalid⟩

inductive MayAsk (lib : Library) (s : AuthService) : Request → History → Op → Prop where
  | now (r : Request) (h : History) : MayAsk lib s r h .now
  | salt (r : Request) (h : History) : MayAsk lib s r h .salt
  | select (r : Request) (h : History) (email : String) : MayAsk lib s r h (.selectAccount email)
  | insert {req : RegisterRequest} {h : History} {salt : List UInt8} {hash : String}
      (hhash : lib.generateFromPassword salt req.password = .ok hash) :
      MayAsk lib s (.register req) h (.insertAccount ⟨req.companyName, req.ojkLicense, req.email, hash⟩)
  | catalog {r : Request} {h : History} {o : Catalog.Op} (hadmitted : insertsRow o = true → Admitted lib s r h)
      (hown : OwnRow o) : MayAsk lib s r h (.catalog o)

/-- The login has found the account by its e-mail address and its password, and has signed its claims. -/
structure LogsIn (lib : Library) (s : AuthService) (email password : String) (h : History) (id : Int)
    (companyName hash : String) (now : Time) (token : String) : Prop where
  found : (Op.selectAccount email).answered (.ok (id, companyName, hash)) ∈ h
  compared : lib.compareHashAndPassword hash password = true
  read : Op.now.answered now ∈ h
  signed : lib.signedString s.jwtSecret (claimsOf id companyName email now) = .ok token

/-- A token comes from a login. -/
def Answers (lib : Library) (s : AuthService) (r : Request) (h : History) : Response → Prop
  | .token token => ∃ req id companyName hash now, r = .login req ∧
      LogsIn lib s req.email req.password h id companyName hash now token
  | _ => True

section

variable {lib : Library} {s : AuthService}

private theorem bound_follows {A : History → Op → Prop} {B : History → Response → Prop} {errors : List String}
    {p : Task Response} {h : History} (hB : ∀ status title detail, B h (.problem status title detail))
    (hp : p.Follows A B h) : (bound errors p).Follows A B h := by
  unfold bound
  split
  · exact hp
  · exact hB ..

private theorem register_follows (req : RegisterRequest) :
    (handler lib s (.register req)).Follows (MayAsk lib s (.register req)) (Answers lib s (.register req)) [] := by
  refine bound_follows (fun _ _ _ => trivial) ?_
  unfold register
  rw [Prog.bind_assoc]
  refine Prog.follows_call (.salt ..) fun salt => ?_
  cases hhash : lib.generateFromPassword salt req.password with
  | error err => trivial
  | ok hash =>
    refine Prog.follows_call (.insert hhash) fun inserted => ?_
    change Except String Int at inserted
    cases inserted <;> trivial

private theorem login_follows (req : LoginRequest) :
    (handler lib s (.login req)).Follows (MayAsk lib s (.login req)) (Answers lib s (.login req)) [] := by
  refine bound_follows (fun _ _ _ => trivial) ?_
  unfold login
  rw [Prog.bind_assoc]
  refine Prog.follows_call (.select ..) fun row => ?_
  change Except String (Int × String × String) at row
  rcases row with err | ⟨id, companyName, hash⟩
  · trivial
  · dsimp only
    split
    · rename_i hcompared
      rw [Prog.bind_assoc]
      refine Prog.follows_call (.now ..) fun now => ?_
      change Time at now
      cases hsigned : lib.signedString s.jwtSecret (claimsOf id companyName req.email now) with
      | error err => trivial
      | ok token =>
        exact ⟨req, id, companyName, hash, now, rfl, List.mem_cons_of_mem _ List.mem_cons_self, hcompared,
          List.mem_cons_self, hsigned⟩
    · trivial

private theorem create_own {o : Catalog.Task (Except String Int)} (errors : List String) (h : o.Asks OwnRow) :
    (Catalog.bound errors (Catalog.create o)).Asks OwnRow :=
  Catalog.bound_asks errors (h.bind fun _ => trivial)

/-- A handler finds no company in the claims of a token, and inserts rows of the BPP itself. -/
private theorem catalog_own (s : Catalog.CatalogService) (claims : Fields) (apiCall : ApiCall) :
    (Catalog.handler s (apiCall.request (.mapClaims claims))).Asks OwnRow := by
  cases apiCall with
  | createProvider req => exact create_own _ ⟨rfl, fun _ => trivial⟩
  | createCatalog req => exact create_own _ ⟨rfl, fun _ => trivial⟩
  | createResource req => exact create_own _ ⟨rfl, fun _ => trivial⟩
  | createOffer req => exact create_own _ ⟨rfl, fun _ => trivial⟩
  | publishCatalog catalogID =>
    refine (Catalog.publishCatalog_asks s catalogID).mono fun o ho => ?_
    rcases ho with hreads | ⟨payload, rfl⟩ | ⟨id, rfl⟩
    · cases o with
      | insertProvider | insertCatalog | insertResource | insertOffer => exact hreads.elim
      | _ => trivial
    · trivial
    · trivial

/-- A program of the catalogue whose request has been admitted. -/
private theorem inCatalog_follows {p : Catalog.Task Catalog.Response} {r : Request} {h : History} (hp : p.Asks OwnRow)
    (hadmitted : Admitted lib s r h) :
    (inCatalog p).Follows (MayAsk lib s r) (fun h _ => Admitted lib s r h) h := by
  have hasks : (inCatalog p).Asks fun o => ∃ o', o = .catalog o' ∧ OwnRow o' :=
    Prog.embed_asks (hp.mono fun o ho => ⟨o, rfl, ho⟩)
  refine hasks.follows ?_ ?_ hadmitted
  · rintro h _ hadmitted ⟨o, rfl, ho⟩
    exact .catalog (fun _ => hadmitted) ho
  · exact fun h o a hadmitted _ => hadmitted.mono (List.subset_cons_self ..)

private theorem api_follows (header : String) (apiCall : ApiCall) :
    (handler lib s (.api header apiCall)).Follows (MayAsk lib s (.api header apiCall))
      (Answers lib s (.api header apiCall)) [] := by
  change (api lib s header apiCall).Follows _ _ _
  unfold api
  split
  · rename_i hbearer
    refine Prog.follows_call (.now ..) fun now => ?_
    change Time at now
    cases hvalid : validateToken lib s now (trimPrefix header "Bearer ") with
    | error err => trivial
    | ok claims =>
      have hadmitted : Admitted lib s (.api header apiCall) [Op.now.answered now] :=
        ⟨header, apiCall, now, claims, rfl, hbearer, List.mem_cons_self, hvalid⟩
      exact (inCatalog_follows (catalog_own s.catalog claims apiCall) hadmitted).bind fun _ _ _ => trivial
  · trivial

private theorem onPublish_follows (req : Fields) :
    (handler lib s (.onPublish req)).Follows (MayAsk lib s (.onPublish req)) (Answers lib s (.onPublish req)) [] := by
  refine ⟨.catalog (by rintro ⟨⟩) trivial, fun now => ?_⟩
  exact ⟨.catalog (by rintro ⟨⟩) trivial, fun _ => trivial⟩

end

/-- The routes, what they ask and what they answer. -/
def protocol (lib : Library) (s : AuthService) : Protocol (machine lib s) where
  asks := MayAsk lib s
  returns := Answers lib s
  follows r := by
    cases r with
    | register req => exact register_follows req
    | login req => exact login_follows req
    | api header apiCall => exact api_follows header apiCall
    | onPublish req => exact onPublish_follows req

/-! ### The accounts -/

/-- No account has been taken away. -/
def AccountsGrown (s s' : Db) : Prop := s.accounts.rows <+: s'.accounts.rows

/-- An account is added, or the rows stay. -/
theorem accounts_exec (o : Op) (c : Choice) (s : Db) :
    (exec o c s).2.accounts.rows = s.accounts.rows ∨
      ∃ a, o = .insertAccount a ∧ (exec o c s).2.accounts.rows = s.accounts.rows ++ [(s.accounts.next, a)] := by
  cases o with
  | insertAccount a =>
    simp only [exec]
    cases c.catalog.sqlError with
    | some err => exact .inl rfl
    | none =>
      rw [statement_none]
      unfold Db.insertAccount
      split
      · split
        · exact .inr ⟨a, rfl, rfl⟩
        · exact .inl rfl
      · exact .inl rfl
  | selectAccount email =>
    refine .inl ?_
    simp only [exec, statement_read]
  | now | salt | catalog => exact .inl rfl

theorem machine_grows (lib : Library) (s : AuthService) : (machine lib s).Grows AccountsGrown where
  refl _ := List.prefix_rfl
  trans h h' := h.trans h'
  exec o c s := by
    change s.accounts.rows <+: (exec o c s).2.accounts.rows
    rcases accounts_exec o c s with hsame | ⟨a, -, hadd⟩
    · rw [hsame]
    · rw [hadd]
      exact List.prefix_append ..

/-- The account was registered with a password of this hash. -/
def RegisteredBy (lib : Library) (w : AccountsWorld) (a : Account) : Prop :=
  ∃ d req salt, w.request? d = some (.register req) ∧ req.companyName = a.companyName ∧ req.ojkLicense = a.ojkLicense ∧
    req.email = a.email ∧ lib.generateFromPassword salt req.password = .ok a.passwordHash

section

variable {lib : Library} {s : AuthService} {k : AccountsConfig}

theorem registered_of_runs (hk : (machine lib s).Runs Machine.anything start k) :
    ∀ x ∈ k.world.store.accounts.rows, RegisteredBy lib k.world x.2 := by
  have hkeeps : (protocol lib s).Keeps Machine.anything fun w => ∀ x ∈ w.store.accounts.rows, RegisteredBy lib w x.2 := by
    constructor
    · intro w d r hw _ hd _ x hx
      obtain ⟨e, req, salt, hr, hrest⟩ := hw x hx
      exact ⟨e, req, salt, World.request?_stays hd hr, hrest⟩
    · intro w d r o c hw _ hr ho x hx
      change x ∈ (exec o c w.store).2.accounts.rows at hx
      rcases accounts_exec o c w.store with hsame | ⟨a, rfl, hadd⟩
      · rw [hsame] at hx
        exact hw x hx
      · rw [hadd] at hx
        rcases List.mem_append.1 hx with hold | hnew
        · exact hw x hold
        · obtain rfl := List.mem_singleton.1 hnew
          cases ho with
          | @insert req _ salt hash hhash => exact ⟨d, req, salt, hr, rfl, rfl, rfl, hhash⟩
  refine Protocol.invariant hkeeps (Protocol.Obeyed.init _) ?_ hk
  intro x hx
  cases hx

/-- The account that was found is one of the rows. -/
theorem mem_of_selectAccount {db : Db} {email companyName hash : String} {id : Int} {c : Choice}
    (h : (.ok (id, companyName, hash) : Except String (Int × String × String)) = (exec (.selectAccount email) c db).1) :
    ∃ a, (id, a) ∈ db.accounts.rows ∧ a.companyName = companyName ∧ a.email = email ∧ a.passwordHash = hash := by
  simp only [exec] at h
  cases hc : c.catalog.sqlError with
  | some err =>
    rw [hc] at h
    cases h
  | none =>
    rw [hc, statement_none] at h
    unfold Db.selectAccount at h
    cases hfind : db.accounts.find? email with
    | none =>
      rw [hfind] at h
      cases h
    | some x =>
      rw [hfind] at h
      obtain ⟨id', a⟩ := x
      obtain ⟨rfl, hrest⟩ := Prod.mk.inj (Except.ok.inj h)
      obtain ⟨rfl, rfl⟩ := Prod.mk.inj hrest
      obtain ⟨hmem, hemail⟩ := AccountTable.find?_some hfind
      exact ⟨a, hmem, rfl, hemail, rfl⟩

/-- No other account has the e-mail address or the licence. -/
theorem only_account {T : AccountTable} {x y : Int × Account} (hx : x ∈ T.rows) (hy : y ∈ T.rows)
    (h : y.2.email = x.2.email ∨ y.2.ojkLicense = x.2.ojkLicense) : y = x := by
  by_contra hne
  have hapart : Apart y x := T.apart.forall hy hx hne
  rcases h with hemail | hlicense
  · exact hapart.2 hemail
  · exact hapart.1 hlicense

end

/-! ### Sessions -/

/-- What golang-jwt promises of a token that a login has signed: it is read back, and it is not valid once it has
expired. -/
structure JwtLaws (lib : Library) : Prop where
  parse_signed : ∀ secret id companyName email since token,
    lib.signedString secret (claimsOf id companyName email since) = .ok token →
      lib.parseUnverified token = some (.hmac "HS256", claimsOf id companyName email since)
  expires : ∀ now id companyName email since, lib.validAt now (claimsOf id companyName email since) = true →
    now.unixNano < expiry since * 1000000000

/-- Program `e` has answered the token. -/
def AnsweredToken (k : AccountsConfig) (e : Nat) (token : String) : Prop :=
  k.progs[e]? = some (Prog.ret (Response.token token))

/-- Nobody but the service has the secret: a token that is valid at some time was the answer to a login. -/
def Unforged (lib : Library) (s : AuthService) (k : AccountsConfig) : Prop :=
  ∀ d header apiCall now claims, k.world.request? d = some (.api header apiCall) →
    validateToken lib s now (trimPrefix header "Bearer ") = .ok claims →
      ∃ e, AnsweredToken k e (trimPrefix header "Bearer ")

/-- Program `e` has logged the account in at `since`, with a password for its hash, and has answered the token. -/
structure LoggedIn (lib : Library) (k : AccountsConfig) (e : Nat) (a : Account) (since : Time) (token : String) : Prop where
  request : ∃ password, k.world.request? e = some (.login ⟨a.email, password⟩) ∧
    lib.compareHashAndPassword a.passwordHash password = true
  read : Op.now.answered since ∈ k.world.exchanges e
  answered : AnsweredToken k e token

/-- The account is there, it was registered, and no other one has its e-mail address or its licence. -/
structure Registered (lib : Library) (w : AccountsWorld) (id : Int) (a : Account) : Prop where
  row : (id, a) ∈ w.store.accounts.rows
  request : RegisteredBy lib w a
  alone : ∀ x ∈ w.store.accounts.rows, x.2.email = a.email ∨ x.2.ojkLicense = a.ojkLicense → x = (id, a)

/-- The request of program `d` was admitted with the token of a login of the account less than a day before. -/
def ActsFor (lib : Library) (k : AccountsConfig) (d : Nat) (id : Int) (a : Account) : Prop :=
  ∃ header apiCall now e since, k.world.request? d = some (.api header apiCall) ∧ hasPrefix header "Bearer " = true ∧
    Op.now.answered now ∈ k.world.exchanges d ∧ LoggedIn lib k e a since (trimPrefix header "Bearer ") ∧
    now.unixNano < since.unixNano + 86400000000000 ∧ Registered lib k.world id a

section

variable {lib : Library} {s : AuthService} {k : AccountsConfig}

/-- A token that was handed out and is valid at `now` comes from a login less than a day before. -/
theorem loggedIn_of_valid (laws : JwtLaws lib) (hk : (machine lib s).Runs Machine.anything start k) {e : Nat}
    {token : String} (hanswered : AnsweredToken k e token) {now : Time} {claims : Fields}
    (hvalid : validateToken lib s now token = .ok claims) :
    ∃ id a since, LoggedIn lib k e a since token ∧ now.unixNano < since.unixNano + 86400000000000 ∧
      Registered lib k.world id a := by
  have hobeyed : (protocol lib s).Obeyed k := (Protocol.Obeyed.init _).run hk
  obtain ⟨r, hr, hanswers⟩ := hobeyed.prog e _ hanswered
  obtain ⟨req, id, companyName, hash, since, rfl, hfound, hcompared, hread, hsigned⟩ := hanswers
  -- the account was found in a state of the run, and stays
  obtain ⟨db, -, hgrown, c, hanswer⟩ := (machine_grows lib s).exchange hk rfl hfound
  obtain ⟨a, hmem, rfl, hemail, rfl⟩ := mem_of_selectAccount hanswer
  have hrow : (id, a) ∈ k.world.store.accounts.rows := hgrown.subset hmem
  have hexp : now.unixNano < expiry since * 1000000000 := by
    unfold validateToken at hvalid
    rw [laws.parse_signed _ _ _ _ _ _ hsigned] at hvalid
    dsimp only at hvalid
    split at hvalid
    · rename_i htests
      exact laws.expires now _ _ _ since (Bool.and_eq_true_iff.1 htests).2
    · cases hvalid
  refine ⟨id, a, since, ⟨⟨req.password, ?_, hcompared⟩, hread, hanswered⟩, ?_, hrow, registered_of_runs hk _ hrow, ?_⟩
  · rw [hr, hemail]
  · unfold expiry at hexp
    omega
  · exact fun x hx h => only_account hrow hx h

theorem actsFor_of_admitted (laws : JwtLaws lib) (hk : (machine lib s).Runs Machine.anything start k)
    (hunforged : Unforged lib s k) {d : Nat} {r : Request} (hr : k.world.request? d = some r)
    (h : Admitted lib s r (k.world.exchanges d)) : ∃ id a, ActsFor lib k d id a := by
  obtain ⟨header, apiCall, now, claims, rfl, hbearer, hnow, hvalid⟩ := h
  obtain ⟨e, hanswered⟩ := hunforged d header apiCall now claims hr hvalid
  obtain ⟨id, a, since, hlogin, hday, hregistered⟩ := loggedIn_of_valid laws hk hanswered hvalid
  exact ⟨id, a, header, apiCall, now, e, since, hr, hbearer, hnow, hlogin, hday, hregistered⟩

end

end IonInsurance.Accounts
