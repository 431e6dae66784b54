import IonInsurance.Interleave.Embed
import IonInsurance.Interleave.Machine
import IonInsurance.Catalog.Service

/-!
# Accounts and the protected routes

An insurer registers an account and logs in, and a request to a protected route carries the token that it was given.
`AuthMiddleware` lets it pass as long as the token is valid, and the handlers of the catalogue take the company name from
the claims.  bcrypt, the signature of a token and the check of an e-mail address are parameters.
-/

namespace IonInsurance.Accounts

open Interleave Relational

/-! ### The table -/

/-- A row of `provider_accounts`. -/
structure Account where
  companyName : String
  ojkLicense : String
  email : String
  passwordHash : String
  deriving DecidableEq

/-- No two rows have the same licence or the same e-mail address. -/
def Apart (x y : Int × Account) : Prop := x.2.ojkLicense ≠ y.2.ojkLicense ∧ x.2.email ≠ y.2.email

instance apart_symm : Std.Symm Apart where
  symm _ _ h := ⟨h.1.symm, h.2.symm⟩

/-- `provider_accounts`. -/
structure AccountTable extends Table Account where
  apart : rows.Pairwise Apart

namespace AccountTable

def empty : AccountTable where
  toTable := .empty
  apart := .nil

instance : Inhabited AccountTable := ⟨empty⟩

/-- The row with that e-mail address. -/
def find? (T : AccountTable) (email : String) : Option (Int × Account) := T.rows.find? fun x => x.2.email = email

theorem find?_some {T : AccountTable} {email : String} {x : Int × Account} (h : T.find? email = some x) :
    x ∈ T.rows ∧ x.2.email = email := by
  unfold find? at h
  have htest := List.find?_some h
  exact ⟨List.mem_of_find?_eq_some h, of_decide_eq_true htest⟩

/-- The row of a new account is apart from all others. -/
def Takes (T : AccountTable) (a : Account) : Prop := ∀ x ∈ T.rows, x.2.ojkLicense ≠ a.ojkLicense ∧ x.2.email ≠ a.email

instance (T : AccountTable) (a : Account) : Decidable (T.Takes a) :=
  inferInstanceAs (Decidable (∀ x ∈ T.rows, x.2.ojkLicense ≠ a.ojkLicense ∧ x.2.email ≠ a.email))

def add (T : AccountTable) (a : Account) (h : T.Takes a) : AccountTable where
  toTable := T.insert a
  apart := by
    rw [Table.rows_insert, List.pairwise_append]
    refine ⟨T.apart, List.pairwise_singleton .., ?_⟩
    intro x hx y hy
    obtain rfl := List.mem_singleton.1 hy
    exact h x hx

/-- A statement that fails has drawn a key. -/
def skip (T : AccountTable) : AccountTable where
  toTable := T.toTable.skip
  apart := T.apart

end AccountTable

/-- The name of the unique constraint that a new account violates. -/
def violated (T : AccountTable) (a : Account) : String :=
  if T.rows.any fun x => x.2.ojkLicense = a.ojkLicense then "provider_accounts_ojk_license_key"
  else "provider_accounts_email_key"

def duplicateKey (constraint : String) : String :=
  "ERROR: duplicate key value violates unique constraint \"" ++ constraint ++ "\" (SQLSTATE 23505)"

structure Db where
  accounts : AccountTable := .empty
  catalog : Catalog.Db := {}

namespace Db

/-- The values of an account fit their columns. -/
def fits (a : Account) : Bool :=
  fitsVarchar 255 a.companyName && fitsVarchar 100 a.ojkLicense && fitsVarchar 255 a.email && fitsVarchar 255 a.passwordHash

def insertAccount (s : Db) (a : Account) : Except String Int × Db :=
  if fits a then
    if h : s.accounts.Takes a then (.ok s.accounts.next, { s with accounts := s.accounts.add a h })
    else (.error (duplicateKey (violated s.accounts a)), { s with accounts := s.accounts.skip })
  else (.error valueTooLong, { s with accounts := s.accounts.skip })

/-- `SELECT id, company_name, password_hash … WHERE email = $1`. -/
def selectAccount (s : Db) (email : String) : Except String (Int × String × String) :=
  match s.accounts.find? email with
  | some (id, a) => .ok (id, a.companyName, a.passwordHash)
  | none => .error noRows

/-- What the catalogue sees: the company name is that of the first account. -/
def catalogView (s : Db) : Catalog.Db :=
  { s.catalog with companyName := s.accounts.rows.head?.map fun x => x.2.companyName }

end Db

/-! ### Operations -/

inductive Op : Type where
  | now
  | salt
  | insertAccount (a : Account)
  | selectAccount (email : String)
  | catalog (o : Catalog.Op)

def Op.Ans : Op → Type
  | now => Time
  | salt => List UInt8
  | insertAccount _ => Except String Int
  | selectAccount _ => Except String (Int × String × String)
  | catalog o => o.Ans

structure Choice where
  salt : List UInt8 := []
  catalog : Catalog.Choice := {}

def exec : (o : Op) → Choice → Db → o.Ans × Db
  | .now, c, s => (c.catalog.now, s)
  | .salt, c, s => (c.salt, s)
  | .insertAccount a, c, s => statement c.catalog.sqlError s (s.insertAccount a)
  | .selectAccount email, c, s => statement c.catalog.sqlError s (s.selectAccount email, s)
  | .catalog o, c, s =>
    let (answer, catalog) := Catalog.exec o c.catalog s.catalogView
    (answer, { s with catalog := catalog })

abbrev Task := Prog Op Op.Ans

abbrev call (o : Op) : Task o.Ans := Prog.call o

/-- A program of the catalogue. -/
abbrev inCatalog {α : Type} (p : Catalog.Task α) : Task α := p.embed Op.catalog fun _ a => a

/-! ### What is not under the source -/

/-- The `alg` of a token: the methods of HMAC, and all others. -/
inductive SigningMethod : Type where
  | hmac (name : String)
  | other (name : String)
  deriving DecidableEq

structure Library where
  /-- The `email` check of the validator. -/
  isEmail : String → Bool
  /-- `bcrypt.GenerateFromPassword` at the default cost. -/
  generateFromPassword : (salt : List UInt8) → (password : String) → Except String String
  /-- `bcrypt.CompareHashAndPassword` finds no error. -/
  compareHashAndPassword : (hash password : String) → Bool
  /-- `SignedString` of a token with these claims, for HS256. -/
  signedString : (secret : String) → (claims : Fields) → Except String String
  /-- The method and the claims of a well-formed token. -/
  parseUnverified : String → Option (SigningMethod × Fields)
  /-- The signature of the token is right for the method and the secret. -/
  verify : SigningMethod → (secret token : String) → Bool
  /-- The claims are valid at that time. -/
  validAt : Time → Fields → Bool

structure AuthService where
  jwtSecret : String
  catalog : Catalog.CatalogService := {}

/-- `NewAuthService`; `secret` is `BPP_JWT_SECRET`. -/
def newAuthService (secret : String) : AuthService where
  jwtSecret := if secret = "" then "change-me-in-production" else secret

/-! ### Requests and responses -/

structure RegisterRequest where
  companyName : String
  ojkLicense : String
  email : String
  password : String

structure LoginRequest where
  email : String
  password : String

/-- A request to a protected route that writes. -/
inductive ApiCall : Type where
  | createProvider (req : Catalog.CreateProviderRequest)
  | createCatalog (req : Catalog.CreateCatalogRequest)
  | createResource (req : Catalog.CreateResourceRequest)
  | createOffer (req : Catalog.CreateOfferRequest)
  | publishCatalog (catalogID : Int)

/-- A request; the webhook of the cataloguing service is public. -/
inductive Request : Type where
  | register (req : RegisterRequest)
  | login (req : LoginRequest)
  | api (authorization : String) (call : ApiCall)
  | onPublish (req : Fields)

inductive Response : Type where
  | account (id : Int) (companyName ojkLicense email : String)
  | token (token : String)
  | problem (status : Nat) (title detail : String)
  | aborted (error : String)
  | catalog (r : Catalog.Response)

/-! ### The service -/

/-- The errors of the fields that fail their checks; each field has the tag of the first one. -/
def bindErrors (request : String) (fields : List (String × Option String)) : List String :=
  fields.filterMap fun (field, tag) => tag.map fun tag =>
    "Key: '" ++ request ++ "." ++ field ++ "' Error:Field validation for '" ++ field ++ "' failed on the '" ++ tag ++ "' tag"

/-- `binding:"required"`, and the check of a field that is there. -/
def required (value : String) (more : Option String := none) : Option String :=
  if value = "" then some "required" else more

def bound (errors : List String) (p : Task Response) : Task Response :=
  if errors.isEmpty then p else return .problem 400 "Bad Request" ("\n".intercalate errors)

def register (lib : Library) (companyName ojkLicense email password : String) : Task (Except String (Int × Account)) := do
  let salt ← call .salt
  match lib.generateFromPassword salt password with
  | .error err => return .error ("hash password: " ++ err)
  | .ok hash =>
    let account : Account := ⟨companyName, ojkLicense, email, hash⟩
    match ← call (.insertAccount account) with
    | .error err => return .error ("insert account: " ++ err)
    | .ok id => return .ok (id, account)

/-- `time.Now().Add(24 * time.Hour).Unix()`. -/
def expiry (now : Time) : Int := (now.unixNano + 86400000000000) / 1000000000

/-- The claims of a login at `now`. -/
def claimsOf (id : Int) (companyName email : String) (now : Time) : Fields :=
  [("sub", .str (toString id)), ("company_name", .str companyName), ("email", .str email), ("exp", .int (expiry now))]

def login (lib : Library) (s : AuthService) (email password : String) : Task (Except String String) := do
  match ← call (.selectAccount email) with
  | .error _ => return .error "invalid credentials"
  | .ok (id, companyName, hash) =>
    if lib.compareHashAndPassword hash password then
      let now ← call .now
      match lib.signedString s.jwtSecret (claimsOf id companyName email now) with
      | .error err => return .error ("sign token: " ++ err)
      | .ok signed => return .ok signed
    else return .error "invalid credentials"

/-- The claims of a token that is valid at `now`: its method must be HMAC. -/
def validateToken (lib : Library) (s : AuthService) (now : Time) (token : String) : Except String Fields :=
  match lib.parseUnverified token with
  | some (.hmac name, claims) =>
    if lib.verify (.hmac name) s.jwtSecret token && lib.validAt now claims then .ok claims else .error "invalid token"
  | _ => .error "invalid token"

/-- What `c.Get` returns has a dynamic type: `jwt.MapClaims` is not `map[string]any`. -/
inductive Dynamic : Type where
  | mapClaims (m : Fields)
  | mapStringAny (m : Fields)

/-- `cm, ok := claims.(map[string]any)`. -/
def Dynamic.asMap : Dynamic → Option Fields
  | mapStringAny m => some m
  | mapClaims _ => none

/-- The company that a handler finds in the claims. -/
def companyName (claims : Dynamic) : Option String :=
  claims.asMap.bind fun cm =>
    match cm.get "company_name" with
    | .str name => some name
    | _ => none

/-- The request that a handler of the catalogue serves. -/
def ApiCall.request (claims : Dynamic) : ApiCall → Catalog.Request
  | createProvider req => .createProvider (companyName claims) req
  | createCatalog req => .createCatalog (companyName claims) req
  | createResource req => .createResource req
  | createOffer req => .createOffer req
  | publishCatalog catalogID => .publishCatalog catalogID

/-- `AuthMiddleware`, and the handler behind it. -/
def api (lib : Library) (s : AuthService) (header : String) (apiCall : ApiCall) : Task Response := do
  if hasPrefix header "Bearer " then
    let now ← call .now
    match validateToken lib s now (trimPrefix header "Bearer ") with
    | .error _ => return .aborted "invalid token"
    | .ok claims =>
      let response ← inCatalog (Catalog.handler s.catalog (apiCall.request (.mapClaims claims)))
      return .catalog response
  else return .aborted "missing bearer token"

def handler (lib : Library) (s : AuthService) : Request → Task Response
  | .register req =>
    bound (bindErrors "RegisterRequest"
      [("CompanyName", required req.companyName), ("OJKLicense", required req.ojkLicense),
       ("Email", required req.email (if lib.isEmail req.email then none else some "email")),
       ("Password", required req.password (if req.password.length < 8 then some "min" else none))]) do
        match ← register lib req.companyName req.ojkLicense req.email req.password with
        | .error err => return .problem 409 "Registration Failed" err
        | .ok (id, a) => return .account id a.companyName a.ojkLicense a.email
  | .login req =>
    bound (bindErrors "LoginRequest"
      [("Email", required req.email (if lib.isEmail req.email then none else some "email")),
       ("Password", required req.password)]) do
        match ← login lib s req.email req.password with
        | .error err => return .problem 401 "Unauthorized" err
        | .ok token => return .token token
  | .api header apiCall => api lib s header apiCall
  | .onPublish req => do
    let response ← inCatalog (Catalog.handler s.catalog (.onPublish req))
    return .catalog response

def machine (lib : Library) (s : AuthService) : Machine Db Choice Request Op Op.Ans Response where
  exec := exec
  handler := handler lib s

abbrev AccountsWorld := World Db Request Op Op.Ans

abbrev AccountsConfig := Config Db Request Op Op.Ans Response

def start : AccountsConfig := Config.init {}

end IonInsurance.Accounts
