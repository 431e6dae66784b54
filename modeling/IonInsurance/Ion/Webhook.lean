import IonInsurance.Environment

/-!
# The DOKU webhook of ION

`handleDokuWebhook` checks the signature of a notification and forwards the payment to the BPP.  Header values, paths
and bodies are byte strings, since the sender chooses them.  SHA-256, HMAC and `json.Unmarshal` are parameters: what
is proved here holds of all functions in their place.

DOKU's Checkout notifications have no `Client-Id`, and the handler lets them pass without a valid signature.
-/

namespace IonInsurance.Ion

abbrev Bytes := List UInt8

/-- `[]byte(s)`. -/
def utf8 (s : String) : Bytes := s.toUTF8.toList

/-- What the handler uses of the standard library. -/
structure Library where
  sha256 : Bytes → Bytes
  /-- `hmac.New(sha256.New, key)` of a message. -/
  hmacSHA256 : (key message : Bytes) → Bytes
  unmarshal : Bytes → Option Json
  /-- The text that `json.Marshal` makes of a byte string. -/
  text : Bytes → String

structure IonService where
  secretKey : String
  bppPaymentURL : String := "http://bpp:8080/webhook/payment-received"

/-! ### HTTP -/

/-- `http.Header`: the values under each canonical name. -/
abbrev Header := List (String × List Bytes)

/-- `h.Get(name)`: the first value, or the empty string. -/
def Header.get (h : Header) (name : String) : Bytes := ((h.lookup name).getD []).headD []

/-- A request; a body that cannot be read is `none`. -/
structure HttpRequest where
  method : String
  path : Bytes
  header : Header
  body : Option Bytes

/-- The response, and the request that a goroutine started by the handler posts. -/
structure Handled where
  status : Nat
  body : String
  posts : Option (String × Fields) := none

/-! ### The signature -/

/-- The character of `base64.StdEncoding` for six bits. -/
def base64Char (n : Nat) : UInt8 :=
  if n < 26 then UInt8.ofNat (65 + n)
  else if n < 52 then UInt8.ofNat (71 + n)
  else if n < 62 then UInt8.ofNat (n - 4)
  else if n = 62 then 43
  else 47

/-- `base64.StdEncoding.EncodeToString`. -/
def base64 : Bytes → Bytes
  | a :: b :: c :: rest =>
    let v := a.toNat * 65536 + b.toNat * 256 + c.toNat
    base64Char (v / 262144) :: base64Char (v / 4096 % 64) :: base64Char (v / 64 % 64) :: base64Char (v % 64) ::
      base64 rest
  | [a, b] =>
    let v := a.toNat * 65536 + b.toNat * 256
    [base64Char (v / 262144), base64Char (v / 4096 % 64), base64Char (v / 64 % 64), 61]
  | [a] =>
    let v := a.toNat * 65536
    [base64Char (v / 262144), base64Char (v / 4096 % 64), 61, 61]
  | [] => []

def verifySignature (lib : Library) (s : IonService) (clientID requestID timestamp requestTarget bodyBytes
    signature : Bytes) : Bool :=
  if s.secretKey = "" then true
  else
    let digest := base64 (lib.sha256 bodyBytes)
    let stringToSign := utf8 "Client-Id:" ++ clientID ++ utf8 "\nRequest-Id:" ++ requestID ++
      utf8 "\nRequest-Timestamp:" ++ timestamp ++ utf8 "\nRequest-Target:" ++ requestTarget ++
      utf8 "\nDigest:" ++ digest
    let expected := utf8 "HMACSHA256=" ++ base64 (lib.hmacSHA256 (utf8 s.secretKey) stringToSign)
    expected = signature

/-! ### The handler -/

/-- `json.Unmarshal` into a `map[string]any`; `null` gives the nil map. -/
def unmarshalMap (lib : Library) (bodyBytes : Bytes) : Option Fields :=
  match lib.unmarshal bodyBytes with
  | some .null => some []
  | some (.obj m) => some m
  | _ => none

/-- The request that `notifyBPP` posts. -/
def notifyBPP (lib : Library) (s : IonService) (invoiceNumber : String) (paymentRequestID : Bytes) (amount : ℚ) :
    String × Fields :=
  (s.bppPaymentURL,
    [("invoice_number", .str invoiceNumber),
     ("payment_request_id", .str (lib.text paymentRequestID)),
     ("amount", .num amount)])

/-- The path that is signed; the webhook may be proxied. -/
def HttpRequest.requestTarget (r : HttpRequest) : Bytes :=
  if (utf8 "/").isPrefixOf r.path then r.path else utf8 "/" ++ r.path

def handleDokuWebhook (lib : Library) (s : IonService) (r : HttpRequest) : Handled :=
  if r.method ≠ "POST" then { status := 405, body := "method not allowed\n" }
  else
    match r.body with
    | none => { status := 200, body := "" }
    | some bodyBytes =>
      let clientID := r.header.get "Client-Id"
      let requestID := r.header.get "Request-Id"
      let timestamp := r.header.get "Request-Timestamp"
      let signature := r.header.get "Signature"
      -- a notification without Client-Id is taken for one of DOKU Checkout
      if ¬verifySignature lib s clientID requestID timestamp r.requestTarget bodyBytes signature ∧ clientID ≠ [] then
        { status := 200, body := "\x7b\"status\":\"signature_error\"\x7d" }
      else
        match unmarshalMap lib bodyBytes with
        | none => { status := 200, body := "" }
        | some body =>
          let order := (body.get "order").fields
          let invoiceNumber := (order.get "invoice_number").text
          let amount := (order.get "amount").float
          if invoiceNumber = "" then { status := 200, body := "\x7b\"status\":\"ignored\"\x7d" }
          else
            { status := 200
              body := "\x7b\"status\":\"ok\"\x7d"
              posts := some (notifyBPP lib s invoiceNumber requestID amount) }

/-! ### What is forwarded -/

/-- The string that DOKU signs. -/
def HttpRequest.canonicalString (lib : Library) (r : HttpRequest) (bodyBytes : Bytes) : Bytes :=
  utf8 "Client-Id:" ++ r.header.get "Client-Id" ++ utf8 "\nRequest-Id:" ++ r.header.get "Request-Id" ++
    utf8 "\nRequest-Timestamp:" ++ r.header.get "Request-Timestamp" ++
    utf8 "\nRequest-Target:" ++ r.requestTarget ++ utf8 "\nDigest:" ++ base64 (lib.sha256 bodyBytes)

/-- The `Signature` header is the HMAC of the canonical string under the secret key. -/
def HttpRequest.Signed (lib : Library) (s : IonService) (r : HttpRequest) : Prop :=
  ∃ bodyBytes, r.body = some bodyBytes ∧ r.header.get "Signature" =
    utf8 "HMACSHA256=" ++ base64 (lib.hmacSHA256 (utf8 s.secretKey) (r.canonicalString lib bodyBytes))

/-- The request carries a payment notification: a POST whose body names an invoice. -/
structure HttpRequest.Notification (lib : Library) (r : HttpRequest) (order : Fields) : Prop where
  post : r.method = "POST"
  body : ∃ bodyBytes body, r.body = some bodyBytes ∧ unmarshalMap lib bodyBytes = some body ∧
    order = (body.get "order").fields
  invoice : (order.get "invoice_number").text ≠ ""

theorem verifySignature_iff {lib : Library} {s : IonService} {r : HttpRequest} {bodyBytes : Bytes}
    (hkey : s.secretKey ≠ "") (hb : r.body = some bodyBytes) :
    verifySignature lib s (r.header.get "Client-Id") (r.header.get "Request-Id") (r.header.get "Request-Timestamp")
      r.requestTarget bodyBytes (r.header.get "Signature") = true ↔ r.Signed lib s := by
  unfold verifySignature
  rw [if_neg hkey, decide_eq_true_eq]
  constructor
  · intro h
    exact ⟨bodyBytes, hb, h.symm⟩
  · rintro ⟨b, hb', h⟩
    obtain rfl := Option.some.inj (hb.symm.trans hb')
    exact h.symm

/-- What the handler forwards is a notification, with a signature that verifies or without a client. -/
theorem notification_of_posts {lib : Library} {s : IonService} {r : HttpRequest} {x : String × Fields}
    (h : (handleDokuWebhook lib s r).posts = some x) :
    ∃ bodyBytes order, r.body = some bodyBytes ∧ r.Notification lib order ∧
      (verifySignature lib s (r.header.get "Client-Id") (r.header.get "Request-Id") (r.header.get "Request-Timestamp")
        r.requestTarget bodyBytes (r.header.get "Signature") = true ∨ r.header.get "Client-Id" = []) ∧
      x = notifyBPP lib s (order.get "invoice_number").text (r.header.get "Request-Id") (order.get "amount").float := by
  unfold handleDokuWebhook at h
  split at h
  · cases h
  · rename_i hpost
    split at h
    · cases h
    · rename_i bodyBytes hb
      dsimp only at h
      split at h
      · cases h
      · rename_i hsig
        split at h
        · cases h
        · rename_i body hm
          split at h
          · cases h
          · rename_i hinvoice
            refine ⟨bodyBytes, _, hb, ⟨not_not.1 hpost, ⟨bodyBytes, body, hb, hm, rfl⟩, hinvoice⟩, ?_,
              (Option.some.inj h).symm⟩
            by_cases hid : r.header.get "Client-Id" = []
            · exact .inr hid
            · exact .inl (by_contra fun hn => hsig ⟨hn, hid⟩)

/-- The handler forwards a notification if it is signed or names no client, and nothing else. -/
theorem posts_eq_some_iff (lib : Library) (r : HttpRequest) {s : IonService} (hkey : s.secretKey ≠ "")
    (x : String × Fields) : (handleDokuWebhook lib s r).posts = some x ↔
      (r.Signed lib s ∨ r.header.get "Client-Id" = []) ∧ ∃ order, r.Notification lib order ∧
        x = notifyBPP lib s (order.get "invoice_number").text (r.header.get "Request-Id") (order.get "amount").float := by
  constructor
  · intro h
    obtain ⟨bodyBytes, order, hb, hn, hsig, hx⟩ := notification_of_posts h
    rw [verifySignature_iff hkey hb] at hsig
    exact ⟨hsig, order, hn, hx⟩
  · rintro ⟨hsig, order, ⟨hpost, ⟨bodyBytes, body, hb, hm, rfl⟩, hinv⟩, rfl⟩
    have hpass : ¬(¬verifySignature lib s (r.header.get "Client-Id") (r.header.get "Request-Id")
        (r.header.get "Request-Timestamp") r.requestTarget bodyBytes (r.header.get "Signature") = true ∧
          r.header.get "Client-Id" ≠ []) := by
      rw [verifySignature_iff hkey hb]
      rintro ⟨hn, hid⟩
      exact hsig.elim hn hid
    simp only [handleDokuWebhook, hpost, ne_eq, not_true_eq_false, if_false, hb, hm] at hpass ⊢
    rw [if_neg hpass, if_neg hinv]

/-- A notification is forwarded only if its signature is right or it names no client; with a client and a signature
that does not verify, nothing is forwarded. -/
theorem forwards_only_signed (lib : Library) (s : IonService) (r : HttpRequest) (hkey : s.secretKey ≠ "") :
    ((handleDokuWebhook lib s r).posts.isSome = true → r.Signed lib s ∨ r.header.get "Client-Id" = []) ∧
      (r.header.get "Client-Id" ≠ [] → ¬r.Signed lib s → (handleDokuWebhook lib s r).posts = none) := by
  have hforward : (handleDokuWebhook lib s r).posts.isSome = true → r.Signed lib s ∨ r.header.get "Client-Id" = [] := by
    intro h
    obtain ⟨x, hx⟩ := Option.isSome_iff_exists.1 h
    exact ((posts_eq_some_iff lib r hkey x).1 hx).1
  refine ⟨hforward, fun hid hsig => ?_⟩
  cases hp : (handleDokuWebhook lib s r).posts with
  | none => rfl
  | some x => exact ((hforward (by rw [hp]; rfl)).elim hsig hid).elim

/-- The functions of the library at the values that the requests below need. -/
def paidLibrary : Library where
  sha256 _ := [242, 49, 147, 243, 239, 84, 174, 83, 59, 95, 74, 243, 243, 109, 142, 62, 163, 20, 115, 166, 128, 11, 141,
    132, 170, 144, 83, 49, 33, 150, 158, 133]
  hmacSHA256 _ _ := [140, 215, 47, 4, 201, 236, 235, 81, 51, 92, 247, 245, 85, 59, 100, 81, 107, 178, 120, 119, 151, 12,
    141, 237, 90, 165, 216, 38, 180, 22, 193, 30]
  unmarshal _ := some (.obj [("order", .obj [("invoice_number", .str "ins-t"), ("amount", .int 160000)])])
  text b := String.ofList (b.map fun c => Char.ofNat c.toNat)

def paidService : IonService where
  secretKey := "SK-1"

/-- The notification of a payment of `ins-t`, with the given client and signature. -/
def paidRequest (clientID signature : Bytes) : HttpRequest where
  method := "POST"
  path := utf8 "/webhook/doku"
  header :=
    [("Client-Id", [clientID]), ("Request-Id", [utf8 "r1"]), ("Request-Timestamp", [utf8 "2026-01-01T00:00:00Z"]),
      ("Signature", [signature])]
  body := some (utf8 "\x7b\"order\":\x7b\"invoice_number\":\"ins-t\",\"amount\":160000\x7d\x7d")

theorem forwards_only_signed_paid :
    (paidRequest (utf8 "MCH-1") (utf8 "HMACSHA256=jNcvBMns61EzXPf1VTtkUWuyeHeXDI3tWqXYJrQWwR4=")).Signed paidLibrary
        paidService ∧
      (handleDokuWebhook paidLibrary paidService (paidRequest (utf8 "MCH-1") (utf8 "HMACSHA256=AAAA"))).posts =
        none := by
  constructor
  · have h := (forwards_only_signed paidLibrary paidService
      (paidRequest (utf8 "MCH-1") (utf8 "HMACSHA256=jNcvBMns61EzXPf1VTtkUWuyeHeXDI3tWqXYJrQWwR4=")) (by decide)).1
        (by decide +kernel)
    exact h.resolve_right (by decide +kernel)
  · refine (forwards_only_signed paidLibrary paidService (paidRequest (utf8 "MCH-1") (utf8 "HMACSHA256=AAAA"))
      (by decide)).2 (by decide +kernel) ?_
    rintro ⟨b, -, h⟩
    have hne : utf8 "HMACSHA256=AAAA" ≠ utf8 "HMACSHA256=" ++ base64 (paidLibrary.hmacSHA256 [] []) := by
      decide +kernel
    exact hne h

/-- Without `Client-Id` a payment is forwarded although its signature is empty, which no HMAC is: the functions in place
of SHA-256 and HMAC do not matter. -/
theorem unsigned_forwarded :
    ¬∃ (sha256 : Bytes → Bytes) (hmacSHA256 : Bytes → Bytes → Bytes), ∀ (s : IonService) (r : HttpRequest),
      s.secretKey ≠ "" →
        ((handleDokuWebhook { paidLibrary with sha256, hmacSHA256 } s r).posts.isSome = true →
          r.Signed { paidLibrary with sha256, hmacSHA256 } s) ∧
        (¬r.Signed { paidLibrary with sha256, hmacSHA256 } s →
          (handleDokuWebhook { paidLibrary with sha256, hmacSHA256 } s r).posts = none) := by
  rintro ⟨sha256, hmacSHA256, hall⟩
  have hkey : paidService.secretKey ≠ "" := by decide
  have hposts := (posts_eq_some_iff { paidLibrary with sha256, hmacSHA256 } (paidRequest [] []) hkey _).2
    ⟨.inr rfl, _, ⟨rfl, ⟨_, _, rfl, rfl, rfl⟩, by decide⟩, rfl⟩
  obtain ⟨b, -, h⟩ := (hall paidService (paidRequest [] []) hkey).1 (by rw [hposts]; rfl)
  have hempty : (paidRequest [] []).header.get "Signature" = [] := rfl
  have hprefix : (utf8 "HMACSHA256=").length ≠ 0 := by decide +kernel
  rw [hempty] at h
  have hlen := congrArg List.length h
  rw [List.length_append, List.length_nil] at hlen
  omega

end IonInsurance.Ion
