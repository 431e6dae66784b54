import IonInsurance.Clock
import IonInsurance.Labelled
import IonInsurance.Ion.Instruments

/-!
# The signatures of ION

ION signs what it sends to DOKU, and the webhook that it fires at itself, over the lines of a canonical string, and
checks what it receives over the same lines.  A signature binds the request: base64 loses nothing, and the lines say
what the fields are as long as none of them has a newline.
-/

namespace IonInsurance.Ion

open Labelled

/-! ### The source -/

/-- What `sign` draws from its environment. -/
structure Draw where
  random : Fin 16 → UInt8
  now : Time

def hexDigit (n : Nat) : UInt8 := UInt8.ofNat (if n < 10 then 48 + n else 87 + n)

/-- `%x` of a byte slice. -/
def hex (bs : Bytes) : Bytes := bs.flatMap fun b => [hexDigit (b.toNat / 16), hexDigit (b.toNat % 16)]

def newRequestID (random : Fin 16 → UInt8) : Bytes :=
  let b (i : Fin 16) : UInt8 :=
    if i = 6 then (random 6 &&& 0x0f) ||| 0x40 else if i = 8 then (random 8 &&& 0x3f) ||| 0x80 else random i
  hex [b 0, b 1, b 2, b 3] ++ [45] ++ hex [b 4, b 5] ++ [45] ++ hex [b 6, b 7] ++ [45] ++ hex [b 8, b 9] ++ [45] ++
    hex [b 10, b 11, b 12, b 13, b 14, b 15]

/-- The headers of a request for `path`, and its request id. -/
def sign (lib : Library) (s : Merchant) (draw : Draw) (path bodyBytes : Bytes) : List (String × Bytes) × Bytes :=
  let requestID := newRequestID draw.random
  let timestamp := utf8 draw.now.rfc3339
  let digest := base64 (lib.sha256 bodyBytes)
  let stringToSign := utf8 "Client-Id:" ++ utf8 s.clientID ++ utf8 "\nRequest-Id:" ++ requestID ++
    utf8 "\nRequest-Timestamp:" ++ timestamp ++ utf8 "\nRequest-Target:" ++ path ++ utf8 "\nDigest:" ++ digest
  let sig := utf8 "HMACSHA256=" ++ base64 (lib.hmacSHA256 (utf8 s.secretKey) stringToSign)
  ([("Client-Id", utf8 s.clientID), ("Request-Id", requestID), ("Request-Timestamp", timestamp), ("Signature", sig)],
    requestID)

/-- A request before it is sent. -/
structure Outgoing where
  method : String
  url : String
  header : Header
  body : Bytes

def webhookPayload (invoiceNumber : String) (amount : ℚ) : Fields :=
  [("order", .obj [("invoice_number", .str invoiceNumber), ("amount", .num amount), ("currency", .str "IDR")]),
   ("transaction", .obj [("status", .str "SUCCESS")])]

/-- The webhook that ION fires at its own callback URL; `marshal` is `json.Marshal`. -/
def webhookToSelf (lib : Library) (marshal : Fields → Bytes) (s : Merchant) (draw : Draw) (invoiceNumber : String)
    (amount : ℚ) : Outgoing :=
  let bodyBytes := marshal (webhookPayload invoiceNumber amount)
  -- the path after the proxy
  let headers := (sign lib s draw (utf8 "/webhook/doku") bodyBytes).1
  { method := "POST"
    url := s.callbackURL
    header := ("Content-Type", [utf8 "application/json"]) :: headers.map fun h => (h.1, [h.2])
    body := bodyBytes }

/-- The result of the call; `requestError` is the error of `http.NewRequest`. -/
def fireWebhookToSelf (lib : Library) (marshal : Fields → Bytes) (s : Merchant) (draw : Draw) (invoiceNumber : String)
    (amount : ℚ) (requestError : Option String) (reply : Outgoing → Reply) : Except String Unit :=
  match requestError with
  | some err => .error err
  | none =>
    match reply (webhookToSelf lib marshal s draw invoiceNumber amount) with
    | .failed err => .error ("ngrok POST failed: " ++ err)
    | .response status body _ =>
      if status ≠ 200 then .error ("webhook returned HTTP " ++ toString status ++ ": " ++ body) else .ok ()

/-! ### Bytes of a text -/

theorem toList_loop_eq (bs : ByteArray) (i : Nat) (r : List UInt8) :
    ByteArray.toList.loop bs i r = r.reverse ++ bs.data.toList.drop i := by
  fun_induction ByteArray.toList.loop bs i r with
  | case1 i r h ih =>
    have hlt : i < bs.data.toList.length := h
    have hget : bs.get! i = bs.data.toList[i] := by
      show bs.data[i]! = _
      rw [getElem!_pos bs.data i h]
      rfl
    rw [ih, List.reverse_cons, List.append_assoc, List.drop_eq_getElem_cons hlt, hget]
    rfl
  | case2 i r h =>
    have hle : bs.data.toList.length ≤ i := Nat.le_of_not_lt h
    rw [List.drop_eq_nil_of_le hle, List.append_nil]

theorem utf8_eq (s : String) : utf8 s = s.toList.flatMap String.utf8EncodeChar := by
  unfold utf8
  rw [← String.ofList_toList (s := s), String.toUTF8_eq_toByteArray, String.toByteArray_ofList, String.toList_ofList]
  show ByteArray.toList.loop _ 0 [] = _
  rw [toList_loop_eq, List.utf8Encode, List.toList_data_toByteArray]
  rfl

/-! ### Fields without a newline -/

/-- The byte of a newline is not there. -/
def OneLine (bs : Bytes) : Prop := 10 ∉ bs

/-- An ASCII text without a newline. -/
def Plain (s : String) : Prop := ∀ c ∈ s.toList, c.val ≤ 127 ∧ c.val.toUInt8 ≠ 10

instance (s : String) : Decidable (Plain s) :=
  List.decidableBAll (fun c : Char => c.val ≤ 127 ∧ c.val.toUInt8 ≠ 10) s.toList

theorem Plain.append {s t : String} (hs : Plain s) (ht : Plain t) : Plain (s ++ t) := by
  intro c hc
  rw [String.toList_append, List.mem_append] at hc
  exact hc.elim (hs c) (ht c)

theorem plain_pad (w n : Nat) : Plain (pad w n) := by
  intro c hc
  have hdigit : 48 ≤ c.val ∧ c.val ≤ 57 := by
    unfold pad at hc
    rw [String.toList_ofList, List.mem_append] at hc
    rcases hc with h | h
    · rw [(List.mem_replicate.1 h).2]
      decide
    · have h10 := Nat.isDigit_of_mem_toDigits (by decide) (by decide) h
      unfold Char.isDigit at h10
      simpa using h10
  have hge := UInt32.le_iff_toNat_le.1 hdigit.1
  have hle := UInt32.le_iff_toNat_le.1 hdigit.2
  constructor
  · apply UInt32.le_iff_toNat_le.2
    exact Nat.le_trans hle (by decide)
  · intro h
    have h8 := congrArg UInt8.toNat h
    rw [UInt32.toNat_toUInt8] at h8
    simp only [UInt32.reduceToNat, UInt8.reduceToNat] at hge hle h8
    omega

theorem Plain.oneLine {s : String} (h : Plain s) : OneLine (utf8 s) := by
  intro hmem
  rw [utf8_eq, List.mem_flatMap] at hmem
  obtain ⟨c, hc, hb⟩ := hmem
  rw [String.utf8EncodeChar_eq_singleton (Char.utf8Size_eq_one_iff.2 (h c hc).1), List.mem_singleton] at hb
  exact (h c hc).2 hb.symm

theorem plain_rfc3339 (t : Time) : Plain t.rfc3339 := by
  have hdash : Plain "-" := by decide +kernel
  have hcolon : Plain ":" := by decide +kernel
  have htee : Plain "T" := by decide +kernel
  have hzulu : Plain "Z" := by decide +kernel
  have hdate : Plain (pad 4 t.year ++ "-" ++ pad 2 t.month ++ "-" ++ pad 2 t.day) :=
    ((((plain_pad 4 _).append hdash).append (plain_pad 2 _)).append hdash).append (plain_pad 2 _)
  have hclock := ((((hdate.append htee).append (plain_pad 2 t.hour)).append hcolon).append
    (plain_pad 2 t.minute)).append hcolon
  exact (hclock.append (plain_pad 2 t.second)).append hzulu

theorem OneLine.append {a b : Bytes} (ha : OneLine a) (hb : OneLine b) : OneLine (a ++ b) :=
  fun h => (List.mem_append.1 h).elim ha hb

theorem oneLine_hex (bs : Bytes) : OneLine (hex bs) := by
  have hdigit : ∀ n < 16, hexDigit n ≠ 10 := by decide
  intro hmem
  obtain ⟨b, -, hb⟩ := List.mem_flatMap.1 hmem
  have hlt : b.toNat < 256 := UInt8.toNat_lt b
  rcases List.mem_cons.1 hb with h | h
  · exact hdigit (b.toNat / 16) (by omega) h.symm
  · exact hdigit (b.toNat % 16) (by omega) (List.mem_singleton.1 h).symm

theorem oneLine_newRequestID (random : Fin 16 → UInt8) : OneLine (newRequestID random) := by
  have hdash : ∀ {a : Bytes}, OneLine a → OneLine (a ++ [45]) := by
    intro a ha
    apply ha.append
    unfold OneLine
    decide
  exact (hdash ((hdash ((hdash ((hdash (oneLine_hex _)).append (oneLine_hex _))).append (oneLine_hex _))).append
    (oneLine_hex _))).append (oneLine_hex _)

/-! ### base64 loses nothing -/

/-- The six bits of a character of base64. -/
def base64Value (c : UInt8) : Nat :=
  if 97 ≤ c then c.toNat - 71 else if 65 ≤ c then c.toNat - 65 else if 48 ≤ c then c.toNat + 4
  else if c = 43 then 62 else 63

/-- `base64.StdEncoding.DecodeString` of an encoding. -/
def unbase64 : Bytes → Bytes
  | c₁ :: c₂ :: c₃ :: c₄ :: rest =>
    let v := base64Value c₁ * 262144 + base64Value c₂ * 4096
    if c₃ = 61 then [UInt8.ofNat (v / 65536)]
    else
      let v := v + base64Value c₃ * 64
      if c₄ = 61 then [UInt8.ofNat (v / 65536), UInt8.ofNat (v / 256 % 256)]
      else
        let v := v + base64Value c₄
        UInt8.ofNat (v / 65536) :: UInt8.ofNat (v / 256 % 256) :: UInt8.ofNat (v % 256) :: unbase64 rest
  | _ => []

theorem base64Value_base64Char : ∀ n < 64, base64Value (base64Char n) = n := by decide +kernel

theorem base64Char_ne_pad : ∀ n < 64, base64Char n ≠ 61 := by decide +kernel

theorem unbase64_base64 (bs : Bytes) : unbase64 (base64 bs) = bs := by
  have hbyte : ∀ b : UInt8, b.toNat < 256 := UInt8.toNat_lt
  have hofNat : ∀ (b : UInt8) (n : Nat), n = b.toNat → UInt8.ofNat n = b := by
    rintro b n rfl
    exact UInt8.ofNat_toNat
  fun_induction base64 bs with
  | case1 a b c rest v ih =>
    have ha := hbyte a
    have hb := hbyte b
    have hc := hbyte c
    simp only [unbase64]
    rw [if_neg (base64Char_ne_pad _ (by omega)), if_neg (base64Char_ne_pad _ (by omega)), ih,
      base64Value_base64Char _ (by omega), base64Value_base64Char _ (by omega), base64Value_base64Char _ (by omega),
      base64Value_base64Char _ (by omega), hofNat a _ (by omega), hofNat b _ (by omega), hofNat c _ (by omega)]
  | case2 a b v =>
    have ha := hbyte a
    have hb := hbyte b
    simp only [unbase64]
    rw [if_neg (base64Char_ne_pad _ (by omega)), if_pos trivial, base64Value_base64Char _ (by omega),
      base64Value_base64Char _ (by omega), base64Value_base64Char _ (by omega), hofNat a _ (by omega),
      hofNat b _ (by omega)]
  | case3 a v =>
    have ha := hbyte a
    simp only [unbase64]
    rw [if_pos trivial, base64Value_base64Char _ (by omega), base64Value_base64Char _ (by omega), hofNat a _ (by omega)]
  | case4 => rfl

theorem base64_injective : Function.Injective base64 := by
  intro a b h
  rw [← unbase64_base64 a, h, unbase64_base64]

/-! ### What a signature binds -/

/-- The string over which a signature is made. -/
def stringToSign (clientID requestID timestamp target digest : Bytes) : Bytes :=
  utf8 "Client-Id:" ++ clientID ++ utf8 "\nRequest-Id:" ++ requestID ++ utf8 "\nRequest-Timestamp:" ++ timestamp ++
    utf8 "\nRequest-Target:" ++ target ++ utf8 "\nDigest:" ++ digest

/-- Its lines. -/
def requestLines (clientID requestID timestamp target digest : Bytes) : List (Bytes × Bytes) :=
  [(utf8 "Client-Id:", clientID), (utf8 "Request-Id:", requestID), (utf8 "Request-Timestamp:", timestamp),
   (utf8 "Request-Target:", target), (utf8 "Digest:", digest)]

theorem stringToSign_eq (clientID requestID timestamp target digest : Bytes) :
    stringToSign clientID requestID timestamp target digest =
      message 10 (requestLines clientID requestID timestamp target digest) := by
  have hid : utf8 "\nRequest-Id:" = 10 :: utf8 "Request-Id:" := by decide +kernel
  have htime : utf8 "\nRequest-Timestamp:" = 10 :: utf8 "Request-Timestamp:" := by decide +kernel
  have htarget : utf8 "\nRequest-Target:" = 10 :: utf8 "Request-Target:" := by decide +kernel
  have hdigest : utf8 "\nDigest:" = 10 :: utf8 "Digest:" := by decide +kernel
  unfold stringToSign message requestLines
  rw [hid, htime, htarget, hdigest]
  simp only [List.map_cons, List.map_nil, List.intercalate, List.intersperse_cons_cons, List.intersperse_singleton,
    List.flatten_cons, List.flatten_nil, List.append_assoc, List.cons_append, List.nil_append, List.append_nil]

/-- The characters of base64 have no newline. -/
theorem oneLine_base64 (bs : Bytes) : OneLine (base64 bs) := by
  have hchar : ∀ n < 64, base64Char n ≠ 10 := by decide +kernel
  have hbyte : ∀ b : UInt8, b.toNat < 256 := UInt8.toNat_lt
  have hdigit : ∀ n < 64, 10 ≠ base64Char n := fun n hn h => hchar n hn h.symm
  unfold OneLine
  fun_induction base64 bs with
  | case1 a b c rest v ih =>
    have ha := hbyte a
    have hb := hbyte b
    have hc := hbyte c
    simp only [List.mem_cons, not_or]
    exact ⟨hdigit _ (by omega), hdigit _ (by omega), hdigit _ (by omega), hdigit _ (by omega), ih⟩
  | case2 a b v =>
    have ha := hbyte a
    have hb := hbyte b
    simp only [List.mem_cons, not_or]
    exact ⟨hdigit _ (by omega), hdigit _ (by omega), hdigit _ (by omega), by decide, List.not_mem_nil⟩
  | case3 a v =>
    have ha := hbyte a
    simp only [List.mem_cons, not_or]
    exact ⟨hdigit _ (by omega), hdigit _ (by omega), by decide, by decide, List.not_mem_nil⟩
  | case4 => exact List.not_mem_nil

/-- The fields of a request on one line each. -/
structure OneLineFields (clientID requestID timestamp target : Bytes) : Prop where
  clientID : OneLine clientID
  requestID : OneLine requestID
  timestamp : OneLine timestamp
  target : OneLine target

theorem requestLines_oneLine {clientID requestID timestamp target : Bytes}
    (h : OneLineFields clientID requestID timestamp target) (bs : Bytes) :
    ∀ f ∈ requestLines clientID requestID timestamp target (base64 bs), 10 ∉ f.1 ∧ 10 ∉ f.2 := by
  have hlabels : ∀ l ∈ [utf8 "Client-Id:", utf8 "Request-Id:", utf8 "Request-Timestamp:", utf8 "Request-Target:",
      utf8 "Digest:"], 10 ∉ l := by decide +kernel
  intro f hf
  constructor
  · exact hlabels _ (List.mem_map_of_mem (f := Prod.fst) hf)
  · simp only [requestLines, List.mem_cons, List.not_mem_nil, or_false] at hf
    rcases hf with rfl | rfl | rfl | rfl | rfl
    · exact h.clientID
    · exact h.requestID
    · exact h.timestamp
    · exact h.target
    · exact oneLine_base64 bs

/-- Two requests with the same string are the same up to their digests. -/
theorem fields_of_stringToSign_eq {clientID requestID timestamp target clientID' requestID' timestamp' target' : Bytes}
    (h : OneLineFields clientID requestID timestamp target) (h' : OneLineFields clientID' requestID' timestamp' target')
    {digest digest' : Bytes} (heq : stringToSign clientID requestID timestamp target (base64 digest) =
      stringToSign clientID' requestID' timestamp' target' (base64 digest')) :
    clientID = clientID' ∧ requestID = requestID' ∧ timestamp = timestamp' ∧ target = target' ∧ digest = digest' := by
  rw [stringToSign_eq, stringToSign_eq] at heq
  have hlabels : (requestLines clientID requestID timestamp target (base64 digest)).map Prod.fst =
      (requestLines clientID' requestID' timestamp' target' (base64 digest')).map Prod.fst := rfl
  have hlines := message_injective hlabels (requestLines_oneLine h digest) (requestLines_oneLine h' digest') heq
  simp only [requestLines, List.cons.injEq, Prod.mk.injEq, true_and, and_true] at hlines
  obtain ⟨hclient, hid, htime, htarget, hdigest⟩ := hlines
  exact ⟨hclient, hid, htime, htarget, base64_injective hdigest⟩

/-- The value of a header that `sign` has made. -/
def signed (headers : List (String × Bytes)) (name : String) : Bytes := (headers.lookup name).getD []

theorem verifySignature_eq_true_iff (lib : Library) {s : IonService} (hkey : s.secretKey ≠ "")
    (clientID requestID timestamp target bodyBytes signature : Bytes) :
    verifySignature lib s clientID requestID timestamp target bodyBytes signature = true ↔
      signature = utf8 "HMACSHA256=" ++ base64 (lib.hmacSHA256 (utf8 s.secretKey)
        (stringToSign clientID requestID timestamp target (base64 (lib.sha256 bodyBytes)))) := by
  unfold verifySignature
  rw [if_neg hkey, decide_eq_true_eq]
  exact eq_comm

/-- What ION signs passes its own check, and a signature that it has made passes for the request that it was made for
only. -/
theorem signature_binds (lib : Library) (s : Merchant) (hkey : s.secretKey ≠ "") (draw : Draw) (path bodyBytes : Bytes) :
    verifySignature lib s.toIonService (signed (sign lib s draw path bodyBytes).1 "Client-Id")
      (signed (sign lib s draw path bodyBytes).1 "Request-Id")
      (signed (sign lib s draw path bodyBytes).1 "Request-Timestamp") path bodyBytes
      (signed (sign lib s draw path bodyBytes).1 "Signature") = true ∧
    (Function.Injective lib.sha256 → Function.Injective (lib.hmacSHA256 (utf8 s.secretKey)) →
      OneLine (utf8 s.clientID) → OneLine path →
      ∀ clientID requestID timestamp target body : Bytes, OneLineFields clientID requestID timestamp target →
        verifySignature lib s.toIonService clientID requestID timestamp target body
          (signed (sign lib s draw path bodyBytes).1 "Signature") = true →
        clientID = utf8 s.clientID ∧ requestID = (sign lib s draw path bodyBytes).2 ∧
          timestamp = signed (sign lib s draw path bodyBytes).1 "Request-Timestamp" ∧ target = path ∧
          body = bodyBytes) := by
  have hsignature : signed (sign lib s draw path bodyBytes).1 "Signature" =
      utf8 "HMACSHA256=" ++ base64 (lib.hmacSHA256 (utf8 s.secretKey) (stringToSign (utf8 s.clientID)
        (newRequestID draw.random) (utf8 draw.now.rfc3339) path (base64 (lib.sha256 bodyBytes)))) := rfl
  constructor
  · exact (verifySignature_eq_true_iff lib hkey ..).2 hsignature
  · intro hsha hmac hclient hpath clientID requestID timestamp target body hfields hverify
    rw [verifySignature_eq_true_iff lib hkey, hsignature, List.append_right_inj] at hverify
    have hstring := hmac (base64_injective hverify)
    have hdrawn : OneLineFields (utf8 s.clientID) (newRequestID draw.random) (utf8 draw.now.rfc3339) path :=
      ⟨hclient, oneLine_newRequestID draw.random, (plain_rfc3339 draw.now).oneLine, hpath⟩
    obtain ⟨h₁, h₂, h₃, h₄, h₅⟩ := fields_of_stringToSign_eq hdrawn hfields hstring
    exact ⟨h₁.symm, h₂.symm, h₃.symm, h₄.symm, (hsha h₅).symm⟩

/-- A function with two known values, and longer ones elsewhere. -/
def known (a d b e : Bytes) (x : Bytes) : Bytes := if x = a then d else if x = b then e else d ++ e ++ x

/-- The argument of `known`. -/
def unknown (a d b e : Bytes) (y : Bytes) : Bytes :=
  if y = d then a else if y = e then b else y.drop (d ++ e).length

theorem known_injective (a b : Bytes) {d e : Bytes} (hne : d ≠ e) (hd : 0 < d.length) (he : 0 < e.length) :
    Function.Injective (known a d b e) := by
  have hlength : ∀ x, (d ++ e ++ x).length = d.length + e.length + x.length := by
    intro x
    rw [List.length_append, List.length_append]
  have hlong : ∀ x, d ++ e ++ x ≠ d ∧ d ++ e ++ x ≠ e := by
    intro x
    have hx := hlength x
    constructor
    · intro h
      rw [h] at hx
      omega
    · intro h
      rw [h] at hx
      omega
  have hinverse : Function.LeftInverse (unknown a d b e) (known a d b e) := by
    intro x
    unfold known unknown
    by_cases hxa : x = a
    · rw [if_pos hxa, if_pos rfl, hxa]
    · rw [if_neg hxa]
      by_cases hxb : x = b
      · rw [if_pos hxb, if_neg hne.symm, if_pos rfl, hxb]
      · rw [if_neg hxb, if_neg (hlong x).1, if_neg (hlong x).2]
        exact List.drop_left
  exact hinverse.injective

/-- SHA-256 of `\x7b\x7d` and of nothing. -/
def knownSHA256 : Bytes → Bytes := known [123, 125]
  [68, 19, 111, 163, 85, 179, 103, 138, 17, 70, 173, 22, 247, 232, 100, 158, 148, 251, 79, 194, 31, 231, 126, 131,
    16, 192, 96, 246, 28, 170, 255, 138]
  []
  [227, 176, 196, 66, 152, 252, 28, 20, 154, 251, 244, 200, 153, 111, 185, 36, 39, 174, 65, 228, 100, 155, 147,
    76, 164, 149, 153, 27, 120, 82, 184, 85]

def firstDraw : Draw where
  random _ := 0
  now := ⟨2026, 1, 1, 0, 0, 0, 0⟩

/-- The string of a request of `MCH-1`. -/
def knownString (target : String) : Bytes :=
  stringToSign (utf8 "MCH-1") (newRequestID firstDraw.random) (utf8 firstDraw.now.rfc3339) (utf8 target)
    (base64 (knownSHA256 [123, 125]))

/-- The functions of the library at the values that the request below needs; the key is `SK-1`. -/
def signingLibrary : Library where
  sha256 := knownSHA256
  hmacSHA256 _ := known (knownString "/webhook/doku")
    [126, 253, 55, 190, 48, 108, 61, 249, 92, 49, 139, 33, 188, 13, 205, 78, 53, 196, 42, 193, 14, 204, 202, 115,
      104, 227, 146, 82, 152, 124, 239, 118]
    (knownString "/webhook/doko")
    [183, 221, 52, 234, 171, 92, 193, 69, 53, 252, 143, 186, 179, 189, 201, 28, 15, 108, 220, 76, 170, 80, 193, 183,
      228, 124, 105, 10, 68, 62, 9, 183]
  unmarshal _ := none
  text b := String.ofList (b.map fun c => Char.ofNat c.toNat)

def signingMerchant : Merchant where
  secretKey := "SK-1"
  clientID := "MCH-1"

/-- The signature of a webhook does not pass for another target. -/
theorem signature_binds_doku :
    verifySignature signingLibrary signingMerchant.toIonService (utf8 "MCH-1") (newRequestID firstDraw.random)
      (utf8 "2026-01-01T00:00:00Z") (utf8 "/webhook/doku") [123, 125]
      (signed (sign signingLibrary signingMerchant firstDraw (utf8 "/webhook/doku") [123, 125]).1 "Signature") = true ∧
    verifySignature signingLibrary signingMerchant.toIonService (utf8 "MCH-1") (newRequestID firstDraw.random)
      (utf8 "2026-01-01T00:00:00Z") (utf8 "/webhook/doko") [123, 125]
      (signed (sign signingLibrary signingMerchant firstDraw (utf8 "/webhook/doku") [123, 125]).1 "Signature") ≠ true := by
  have htimestamp : utf8 firstDraw.now.rfc3339 = utf8 "2026-01-01T00:00:00Z" := by decide +kernel
  obtain ⟨haccept, hbinds⟩ := signature_binds signingLibrary signingMerchant (by decide) firstDraw
    (utf8 "/webhook/doku") [123, 125]
  constructor
  · rw [← htimestamp]
    exact haccept
  · intro hverify
    have hsha : Function.Injective signingLibrary.sha256 := known_injective _ _ (by decide) (by decide) (by decide)
    have hmac : Function.Injective (signingLibrary.hmacSHA256 (utf8 "SK-1")) :=
      known_injective _ _ (by decide) (by decide) (by decide)
    have hclient : Plain "MCH-1" := by decide +kernel
    have hinstant : Plain "2026-01-01T00:00:00Z" := by decide +kernel
    have hsigned : Plain "/webhook/doku" := by decide +kernel
    have hcalled : Plain "/webhook/doko" := by decide +kernel
    have hfields : OneLineFields (utf8 "MCH-1") (newRequestID firstDraw.random) (utf8 "2026-01-01T00:00:00Z")
        (utf8 "/webhook/doko") :=
      ⟨hclient.oneLine, oneLine_newRequestID _, hinstant.oneLine, hcalled.oneLine⟩
    obtain ⟨-, -, -, htarget, -⟩ := hbinds hsha hmac hclient.oneLine hsigned.oneLine _ _ _ _ _ hfields hverify
    exact absurd htarget (by decide +kernel)

/-! ### The webhook that ION fires at itself -/

/-- The request as it arrives behind the proxy. -/
def Outgoing.arrives (o : Outgoing) : HttpRequest where
  method := o.method
  path := utf8 "/webhook/doku"
  header := o.header
  body := some o.body

/-- The webhook passes the check of the handler, which forwards the payment to the BPP. -/
theorem webhookToSelf_forwarded (lib : Library) (marshal : Fields → Bytes) (s : Merchant) (hkey : s.secretKey ≠ "")
    (hround : ∀ m, lib.unmarshal (marshal m) = some (.obj m)) (draw : Draw) {invoiceNumber : String}
    (hinvoice : invoiceNumber ≠ "") (amount : ℚ) :
    (handleDokuWebhook lib s.toIonService (webhookToSelf lib marshal s draw invoiceNumber amount).arrives).posts =
      some (notifyBPP lib s.toIonService invoiceNumber (newRequestID draw.random) amount) := by
  have htarget : (webhookToSelf lib marshal s draw invoiceNumber amount).arrives.requestTarget =
      utf8 "/webhook/doku" := by
    have hslash : (utf8 "/").isPrefixOf (utf8 "/webhook/doku") = true := by decide +kernel
    exact if_pos hslash
  apply (posts_eq_some_iff lib _ hkey _).2
  refine ⟨.inl ⟨_, rfl, ?_⟩, _, ⟨rfl, ⟨_, webhookPayload invoiceNumber amount, rfl, ?_, rfl⟩, hinvoice⟩, rfl⟩
  · unfold HttpRequest.canonicalString
    rw [htarget]
    rfl
  · have hbody : lib.unmarshal (webhookToSelf lib marshal s draw invoiceNumber amount).body =
        some (.obj (webhookPayload invoiceNumber amount)) := hround _
    unfold unmarshalMap
    rw [hbody]

end IonInsurance.Ion
