import IonInsurance.Bap.Checkout
import IonInsurance.Ion.Instruments
import IonInsurance.Network.Quote

/-!
# The checkout of a policy

When an `on_init` arrives, the BAP asks ION for a checkout session of the amount that it names, and stores what ION
answers.  When the customer has paid, the BAP notifies ION of the stored amount under the stored invoice number.  The
checkout URL of DOKU may be longer than the fifty characters of its column.
-/

namespace IonInsurance.Network

open Interleave

/-! ### What ION answers -/

/-- A handler that answers 200 answers what its call has made of the request, named or not. -/
private theorem handleCreate_ok {defaultName failure method : String} {create : Ion.CreateRequest → Ion.DokuCall}
    {req : Ion.CreateRequest} (h : (Ion.handleCreate defaultName failure create method (.ok req)).status = 200) :
    ∃ name body, (create { req with customerName := name }).1 = .ok body ∧
      (Ion.handleCreate defaultName failure create method (.ok req)).body = .obj body := by
  unfold Ion.handleCreate at h ⊢
  by_cases hmethod : method ≠ "POST"
  · rw [if_pos hmethod] at h
    cases h
  · rw [if_neg hmethod] at h ⊢
    dsimp only at h ⊢
    by_cases hinvalid : req.invoiceNumber = "" ∨ req.amountIDR ≤ 0
    · rw [if_pos hinvalid] at h
      cases h
    · rw [if_neg hinvalid] at h ⊢
      refine ⟨if req.customerName = "" then defaultName else req.customerName, ?_⟩
      cases hcreate : (create { req with customerName :=
          if req.customerName = "" then defaultName else req.customerName }).1 with
      | error err =>
        rw [hcreate] at h
        cases h
      | ok body => exact ⟨body, rfl, rfl⟩

/-- A request to DOKU that succeeds gives what was read of an answer. -/
private theorem doRequest_ok {doku : Ion.Doku} {name path : String} {payload body : Fields}
    {read : Fields → Except String Fields} (h : (Ion.doRequest doku name path payload read).1 = .ok body) :
    ∃ resp, read resp = .ok body := by
  unfold Ion.doRequest at h
  dsimp only at h
  cases hreply : doku.reply path payload with
  | failed err =>
    rw [hreply] at h
    cases h
  | response status text json =>
    rw [hreply] at h
    dsimp only at h
    split at h
    · cases h
    · cases hdecode : doku.decode json with
      | error err =>
        rw [hdecode] at h
        cases h
      | ok resp =>
        rw [hdecode] at h
        exact ⟨resp, h⟩

/-- ION answers a request for a checkout with the URL of DOKU, the invoice number and the request id. -/
theorem created_checkout {m : Ion.Merchant} {doku : Ion.Doku} {method : String} {req : Ion.CreateRequest}
    (h : (Ion.handleCreateCheckout m doku method (.ok req)).status = 200) :
    ∃ url, (Ion.handleCreateCheckout m doku method (.ok req)).body =
      .obj (Bap.checkoutBody url req.invoiceNumber doku.requestID) := by
  obtain ⟨name, body, hbody, hanswer⟩ := handleCreate_ok h
  obtain ⟨resp, hread⟩ := doRequest_ok hbody
  dsimp only at hread
  split at hread
  · cases hread
  · have hfields := Except.ok.inj hread
    refine ⟨(((resp.get "response").fields.get "payment").fields.get "url").text, hanswer.trans ?_⟩
    rw [← hfields]
    rfl

/-- The body of a create-checkout, decoded. -/
def createRequest (body : Fields) : Ion.CreateRequest where
  invoiceNumber := (body.get "invoice_number").text
  customerName := (body.get "customer_name").text
  amountIDR := int64 (body.get "amount_idr").float
  callbackURL := (body.get "callback_url").text

/-- What ION answers when the BAP receives `payload`. -/
def checkoutFor (s : Bap.ClientService) (m : Ion.Merchant) (doku : Ion.Doku) (payload : Fields) : Ion.Created :=
  let txnID := Bap.transactionID payload
  Ion.handleCreateCheckout m doku "POST" (.ok (createRequest (Bap.checkoutPayload ("ins-" ++ txnID)
    (s.bapFrontendURL ++ "/policy/" ++ txnID ++ "?payment=done") (Bap.extractTotalIDRFromOnInit payload))))

/-- The URL of a checkout session. -/
def checkoutURL (created : Ion.Created) : String := (created.body.fields.get "checkout_url").text

/-- The `on_init` of a transaction names the total `q`, and the BAP is given the session that ION creates for it. -/
structure CheckoutGiven (s : Bap.ClientService) (m : Ion.Merchant) (doku : Ion.Doku) (payload : Fields) (q : ℚ)
    (cs : Nat → Bap.Choice) : Prop where
  configured : s.ionServiceURL ≠ ""
  transaction : Bap.transactionID payload ≠ ""
  total : Bpp.totalAmountOf payload = some q
  created : (checkoutFor s m doku payload).status = 200
  reply : ∃ text, (cs 1).reply = .response 200 text (checkoutFor s m doku payload).body

/-- The row holds the invoice number and the total, and as long as no other checkout is stored for the transaction, they
are what ION is notified of. -/
structure CheckoutRecorded (s : Bap.ClientService) (k : Bap.BapConfig) (t : String) (q : ℚ) : Prop where
  columns : ∃ n, k.world.store.checkout t = (some ("ins-" ++ t), some n) ∧ (n : ℚ) = q
  forwarded : ∀ k', (Bap.machine s).Runs (fun _ a => ∀ d o c, a = .exec d o c → o.Spares t) k k' →
    Bap.Forwards s k' t ("ins-" ++ t) q

theorem checkoutRecorded_iff {s : Bap.ClientService} {k : Bap.BapConfig} {t : String} {q : ℚ} :
    CheckoutRecorded s k t q ↔ ∃ n, k.world.store.checkout t = (some ("ins-" ++ t), some n) ∧ (n : ℚ) = q := by
  constructor
  · intro h
    exact h.columns
  · intro h
    refine ⟨h, fun k' hruns => ?_⟩
    obtain ⟨n, hn, hq⟩ := h
    have hinvoice : "ins-" ++ t ≠ "" := by
      intro hempty
      exact absurd (String.append_eq_empty_iff.1 hempty).1 (by decide)
    have hcheckout : k'.world.store.checkout t = (some ("ins-" ++ t), some n) := by
      rw [Bap.runs_checkout hruns, hn]
    rw [← hq]
    exact Bap.forwards_of_checkout hinvoice hcheckout

/-- A handled `on_init` leaves its checkout recorded exactly if the statement for it takes effect and the total is a
whole number of 64 bits, or the statement has no effect and the row holds the checkout already. -/
theorem checkout_recorded_iff (s : Bap.ClientService) (m : Ion.Merchant) (doku : Ion.Doku) (k : Bap.BapConfig)
    (payload : Fields) (q : ℚ) (cs : Nat → Bap.Choice) (h : CheckoutGiven s m doku payload q cs) :
    CheckoutRecorded s ((Bap.machine s).serve k (.callback "on_init" payload) cs) (Bap.transactionID payload) q ↔
      (Bap.CheckoutStored k.world.store (Bap.transactionID payload) (checkoutURL (checkoutFor s m doku payload))
            ("ins-" ++ Bap.transactionID payload) doku.requestID cs ∧ (int64 q : ℚ) = q) ∨
        (¬Bap.CheckoutStored k.world.store (Bap.transactionID payload) (checkoutURL (checkoutFor s m doku payload))
            ("ins-" ++ Bap.transactionID payload) doku.requestID cs ∧
          ∃ n, k.world.store.checkout (Bap.transactionID payload) =
            (some ("ins-" ++ Bap.transactionID payload), some n) ∧ (n : ℚ) = q) := by
  obtain ⟨text, hreply⟩ := h.reply
  obtain ⟨url, hbody⟩ := created_checkout h.created
  have hurl : checkoutURL (checkoutFor s m doku payload) = url := by
    unfold checkoutURL checkoutFor
    rw [hbody]
    rfl
  have hanswer : (cs 1).reply =
      .response 200 text (.obj (Bap.checkoutBody url ("ins-" ++ Bap.transactionID payload) doku.requestID)) :=
    hreply.trans (congrArg (Reply.response 200 text) hbody)
  have htotal : Bap.extractTotalIDRFromOnInit payload = int64 q := extractTotalIDR_of_totalAmount h.total
  obtain ⟨hstored, hkept⟩ := Bap.finish_onInit_checkout (s := s) (d := k.progs.length)
    (w := k.world.started k.progs.length (.callback "on_init" payload)) h.configured rfl h.transaction hanswer
  rw [hurl, checkoutRecorded_iff]
  by_cases hs : Bap.CheckoutStored k.world.store (Bap.transactionID payload) url
      ("ins-" ++ Bap.transactionID payload) doku.requestID cs
  · have hnew : ((Bap.machine s).serve k (.callback "on_init" payload) cs).world.store.checkout
        (Bap.transactionID payload) = (some ("ins-" ++ Bap.transactionID payload), some (int64 q)) := by
      rw [← htotal]
      exact hstored hs
    constructor
    · rintro ⟨n, hn, hq⟩
      rw [hnew] at hn
      have hnq : int64 q = n := Option.some.inj (congrArg Prod.snd hn)
      exact .inl ⟨hs, by rw [hnq, hq]⟩
    · intro hor
      rcases hor with ⟨-, hq⟩ | ⟨hnot, -⟩
      · exact ⟨int64 q, hnew, hq⟩
      · exact absurd hs hnot
  · have hold : ((Bap.machine s).serve k (.callback "on_init" payload) cs).world.store.checkout
        (Bap.transactionID payload) = k.world.store.checkout (Bap.transactionID payload) := hkept hs
    constructor
    · intro hcolumns
      rw [hold] at hcolumns
      exact .inr ⟨hs, hcolumns⟩
    · intro hor
      rw [hold]
      rcases hor with ⟨hstored, -⟩ | ⟨-, hcolumns⟩
      · exact absurd hstored hs
      · exact hcolumns

private def merchant : Ion.Merchant := { secretKey := "secret" }

/-- DOKU creates a session under `url`. -/
private def sessionAt (url : String) : Ion.Doku where
  reply _ _ := .response 200 "" (.obj [("response", .obj [("payment", .obj [("url", .str url)])])])
  decode json := .ok json.fields
  requestID := "checkout-1"
  b2bToken := .error ""

private def sessionURL : String := "https://checkout.example/abc123"

private def longURL : String := "https://staging.doku.com/checkout-link-v2/89b0fdc4c1ac4b1fa3b7c8d2e0a11d54"

/-- The BAP is given the session under `url`, and the database carries out every statement. -/
private def givenChoices (url : String) : Nat → Bap.Choice := fun _ =>
  { reply := .response 200 "" (checkoutFor {} merchant (sessionAt url) initAnswer).body }

private theorem checkoutGiven {url : String} (h : (checkoutFor {} merchant (sessionAt url) initAnswer).status = 200) :
    CheckoutGiven {} merchant (sessionAt url) initAnswer 5770000 (givenChoices url) where
  configured := by decide
  transaction := by decide +kernel
  total := by decide +kernel
  created := h
  reply := ⟨"", rfl⟩

theorem checkout_recorded_iff_short :
    CheckoutRecorded {} ((Bap.machine {}).serve Bap.start (.callback "on_init" initAnswer) (givenChoices sessionURL))
      "txn-0001" 5770000 := by
  refine (checkout_recorded_iff {} merchant (sessionAt sessionURL) Bap.start initAnswer 5770000 (givenChoices sessionURL)
    (checkoutGiven (by decide +kernel))).2 (.inl ⟨?_, by decide +kernel⟩)
  exact ⟨.inr (by decide +kernel), by decide +kernel, by decide +kernel, rfl⟩

/-- A session URL of more than fifty characters leaves the row without the checkout. -/
theorem long_checkout_url_lost :
    ¬∀ (s : Bap.ClientService) (m : Ion.Merchant) (doku : Ion.Doku) (k : Bap.BapConfig) (payload : Fields) (q : ℚ)
      (cs : Nat → Bap.Choice), (Bap.machine s).Runs Machine.anything Bap.start k → (∀ i, (cs i).sqlError = none) →
        CheckoutGiven s m doku payload q cs → (int64 q : ℚ) = q →
          CheckoutRecorded s ((Bap.machine s).serve k (.callback "on_init" payload) cs) (Bap.transactionID payload) q := by
  intro hall
  have hrecorded := hall {} merchant (sessionAt longURL) Bap.start initAnswer 5770000 (givenChoices longURL) .refl
    (fun _ => rfl) (checkoutGiven (by decide +kernel)) (by decide +kernel)
  obtain ⟨n, hn, -⟩ := hrecorded.columns
  have hnone : (((Bap.machine {}).serve Bap.start (.callback "on_init" initAnswer)
      (givenChoices longURL)).world.store.checkout (Bap.transactionID initAnswer)).1 = none := by decide +kernel
  rw [hn] at hnone
  cases hnone

end IonInsurance.Network
