import IonInsurance.Bpp.Notifications
import IonInsurance.Ion.Instruments

/-!
# From an instrument back to its transaction

ION creates instruments for the invoice `ins-{transactionID}`, DOKU notifies ION of a payment under the invoice number
that it knows, ION forwards it, and the BPP strips the prefix.  What is left is the transaction id, except for a QRIS
code, whose suffix nobody takes off.
-/

namespace IonInsurance.Network

open Interleave

/-- A notification of DOKU that ION takes: signed, or without a client. -/
def Genuine (lib : Ion.Library) (s : Ion.IonService) (r : Ion.HttpRequest) : Prop :=
  s.secretKey = "" ∨ r.Signed lib s ∨ r.header.get "Client-Id" = []

/-- ION forwards every genuine notification. -/
theorem posts_of_genuine {lib : Ion.Library} {s : Ion.IonService} {r : Ion.HttpRequest} {order : Fields}
    (hg : Genuine lib s r) (hn : r.Notification lib order) :
    (Ion.handleDokuWebhook lib s r).posts = some (Ion.notifyBPP lib s (order.get "invoice_number").text
      (r.header.get "Request-Id") (order.get "amount").float) := by
  by_cases hkey : s.secretKey = ""
  · obtain ⟨hpost, ⟨bodyBytes, body, hb, hm, rfl⟩, hinv⟩ := hn
    have hsig : ∀ a b c d e f, Ion.verifySignature lib s a b c d e f = true := by
      intro a b c d e f
      exact if_pos hkey
    simp only [Ion.handleDokuWebhook, hpost, ne_eq, not_true_eq_false, if_false, hb, hm, hsig, false_and]
    rw [if_neg hinv]
  · exact (Ion.posts_eq_some_iff lib r hkey _).2 ⟨hg.resolve_left hkey, order, hn, rfl⟩

/-! ### The hook of the BPP -/

/-- A field of type `string`; another type is an error of the binding. -/
def bindString : Json → Option String
  | .str s => some s
  | .null => some ""
  | _ => none

/-- A field of type `float64`. -/
def bindFloat : Json → Option ℚ
  | .num q => some q
  | .null => some 0
  | _ => none

/-- The delivery that `POST /webhook/payment-received` starts, unless it answers 400. -/
def paymentReceivedHook (body : Fields) : Option Bpp.Request := do
  let invoiceNumber ← bindString (body.get "invoice_number")
  let paymentRequestID ← bindString (body.get "payment_request_id")
  let amount ← bindFloat (body.get "amount")
  if invoiceNumber = "" then none else some (.paymentReceived invoiceNumber paymentRequestID amount)

/-- The hook takes apart what `notifyBPP` puts together. -/
theorem paymentReceivedHook_notifyBPP (lib : Ion.Library) (s : Ion.IonService) {invoice : String}
    (h : invoice ≠ "") (requestID : Ion.Bytes) (amount : ℚ) :
    paymentReceivedHook (Ion.notifyBPP lib s invoice requestID amount).2 =
      some (.paymentReceived invoice (lib.text requestID) amount) := by
  simp [paymentReceivedHook, Ion.notifyBPP, bindString, bindFloat, h]

/-! ### A served notification -/

/-- The database carries out the two statements that mark a row, whose request id fits its column. -/
def Marks (requestID : String) (cs : Nat → Bpp.Choice) : Prop :=
  (cs 0).sqlError = none ∧ (cs 1).sqlError = none ∧ (requestID = "" ∨ fitsVarchar 255 requestID = true)

section

variable {s : Bpp.BecknService} {w : Bpp.BppWorld} {d : Nat} {t : String} {p : Bpp.Policy}

private theorem paid_iff {db : Bpp.Db} (h : db.policy t = some p) : db.Paid t ↔ p.paymentReceived = true := by
  constructor
  · rintro ⟨q, hq, hpaid⟩
    rw [h] at hq
    rwa [Option.some.inj hq]
  · exact fun hpaid => ⟨p, h, hpaid⟩

/-- A notification for a pending policy, run to its end, leaves it paid if it was paid or the row is marked. -/
private theorem finish_paymentReceived {requestID : String} {amount : ℚ} {cs : Nat → Bpp.Choice}
    (hp : w.store.policy t = some p) (hpend : p.status = .pendingIssuance) :
    ((Bpp.machine s).finish d (Bpp.handlePaymentReceived ("ins-" ++ t) requestID amount) cs w).2.store.Paid t ↔
      p.paymentReceived = true ∨ Marks requestID cs := by
  have hrow : ((Bpp.machine s).finish d (Bpp.handlePaymentReceived ("ins-" ++ t) requestID amount) cs w).2.store.policy
      t = some (p.notified requestID cs) :=
    Bpp.finish_paymentReceived hp (by rw [hpend]; decide)
  rw [paid_iff hrow]
  exact Bpp.Policy.notified_paid_iff p requestID cs

end

/-! ### The chain -/

/-- A payment notification of DOKU reaches the BPP as a delivery for `t` that leaves the policy of `t` paid. -/
def PaysFor (lib : Ion.Library) (s : Ion.IonService) (s₂ : Bpp.BecknService) (r : Ion.HttpRequest) (k : Bpp.BppConfig)
    (cs : Nat → Bpp.Choice) (t : String) : Prop :=
  ∃ post req, (Ion.handleDokuWebhook lib s r).posts = some post ∧ paymentReceivedHook post.2 = some req ∧
    req.transaction = t ∧ ((Bpp.machine s₂).serve k req cs).world.store.Paid t

/-- The prefix of the invoice number comes off, and what is left is the transaction of the delivery. -/
private theorem paysFor_iff {lib : Ion.Library} {s : Ion.IonService} {s₂ : Bpp.BecknService} {r : Ion.HttpRequest}
    {order : Fields} {u : String} (hg : Genuine lib s r) (hn : r.Notification lib order)
    (hinvoice : (order.get "invoice_number").text = "ins-" ++ u) (k : Bpp.BppConfig) (cs : Nat → Bpp.Choice)
    (t : String) : PaysFor lib s s₂ r k cs t ↔
      u = t ∧ ((Bpp.machine s₂).serve k (.paymentReceived ("ins-" ++ u) (lib.text (r.header.get "Request-Id"))
        (order.get "amount").float) cs).world.store.Paid t := by
  have hpost := posts_of_genuine hg hn
  have hhook := paymentReceivedHook_notifyBPP lib s hn.invoice (r.header.get "Request-Id") (order.get "amount").float
  rw [hinvoice] at hpost hhook
  have htransaction : (Bpp.Request.paymentReceived ("ins-" ++ u) (lib.text (r.header.get "Request-Id"))
      (order.get "amount").float).transaction = u := trimPrefix_append ..
  constructor
  · rintro ⟨post, req, hpost', hhook', ht, hpaid⟩
    obtain rfl := Option.some.inj (hpost.symm.trans hpost')
    obtain rfl := Option.some.inj (hhook.symm.trans hhook')
    exact ⟨htransaction.symm.trans ht, hpaid⟩
  · rintro ⟨rfl, hpaid⟩
    exact ⟨_, _, hpost, hhook, htransaction, hpaid⟩

private theorem append_suffix_iff (t : String) (i : Ion.Instrument) : t ++ i.suffix = t ↔ i ≠ .qris := by
  constructor
  · rintro h rfl
    have hlen := congrArg String.length h
    simp [Ion.Instrument.suffix, String.length_append] at hlen
  · intro h
    cases i with
    | qris => exact (h rfl).elim
    | _ => exact String.append_empty

/-- A genuine notification of a payment pays for the transaction of its invoice exactly for a virtual account and a
checkout session, as far as the database carries out the two statements that mark the row. -/
theorem invoice_decodes_iff (s : Ion.Merchant) (doku : Ion.Doku) (i : Ion.Instrument) (method t : String)
    (customerName : String) (amountIDR : Int) (callbackURL : String) (x : Ion.DokuRequest)
    (hx : x ∈ (i.create s doku method (.ok ⟨"ins-" ++ t, customerName, amountIDR, callbackURL⟩)).requests)
    (lib : Ion.Library) (r : Ion.HttpRequest) (order : Fields) (hg : Genuine lib s.toIonService r)
    (hn : r.Notification lib order) (hinvoice : (order.get "invoice_number").text = Ion.invoiceOf x.2)
    (s₂ : Bpp.BecknService) (k : Bpp.BppConfig) (cs : Nat → Bpp.Choice) (p : Bpp.Policy)
    (hp : k.world.store.policy t = some p) (hpend : p.status = .pendingIssuance) :
    PaysFor lib s.toIonService s₂ r k cs t ↔
      i ≠ .qris ∧ (p.paymentReceived = true ∨ Marks (lib.text (r.header.get "Request-Id")) cs) := by
  have hsome : "ins-" ++ t ++ i.suffix ≠ "" := by
    intro h
    have hlen := congrArg String.length h
    simp [String.length_append] at hlen
  have hdoku : (order.get "invoice_number").text = "ins-" ++ (t ++ i.suffix) := by
    rw [hinvoice, Ion.invoiceOf_created hsome hx, String.append_assoc]
  rw [paysFor_iff hg hn hdoku, append_suffix_iff]
  refine and_congr_right fun hi => ?_
  have hbare : t ++ i.suffix = t := (append_suffix_iff t i).2 hi
  rw [hbare]
  exact finish_paymentReceived (w := k.world.started _ _) hp hpend

/-- DOKU notifies ION of a payment under this invoice number, and ION reads the body so. -/
private def notifying (invoice : String) : Ion.Library :=
  { Ion.paidLibrary with
    unmarshal := fun _ => some (.obj [("order", .obj [("invoice_number", .str invoice), ("amount", .int 160000)])]) }

private theorem notification_notifying {invoice : String} (h : invoice ≠ "") :
    (Ion.paidRequest [] []).Notification (notifying invoice)
      [("invoice_number", .str invoice), ("amount", .int 160000)] where
  post := rfl
  body := ⟨_, _, rfl, rfl, rfl⟩
  invoice := h

private def silentDoku : Ion.Doku where
  reply _ _ := .failed "timeout"
  decode _ := .error "EOF"
  requestID := "r1"
  b2bToken := .error "timeout"

/-- The configuration after the init of `t`. -/
private def initialised (t : String) : Bpp.BppConfig :=
  (Bpp.machine {}).serve Bpp.start (.init (Bpp.bareMessage t)) fun _ => {}

theorem invoice_decodes_iff_virtualAccount :
    PaysFor (notifying "ins-t") { secretKey := "SK-1" } {} (Ion.paidRequest [] []) (initialised "t") (fun _ => {})
      "t" := by
  have hrow : ((initialised "t").world.store.policy "t").any (fun p => p.status = .pendingIssuance) = true := by
    decide +kernel
  obtain ⟨p, hp, hpend⟩ := (Option.any_eq_true _ _).1 hrow
  refine (invoice_decodes_iff { secretKey := "SK-1" } silentDoku .virtualAccount "POST" "t" "Budi" 160000 "" _
    (List.mem_of_getElem? (i := 0) rfl) (notifying "ins-t") (Ion.paidRequest [] []) _ (.inr (.inr rfl))
    (notification_notifying (by decide)) rfl {} (initialised "t") (fun _ => {}) p hp (of_decide_eq_true hpend)).2 ?_
  exact ⟨by decide, .inr ⟨rfl, rfl, .inr (by decide +kernel)⟩⟩

/-- DOKU notifies ION of a paid QRIS code, and the payment of `t` is stranded. -/
theorem qris_payment_stranded :
    ¬∀ (s : Ion.Merchant) (doku : Ion.Doku) (i : Ion.Instrument) (method t customerName : String) (amountIDR : Int)
      (callbackURL : String), ∀ x ∈ (i.create s doku method
        (.ok ⟨"ins-" ++ t, customerName, amountIDR, callbackURL⟩)).requests,
      ∀ (lib : Ion.Library) (r : Ion.HttpRequest) (order : Fields), Genuine lib s.toIonService r →
        r.Notification lib order → (order.get "invoice_number").text = Ion.invoiceOf x.2 →
        ∀ (s₂ : Bpp.BecknService) (k : Bpp.BppConfig) (cs : Nat → Bpp.Choice) (p : Bpp.Policy),
          Bpp.Reachable s₂ k → k.world.store.policy t = some p → p.status = .pendingIssuance →
            Marks (lib.text (r.header.get "Request-Id")) cs → PaysFor lib s.toIonService s₂ r k cs t := by
  intro hall
  have hrow : ((initialised "t").world.store.policy "t").any (fun p => p.status = .pendingIssuance) = true := by
    decide +kernel
  obtain ⟨p, hp, hpend⟩ := (Option.any_eq_true _ _).1 hrow
  have hn : (Ion.paidRequest [] []).Notification (notifying "ins-t-qris") _ := notification_notifying (by decide)
  have hpays := hall { secretKey := "SK-1" } silentDoku .qris "POST" "t" "Budi" 160000 "" _
    (List.mem_of_getElem? (i := 0) rfl) (notifying "ins-t-qris") (Ion.paidRequest [] []) _ (.inr (.inr rfl)) hn rfl {}
    (initialised "t") (fun _ => {}) p (Machine.serve_runs ..) hp (of_decide_eq_true hpend)
    ⟨rfl, rfl, .inr (by decide +kernel)⟩
  have hother : "t-qris" = "t" := ((paysFor_iff (u := "t-qris") (.inr (.inr rfl)) hn rfl _ _ _).1 hpays).1
  exact absurd hother (by decide)

end IonInsurance.Network
