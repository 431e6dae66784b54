import IonInsurance.Network.Invoices

/-!
# Notifications of payments that have not succeeded

DOKU notifies ION of the outcome of a payment in `transaction.status`.  ION reads the order only, and the BPP is told
that the payment has been received, whatever the status says.
-/

namespace IonInsurance.Network

open Interleave

/-- The body of the notification gives the transaction a status other than `SUCCESS`. -/
def Unsuccessful (lib : Ion.Library) (r : Ion.HttpRequest) : Prop :=
  ∃ bodyBytes body transaction, r.body = some bodyBytes ∧ Ion.unmarshalMap lib bodyBytes = some body ∧
    body.get "transaction" = .obj transaction ∧ Fields.has transaction "status" = true ∧
    Fields.get transaction "status" ≠ .str "SUCCESS"

/-- The BPP after a notification of DOKU: ION forwards it, and the BPP handles what it is sent. -/
def afterNotification (lib : Ion.Library) (s : Ion.IonService) (s₂ : Bpp.BecknService) (r : Ion.HttpRequest)
    (k : Bpp.BppConfig) (cs : Nat → Bpp.Choice) : Bpp.BppConfig :=
  match (Ion.handleDokuWebhook lib s r).posts.bind fun post => paymentReceivedHook post.2 with
  | some req => (Bpp.machine s₂).serve k req cs
  | none => k

/-- `payment_received` of every policy is the same. -/
def SamePayments (db db' : Bpp.Db) : Prop :=
  ∀ t, (db'.policy t).map Bpp.Policy.paymentReceived = (db.policy t).map Bpp.Policy.paymentReceived

/-- A genuine notification names the invoice of a policy that is neither active nor paid, and the database marks the
row. -/
def Counts (lib : Ion.Library) (s : Ion.IonService) (r : Ion.HttpRequest) (db : Bpp.Db) (cs : Nat → Bpp.Choice) :
    Prop :=
  Genuine lib s r ∧ ∃ order t p, r.Notification lib order ∧ (order.get "invoice_number").text = "ins-" ++ t ∧
    db.policy t = some p ∧ p.status ≠ .active ∧ p.paymentReceived = false ∧
    Bpp.Marking (lib.text (r.header.get "Request-Id")) cs

section

variable {lib : Ion.Library} {s : Ion.IonService} {s₂ : Bpp.BecknService} {r : Ion.HttpRequest} {k : Bpp.BppConfig}
  {cs : Nat → Bpp.Choice}

/-- Only a genuine notification is forwarded. -/
theorem genuine_of_posts {x : String × Fields} (h : (Ion.handleDokuWebhook lib s r).posts = some x) :
    Genuine lib s r ∧ ∃ order, r.Notification lib order := by
  obtain ⟨bodyBytes, order, hb, hn, hsig, -⟩ := Ion.notification_of_posts h
  refine ⟨?_, order, hn⟩
  by_cases hkey : s.secretKey = ""
  · exact .inl hkey
  · rw [Ion.verifySignature_iff hkey hb] at hsig
    exact .inr hsig

/-- A genuine notification is served as a payment of its invoice. -/
private theorem afterNotification_genuine {order : Fields} (hg : Genuine lib s r) (hn : r.Notification lib order) :
    afterNotification lib s s₂ r k cs = (Bpp.machine s₂).serve k (.paymentReceived (order.get "invoice_number").text
      (lib.text (r.header.get "Request-Id")) (order.get "amount").float) cs := by
  unfold afterNotification
  rw [posts_of_genuine hg hn, Option.bind_some, paymentReceivedHook_notifyBPP lib s hn.invoice]

/-- The row of `t` after a genuine notification. -/
private theorem policy_afterNotification {order : Fields} (hg : Genuine lib s r) (hn : r.Notification lib order)
    (t : String) : (afterNotification lib s s₂ r k cs).world.store.policy t =
      if (order.get "invoice_number").text = "ins-" ++ t then
        (k.world.store.policy t).map fun p =>
          if p.status = .active then p else p.notified (lib.text (r.header.get "Request-Id")) cs
      else k.world.store.policy t := by
  rw [afterNotification_genuine hg hn]
  exact Bpp.policy_serve_paymentReceived k _ _ _ cs t

end

/-- A notification of a payment that has not succeeded leaves `payment_received` of every policy alone exactly if it
does not count: it is not genuine, it names no policy, the policy is active or paid already, or the database does not
mark the row.  The handler does not look at the status, so neither does the proof. -/
theorem unsuccessful_ignored_iff (lib : Ion.Library) (s : Ion.IonService) (s₂ : Bpp.BecknService)
    (r : Ion.HttpRequest) (k : Bpp.BppConfig) (cs : Nat → Bpp.Choice) (_h : Unsuccessful lib r) :
    SamePayments k.world.store (afterNotification lib s s₂ r k cs).world.store ↔ ¬Counts lib s r k.world.store cs := by
  constructor
  · rintro hsame ⟨hg, order, t, p, hn, hinvoice, hp, ha, hunpaid, hmark⟩
    have hrow := hsame t
    rw [policy_afterNotification hg hn, if_pos hinvoice, hp, Option.map_some, Option.map_some, if_neg ha] at hrow
    have hpaid := (Bpp.Policy.notified_paid_iff p _ cs).2 (.inr hmark)
    rw [Option.map_some, hpaid, hunpaid] at hrow
    cases hrow
  · intro hnot t
    by_cases hposts : ∃ x, (Ion.handleDokuWebhook lib s r).posts = some x
    · obtain ⟨x, hx⟩ := hposts
      obtain ⟨hg, order, hn⟩ := genuine_of_posts hx
      rw [policy_afterNotification hg hn]
      by_cases hinvoice : (order.get "invoice_number").text = "ins-" ++ t
      · rw [if_pos hinvoice]
        cases hp : k.world.store.policy t with
        | none => rfl
        | some p =>
          rw [Option.map_some, Option.map_some, Option.map_some]
          by_cases ha : p.status = .active
          · rw [if_pos ha]
          · rw [if_neg ha]
            -- a row that is not paid yet is not marked
            have hiff := Bpp.Policy.notified_paid_iff p (lib.text (r.header.get "Request-Id")) cs
            cases hpaid : p.paymentReceived with
            | true => rw [hiff.2 (.inl hpaid)]
            | false =>
              have hmark : ¬Bpp.Marking (lib.text (r.header.get "Request-Id")) cs := fun hmark =>
                hnot ⟨hg, order, t, p, hn, hinvoice, hp, ha, hpaid, hmark⟩
              rw [Bpp.Policy.notified_of_not hmark, hpaid]
      · rw [if_neg hinvoice]
    · have hnone : (Ion.handleDokuWebhook lib s r).posts = none :=
        Option.eq_none_iff_forall_ne_some.2 fun x hx => hposts ⟨x, hx⟩
      unfold afterNotification
      rw [hnone]
      rfl

/-- DOKU notifies ION that the payment of `ins-t` has failed, and ION reads the body so. -/
private def failing : Ion.Library :=
  { Ion.paidLibrary with
    unmarshal := fun _ => some (.obj
      [("order", .obj [("invoice_number", .str "ins-t"), ("amount", .int 160000)]),
        ("transaction", .obj [("status", .str "FAILED")])]) }

private theorem unsuccessful_failing : Unsuccessful failing (Ion.paidRequest [] []) :=
  ⟨_, _, _, rfl, rfl, rfl, rfl, by simp⟩

/-- The policy of `t` has been paid for and issued: the notification changes nothing. -/
theorem unsuccessful_ignored_iff_issuedRun :
    ((Bpp.issuedRun "t").world.store.policy "t").map Bpp.Policy.status = some .active ∧
      SamePayments (Bpp.issuedRun "t").world.store (afterNotification failing { secretKey := "SK-1" } {}
        (Ion.paidRequest [] []) (Bpp.issuedRun "t") fun _ => {}).world.store := by
  have hactive : ((Bpp.issuedRun "t").world.store.policy "t").map Bpp.Policy.status = some .active := by decide +kernel
  refine ⟨hactive, (unsuccessful_ignored_iff failing { secretKey := "SK-1" } {} (Ion.paidRequest [] [])
    (Bpp.issuedRun "t") (fun _ => {}) unsuccessful_failing).2 ?_⟩
  rintro ⟨-, order, u, p, hn, hinvoice, hp, ha, -⟩
  -- the notification names the invoice of `t`
  obtain ⟨bodyBytes, body, hbytes, hbody, rfl⟩ := hn.body
  obtain rfl := Option.some.inj hbytes
  obtain rfl := Option.some.inj hbody
  obtain rfl : "t" = u := (String.append_right_inj "ins-").1 hinvoice
  rw [hp, Option.map_some] at hactive
  exact ha (Option.some.inj hactive)

/-- A failed payment of a pending policy marks it as paid. -/
theorem failed_payment_received :
    ¬∀ (lib : Ion.Library) (s : Ion.IonService) (s₂ : Bpp.BecknService) (r : Ion.HttpRequest) (k : Bpp.BppConfig)
      (cs : Nat → Bpp.Choice), Bpp.Reachable s₂ k → Unsuccessful lib r →
        SamePayments k.world.store (afterNotification lib s s₂ r k cs).world.store := by
  intro hall
  let k := (Bpp.machine {}).serve Bpp.start (.init (Bpp.bareMessage "t")) fun _ => {}
  have hsame := hall failing { secretKey := "SK-1" } {} (Ion.paidRequest [] []) k (fun _ => {})
    (Machine.serve_runs ..) unsuccessful_failing "t"
  revert hsame
  decide +kernel

end IonInsurance.Network
