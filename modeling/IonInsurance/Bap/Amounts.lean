import IonInsurance.Bap.Checkout
import IonInsurance.Bap.Enrichment
import IonInsurance.Bap.Progress

/-!
# Checkouts, payments and reconciles

A callback stores the total of an `on_init` with the checkout of its transaction, and stores its payload as a snapshot.
`NotifyPaymentReceived` names the amount of the checkout, and so does `sendReconcile`, which falls back on the snapshot.
So both name the total of an `on_init` that was received for the transaction, or say that they have found none.
-/

namespace IonInsurance.Bap

open Interleave

abbrev Op.answered (o : Op) (a : o.Ans) : Exchange := ⟨o, a⟩

/-! ### Where amounts are stored and sent -/

/-- The operation stores a checkout or a snapshot, or it names an amount that was stored: to the BPP in a reconcile, or to
ION in a payment. -/
def Op.isSum : Op → Bool
  | .setCheckout .. | .saveSnapshot .. => true
  | .post .bppWebhook _ _ => true
  | .post .ionService path _ => path = "payment/notify-direct"
  | _ => false

/-- What a goroutine for `t` has read gives the amount `n`. -/
inductive Reads (t : String) (h : History) (n : Int) : Prop where
  | stored (invoice : String) (hx : (Op.selectForReconcile t).answered (.ok (invoice, n)) ∈ h) (hn : n ≠ 0) : Reads t h n
  | snapshot (snap : Fields) (hx : (Op.selectOnInit t).answered (.ok snap) ∈ h)
      (hn : extractTotalIDRFromOnInit snap = n) : Reads t h n
  | missing (err : String) (hx : (Op.selectOnInit t).answered (.error err) ∈ h) (hn : n = 500000) : Reads t h n

theorem Reads.mono {t : String} {h h' : History} {n : Int} (hr : Reads t h n) (hsub : h ⊆ h') : Reads t h' n := by
  cases hr with
  | stored invoice hx hn => exact .stored invoice (hsub hx) hn
  | snapshot snap hx hn => exact .snapshot snap (hsub hx) hn
  | missing err hx hn => exact .missing err (hsub hx) hn

/-- The body that asks ION for the checkout of `payload`. -/
def checkoutOf (payload : Fields) (callbackURL : String) : Fields :=
  checkoutPayload ("ins-" ++ transactionID payload) callbackURL (extractTotalIDRFromOnInit payload)

/-- The body that tells ION of a payment for `t`, whose row is `row`. -/
def notifyFor (t : String) (row : Except String (String × Int × String)) : Fields :=
  let (invoiceNumber, amount, checkoutReqID) := row.toOption.getD ("", 0, "")
  notifyPayload (if invoiceNumber = "" then "ins-" ++ t else invoiceNumber) checkoutReqID amount

/-- A callback stores its own total with the checkout that ION has created for it, and the amount that a goroutine or a
payment names is one that it has read. -/
inductive Sums : Request → History → Op → Prop where
  | other (r : Request) (h : History) {o : Op} (ho : o.isSum = false) : Sums r h o
  | checkout {payload : Fields} {h : History} {callbackURL text : String} {json : Json}
      (hx : (Op.post .ionService "payment/create-checkout" (checkoutOf payload callbackURL)).answered
        (.response 200 text json) ∈ h) :
      Sums (.callback "on_init" payload) h (.setCheckout (transactionID payload) (json.fields.get "invoice_number")
        (json.fields.get "checkout_url") (extractTotalIDRFromOnInit payload))
  | snapshot {onAction : String} {payload payload' : Fields} (h : History)
      (hn : extractTotalIDRFromOnInit payload' = extractTotalIDRFromOnInit payload) :
      Sums (.callback onAction payload) h (.saveSnapshot (transactionID payload) onAction payload')
  | reconcile {t : String} {h : History} {n : Int} (hn : Reads t h n) (msgID invoice : String) (now : Time) :
      Sums (.sendReconcile t) h
        (.post .bppWebhook "reconcile" (reconcilePayload (requestContext "reconcile" t msgID now) invoice n))
  | notify {t : String} {h : History} {row : Except String (String × Int × String)}
      (hx : (Op.selectForNotify t).answered row ∈ h) :
      Sums (.paymentReceived t) h (.post .ionService "payment/notify-direct" (notifyFor t row))

section

/-- ION has created the checkout of `payload`. -/
private def Created (payload : Fields) (h : History) : Except String Fields → Prop
  | .error _ => True
  | .ok co => ∃ callbackURL text json, co = json.fields ∧
      (Op.post .ionService "payment/create-checkout" (checkoutOf payload callbackURL)).answered
        (.response 200 text json) ∈ h

end

/-- The BAP has received an `on_init` for `t` with the total `n`. -/
def AskedBy (w : BapWorld) (t : String) (n : Int) : Prop :=
  ∃ d payload, w.request? d = some (.callback "on_init" payload) ∧ transactionID payload = t ∧
    extractTotalIDRFromOnInit payload = n

theorem AskedBy.started {w : BapWorld} {t : String} {n : Int} (h : AskedBy w t n) {d : Nat} (r : Request)
    (hd : w.request? d = none) : AskedBy (w.started d r) t n := by
  obtain ⟨e, payload, hr, ht, hn⟩ := h
  exact ⟨e, payload, World.request?_stays hd hr, ht, hn⟩

/-- The amounts that are stored, and those that were read, come from an `on_init`. -/
structure Priced (w : BapWorld) : Prop where
  stored : ∀ t n, (w.store.checkout t).2 = some n → AskedBy w t n
  snapshots : ∀ x ∈ w.store.snapshots, x.onAction = "on_init" →
    AskedBy w x.transactionID (extractTotalIDRFromOnInit x.payload)
  read : ∀ d t invoice n, (Op.selectForReconcile t).answered (.ok (invoice, n)) ∈ w.exchanges d → n ≠ 0 → AskedBy w t n
  notified : ∀ d t invoice n rid, (Op.selectForNotify t).answered (.ok (invoice, n, rid)) ∈ w.exchanges d → n ≠ 0 →
    AskedBy w t n
  found : ∀ d t snap, (Op.selectOnInit t).answered (.ok snap) ∈ w.exchanges d →
    AskedBy w t (extractTotalIDRFromOnInit snap)

/-- A fold that keeps what it has or takes the next element ends with the first value or with an element. -/
theorem mem_of_foldl_pick {α : Type} {pick : Option α → α → Option α}
    (hpick : ∀ best x, pick best x = best ∨ pick best x = some x) {xs : List α} {best : Option α} {x : α}
    (h : xs.foldl pick best = some x) : best = some x ∨ x ∈ xs := by
  induction xs generalizing best with
  | nil => exact .inl h
  | cons y ys ih =>
    rcases ih h with hy | hys
    · rcases hpick best y with hkept | htaken
      · exact .inl (hkept.symm.trans hy)
      · have hxy := Option.some.inj (htaken.symm.trans hy)
        exact .inr (hxy ▸ List.mem_cons_self)
    · exact .inr (List.mem_cons_of_mem _ hys)

/-- The snapshot that is found is one of the transaction and the action. -/
theorem mem_of_latestSnapshot {s : Db} {t onAction : String} {x : Snapshot} (h : s.latestSnapshot t onAction = some x) :
    x ∈ s.snapshots ∧ x.transactionID = t ∧ x.onAction = onAction := by
  unfold Db.latestSnapshot at h
  refine (mem_of_foldl_pick ?_ h).elim (fun hnone => ?_) fun hmem => ?_
  · intro best y
    cases best with
    | none => exact .inr rfl
    | some b =>
      dsimp only
      split
      · exact .inl rfl
      · exact .inr rfl
  · cases hnone
  · obtain ⟨hx, hfor⟩ := List.mem_filter.1 hmem
    obtain ⟨ht, hon⟩ := of_decide_eq_true hfor
    exact ⟨hx, ht, hon⟩

/-- The checkout of `t` is as it was, or it is the one that has just been stored. -/
theorem setCheckout_cases (s : Db) (c : Choice) (t : String) (invoice url : Json) (n : Int) :
    (exec (.setCheckout t invoice url n) c s).2.checkout t = s.checkout t ∨
      ∃ v, varcharParam 255 invoice = .ok v ∧
        (exec (.setCheckout t invoice url n) c s).2.checkout t = (v, some n) := by
  simp only [exec]
  cases c.sqlError with
  | some err => exact .inl rfl
  | none =>
    rw [statement_none]
    unfold Db.setCheckout
    split
    · rename_i v url' hv hurl
      unfold Db.checkout
      rw [Db.transaction_updateTransaction, if_pos rfl]
      cases hp : s.transaction t with
      | none => exact .inl rfl
      | some p => exact .inr ⟨v, hv, rfl⟩
    · exact .inl rfl
    · exact .inl rfl

/-- A row that was read is the row of its transaction. -/
theorem row_of_read {α : Type} {s : Db} {t : String} {f : Transaction → α} {e : Option String} {x : α}
    (h : (statement e s (s.selectTransaction t f, s)).1 = .ok x) : ∃ p, s.transaction t = some p ∧ x = f p := by
  cases e with
  | some err => cases h
  | none =>
    unfold Db.selectTransaction at h
    cases hp : s.transaction t with
    | none =>
      rw [hp] at h
      cases h
    | some p =>
      rw [hp] at h
      exact ⟨p, rfl, (Except.ok.inj h).symm⟩

private theorem read_forReconcile {s : Db} {c : Choice} {t invoice : String} {n : Int}
    (h : (exec (.selectForReconcile t) c s).1 = (.ok (invoice, n) : Except String (String × Int))) :
    ∃ p, s.transaction t = some p ∧ n = p.paymentAmount.getD 0 := by
  obtain ⟨p, hp, hrow⟩ := row_of_read h
  exact ⟨p, hp, (Prod.mk.inj hrow).2⟩

private theorem read_forNotify {s : Db} {c : Choice} {t invoice rid : String} {n : Int}
    (h : (exec (.selectForNotify t) c s).1 = (.ok (invoice, n, rid) : Except String (String × Int × String))) :
    ∃ p, s.transaction t = some p ∧ invoice = p.dokuInvoiceNumber.getD "" ∧ n = p.paymentAmount.getD 0 := by
  obtain ⟨p, hp, hrow⟩ := row_of_read h
  obtain ⟨hinvoice, hrest⟩ := Prod.mk.inj hrow
  exact ⟨p, hp, hinvoice, (Prod.mk.inj hrest).1⟩

/-- A column that is read as something else than its default holds it. -/
private theorem eq_some_of_getD {α : Type} {o : Option α} {x y : α} (h : x = o.getD y) (hne : x ≠ y) : o = some x := by
  cases o with
  | none => exact absurd h hne
  | some z => rw [h, Option.getD_some]

private theorem amount_of_row {s : Db} {t : String} {p : Transaction} {n : Int} (hp : s.transaction t = some p)
    (h : n = p.paymentAmount.getD 0) (hn : n ≠ 0) : (s.checkout t).2 = some n := by
  unfold Db.checkout
  rw [hp]
  exact eq_some_of_getD h hn

section

variable {s : ClientService} {w : BapWorld} {d : Nat} {r : Request} {o : Op} {c : Choice}

theorem Priced.started (hw : Priced w) (r : Request) (hd : w.request? d = none) : Priced (w.started d r) where
  stored t n h := (hw.stored t n h).started r hd
  snapshots x hx hon := (hw.snapshots x hx hon).started r hd
  read e t invoice n hx hn := (hw.read e t invoice n hx hn).started r hd
  notified e t invoice n rid hx hn := (hw.notified e t invoice n rid hx hn).started r hd
  found e t snap hx := (hw.found e t snap hx).started r hd

theorem Priced.asked (hw : Priced w) (hr : w.request? d = some r) (ho : Sums r (w.exchanges d) o) :
    Priced ((machine s).asked w d o c) where
  stored := by
    intro t n h
    change ((exec o c w.store).2.checkout t).2 = some n at h
    by_cases hspares : o.Spares t
    · rw [checkout_exec hspares] at h
      exact hw.stored t n h
    · obtain ⟨invoice, url, total, rfl⟩ : ∃ invoice url total, o = .setCheckout t invoice url total := by
        simpa [Op.Spares] using hspares
      rcases setCheckout_cases w.store c t invoice url total with hold | ⟨v, -, hnew⟩
      · rw [hold] at h
        exact hw.stored t n h
      · rw [hnew] at h
        obtain rfl := Option.some.inj h
        cases ho with
        | other _ _ hsum => cases hsum
        | @checkout payload => exact ⟨d, payload, hr, rfl, rfl⟩
  snapshots := by
    intro x hx hon
    change x ∈ (exec o c w.store).2.snapshots at hx
    rcases snapshots_exec o c w.store with hsame | ⟨t, onAction, payload', rfl, -, hnew⟩
    · rw [hsame] at hx
      exact hw.snapshots x hx hon
    · rw [hnew] at hx
      rcases List.mem_append.1 hx with hold | hnew
      · exact hw.snapshots x hold hon
      · obtain rfl := List.mem_singleton.1 hnew
        cases ho with
        | other _ _ hsum => cases hsum
        | @snapshot _ payload _ _ hn =>
          obtain rfl : onAction = "on_init" := hon
          exact ⟨d, payload, hr, rfl, hn.symm⟩
  read := by
    intro e t invoice n hx hn
    rcases Machine.exchange_asked hx with hold | ⟨rfl, rfl, ha⟩
    · exact hw.read e t invoice n hold hn
    · obtain ⟨p, hp, hamount⟩ := read_forReconcile ha.symm
      exact hw.stored t n (amount_of_row hp hamount hn)
  notified := by
    intro e t invoice n rid hx hn
    rcases Machine.exchange_asked hx with hold | ⟨rfl, rfl, ha⟩
    · exact hw.notified e t invoice n rid hold hn
    · obtain ⟨p, hp, -, hamount⟩ := read_forNotify ha.symm
      exact hw.stored t n (amount_of_row hp hamount hn)
  found := by
    intro e t snap hx
    rcases Machine.exchange_asked hx with hold | ⟨rfl, rfl, ha⟩
    · exact hw.found e t snap hold
    · simp only [Machine.answer, machine, exec] at ha
      cases hc : c.sqlError with
      | some err =>
        rw [hc] at ha
        cases ha
      | none =>
        rw [hc] at ha
        cases hlatest : w.store.latestSnapshot t "on_init" with
        | none =>
          rw [hlatest] at ha
          cases ha
        | some x =>
          rw [hlatest] at ha
          obtain rfl := Except.ok.inj ha
          obtain ⟨hmem, rfl, hon⟩ := mem_of_latestSnapshot hlatest
          exact hw.snapshots x hmem hon

/-- ION has answered each request for a checkout with the invoice number that it was asked for. -/
def CheckoutsEchoed (w : BapWorld) : Prop :=
  ∀ d payload text json, (Op.post .ionService "payment/create-checkout" payload).answered (.response 200 text json) ∈
    w.exchanges d → json.fields.get "invoice_number" = payload.get "invoice_number"

/-- The invoices that are stored, and those that were read, are those of their transactions. -/
structure Invoiced (w : BapWorld) : Prop where
  stored : ∀ t invoice, (w.store.checkout t).1 = some invoice → invoice = "ins-" ++ t
  notified : ∀ d t invoice n rid, (Op.selectForNotify t).answered (.ok (invoice, n, rid)) ∈ w.exchanges d →
    invoice ≠ "" → invoice = "ins-" ++ t

theorem Invoiced.asked (hw : Invoiced w) (hecho : CheckoutsEchoed w) (ho : Sums r (w.exchanges d) o) :
    Invoiced ((machine s).asked w d o c) where
  stored := by
    intro t v h
    change ((exec o c w.store).2.checkout t).1 = some v at h
    by_cases hspares : o.Spares t
    · rw [checkout_exec hspares] at h
      exact hw.stored t v h
    · obtain ⟨invoice, url, total, rfl⟩ : ∃ invoice url total, o = .setCheckout t invoice url total := by
        simpa [Op.Spares] using hspares
      rcases setCheckout_cases w.store c t invoice url total with hold | ⟨v', hv, hnew⟩
      · rw [hold] at h
        exact hw.stored t v h
      · rw [hnew] at h
        obtain rfl : v' = some v := h
        cases ho with
        | other _ _ hsum => cases hsum
        | @checkout payload _ callbackURL text json hx =>
          have hinvoice : json.fields.get "invoice_number" = .str ("ins-" ++ transactionID payload) := hecho d _ _ _ hx
          rw [hinvoice] at hv
          unfold varcharParam at hv
          dsimp only at hv
          split at hv
          · exact (Option.some.inj (Except.ok.inj hv)).symm
          · cases hv
  notified := by
    intro e t invoice n rid hx hne
    rcases Machine.exchange_asked hx with hold | ⟨rfl, rfl, ha⟩
    · exact hw.notified e t invoice n rid hold hne
    · obtain ⟨p, hp, hinvoice, -⟩ := read_forNotify ha.symm
      refine hw.stored t invoice ?_
      unfold Db.checkout
      rw [hp]
      exact eq_some_of_getD hinvoice hne

end

end IonInsurance.Bap
