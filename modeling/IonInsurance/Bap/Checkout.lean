import IonInsurance.Interleave.Serve
import IonInsurance.Bap.Rows

/-!
# The columns of a checkout

One statement stores the invoice number, the checkout URL and the amount of a transaction, the URL in the column for a
virtual account number.  A value that does not fit its column fails the statement, and the callback goes on without
looking at the error.
-/

namespace IonInsurance.Bap

open Interleave

/-- The invoice number and the amount that are stored for a transaction. -/
def Db.checkout (s : Db) (t : String) : Option String × Option Int :=
  ((s.transaction t).bind Transaction.dokuInvoiceNumber, (s.transaction t).bind Transaction.paymentAmount)

private theorem checkout_updateTransaction {s : Db} {t u : String} {f : Transaction → Transaction}
    (hf : t = u → ∀ p, (f p).dokuInvoiceNumber = p.dokuInvoiceNumber ∧ (f p).paymentAmount = p.paymentAmount) :
    (s.updateTransaction u f).checkout t = s.checkout t := by
  unfold Db.checkout
  rw [Db.transaction_updateTransaction]
  split
  · rename_i htu
    cases s.transaction t with
    | none => rfl
    | some p =>
      obtain ⟨hinvoice, hamount⟩ := hf htu p
      exact Prod.ext hinvoice hamount
  · rfl

private theorem checkout_upsertTransaction (s : Db) (t u action status : String) (now : Time) :
    (s.upsertTransaction u action status now).2.checkout t = s.checkout t := by
  unfold Db.upsertTransaction
  split
  · cases hp : s.transaction u with
    | some p => exact checkout_updateTransaction fun _ p => ⟨rfl, rfl⟩
    | none =>
      -- a new row has no checkout yet
      show (Db.putTransaction ..).checkout t = _
      unfold Db.checkout
      rw [Db.transaction_putTransaction]
      split
      · rename_i htu
        rw [htu, hp]
        rfl
      · rfl
  · rfl

/-- Only its own statement changes the checkout of a transaction. -/
theorem checkout_exec {o : Op} {t : String} (h : ∀ invoice url total, o ≠ .setCheckout t invoice url total) (c : Choice)
    (s : Db) : (exec o c s).2.checkout t = s.checkout t := by
  have hstatement : ∀ {α : Type} (e : Option String) (run : Except String α × Db),
      run.2.checkout t = s.checkout t → (statement e s run).2.checkout t = s.checkout t :=
    fun e run hrun => statement_keeps (P := fun s' : Db => s'.checkout t = s.checkout t) e rfl hrun
  cases o with
  | upsertTransaction u action status => exact hstatement _ _ (checkout_upsertTransaction ..)
  | saveSnapshot => exact hstatement _ _ rfl
  | setCheckoutRequestID u rid =>
    refine hstatement _ _ ?_
    unfold Db.setCheckoutRequestID
    split
    · exact checkout_updateTransaction fun _ p => ⟨rfl, rfl⟩
    · rfl
  | setCheckout u invoice url total =>
    refine hstatement _ _ ?_
    unfold Db.setCheckout
    split
    · refine checkout_updateTransaction ?_
      rintro rfl
      exact absurd rfl (h invoice url total)
    · rfl
    · rfl
  | selectForReconcile | selectForNotify | selectOnInit | setPending | deletePending => exact hstatement _ _ rfl
  | existsPending key =>
    simp only [exec, statement_read]
    split <;> rfl
  | publish => exact hstatement _ _ rfl
  | receive n =>
    show (if c.timeout = true then (none, s) else s.receive n).2.checkout t = _
    split
    · rfl
    · unfold Db.receive
      split <;> rfl
  | now | newUUID | post | goSendReconcile | subscribe | close => rfl

/-- The operation does not store a checkout of `t`. -/
def Op.Spares (t : String) (o : Op) : Prop := ∀ invoice url total, o ≠ .setCheckout t invoice url total

/-- A program that stores no checkout of `t` leaves it as it is. -/
theorem finish_checkout {β : Type} {s : ClientService} {d : Nat} {t : String} {p : Task β} (hp : p.Asks (Op.Spares t))
    (cs : Nat → Choice) (w : World Db Request Op Op.Ans) :
    ((machine s).finish d p cs w).2.store.checkout t = w.store.checkout t := by
  refine Machine.ends_of_asks (P := fun db : Db => db.checkout t = w.store.checkout t) hp ?_ rfl cs
  intro o c db ho hdb
  exact (checkout_exec ho c db).trans hdb

/-- The checkout stays in every run that stores no other for the transaction. -/
theorem runs_checkout {s : ClientService} {t : String} {k k' : Config Db Request Op Op.Ans (Except String Fields)}
    (h : (machine s).Runs (fun _ a => ∀ d o c, a = .exec d o c → o.Spares t) k k') :
    k'.world.store.checkout t = k.world.store.checkout t := by
  refine Machine.Runs.store (P := fun db : Db => db.checkout t = k.world.store.checkout t) h ?_ rfl
  intro w d o c hK hw
  exact (checkout_exec (hK d o c rfl) c w.store).trans hw

/-! ### What an on_init stores -/

/-- What ION answers to a create-checkout. -/
def checkoutBody (url invoice requestID : String) : Fields :=
  [("checkout_url", .str url), ("invoice_number", .str invoice), ("payment_request_id", .str requestID)]

/-- The statement for the checkout takes effect: the transaction has a row or is given one, both texts fit their
columns, and the database carries the statement out. -/
structure CheckoutStored (s : Db) (t url invoice requestID : String) (cs : Nat → Choice) : Prop where
  row : (s.transaction t).isSome = true ∨ (cs 0).sqlError = none ∧ fitsVarchar 255 t = true
  invoice : fitsVarchar 255 invoice = true
  url : fitsVarchar 50 url = true
  statement : (cs (if requestID = "" then 2 else 3)).sqlError = none

private theorem isSome_upsertTransaction (s : Db) (t action status : String) (c : Choice)
    (haction : (fitsVarchar 50 action && fitsVarchar 50 status) = true) :
    (((exec (.upsertTransaction t action status) c s).2.transaction t).isSome = true) ↔
      (s.transaction t).isSome = true ∨ c.sqlError = none ∧ fitsVarchar 255 t = true := by
  simp only [exec]
  cases c.sqlError with
  | some err => simp
  | none =>
    rw [statement_none]
    unfold Db.upsertTransaction
    rw [Bool.and_assoc, haction, Bool.and_true]
    by_cases hfit : fitsVarchar 255 t = true
    · rw [if_pos hfit]
      cases hp : s.transaction t with
      | none => simp [Db.transaction_putTransaction, hfit]
      | some p => simp [Db.transaction_updateTransaction, hp]
    · rw [if_neg hfit]
      simp [hfit]

private theorem isSome_setCheckoutRequestID (s : Db) (t u requestID : String) (c : Choice) :
    (((exec (.setCheckoutRequestID u requestID) c s).2).transaction t).isSome = (s.transaction t).isSome := by
  simp only [exec]
  refine statement_keeps (P := fun s' : Db => (s'.transaction t).isSome = (s.transaction t).isSome) _ rfl ?_
  unfold Db.setCheckoutRequestID
  split
  · rw [Db.transaction_updateTransaction]
    split
    · rw [Option.isSome_map]
    · rfl
  · rfl

/-- The statement for the checkout. -/
private theorem checkout_setCheckout (s : Db) (t url invoice : String) (total : Int) (c : Choice) :
    ((s.transaction t).isSome = true ∧ fitsVarchar 255 invoice = true ∧ fitsVarchar 50 url = true ∧ c.sqlError = none →
        (exec (.setCheckout t (.str invoice) (.str url) total) c s).2.checkout t = (some invoice, some total)) ∧
      (¬((s.transaction t).isSome = true ∧ fitsVarchar 255 invoice = true ∧ fitsVarchar 50 url = true ∧
          c.sqlError = none) →
        (exec (.setCheckout t (.str invoice) (.str url) total) c s).2.checkout t = s.checkout t) := by
  simp only [exec]
  cases c.sqlError with
  | some err => simp
  | none =>
    rw [statement_none]
    unfold Db.setCheckout varcharParam
    by_cases hinvoice : fitsVarchar 255 invoice = true
    · by_cases hurl : fitsVarchar 50 url = true
      · simp only [hinvoice, hurl, if_true]
        unfold Db.checkout
        rw [Db.transaction_updateTransaction, if_pos rfl]
        cases s.transaction t with
        | none => simp
        | some p => simp
      · simp [hinvoice, hurl]
    · simp [hinvoice]

section

variable {s : ClientService} {d : Nat} {w : World Db Request Op Op.Ans} {t : String}

/-- What `enrich` does with the answer of ION. -/
private def storeCheckout (payload : Fields) : Except String Fields → Task Fields
  | .ok co => do
    let _ ← call (.setCheckout (transactionID payload) (co.get "invoice_number") (co.get "checkout_url")
      (extractTotalIDRFromOnInit payload))
    return injectIntoConsiderationAttributes payload
      [("checkoutUrl", co.get "checkout_url"), ("invoiceNumber", co.get "invoice_number")]
  | .error _ => return payload

/-- What a callback does after its payload is complete. -/
private def afterEnrich (onAction : String) (payload : Fields) : Task (Except String Fields) := do
  saveCallback onAction payload
  updateStatus onAction payload
  let _ ← publish (trimPrefix onAction "on_") (transactionID payload) payload
  return .ok []

private theorem afterEnrich_spares (t onAction : String) (payload : Fields) :
    (afterEnrich onAction payload).Asks (Op.Spares t) := by
  have hsave : (saveCallback onAction payload).Asks (Op.Spares t) := by
    unfold saveCallback
    split
    · exact ⟨fun _ _ _ => nofun, fun _ => trivial⟩
    · trivial
  have hstatus : (updateStatus onAction payload).Asks (Op.Spares t) := by
    unfold updateStatus
    dsimp only
    split
    · refine ⟨fun _ _ _ => nofun, fun _ => ?_⟩
      dsimp only
      split
      · exact ⟨fun _ _ _ => nofun, fun _ => trivial⟩
      · trivial
    · trivial
  have hpublish : ∀ route txnID, (publish route txnID payload).Asks (Op.Spares t) := by
    intro route txnID
    refine ⟨fun _ _ _ => nofun, fun pending => ?_⟩
    change Except String Bool at pending
    cases pending with
    | error err => trivial
    | ok isPending =>
      cases isPending with
      | false => trivial
      | true =>
        refine ⟨fun _ _ _ => nofun, fun n => ?_⟩
        change Except String Nat at n
        cases n with
        | error err => trivial
        | ok n => exact ⟨fun _ _ _ => nofun, fun _ => trivial⟩
  exact hsave.bind fun _ => hstatus.bind fun _ => (hpublish _ _).bind fun _ => trivial

/-- ION is asked for a checkout, and its request id is stored if there is one. -/
private theorem finish_createCheckout {β : Type} (hion : s.ionServiceURL ≠ "") (invoiceNumber : String) (amountIDR : Int)
    (f : Except String Fields → Task β) (cs : Nat → Choice) {text url invoice requestID : String}
    (hreply : (cs 0).reply = .response 200 text (.obj (checkoutBody url invoice requestID))) :
    ∃ w₁ : World Db Request Op Op.Ans, w₁.store.checkout t = w.store.checkout t ∧
      ((w₁.store.transaction t).isSome = (w.store.transaction t).isSome) ∧
      (machine s).finish d (callIONCreateCheckout s invoiceNumber amountIDR t >>= f) cs w =
        (machine s).finish d (f (.ok (checkoutBody url invoice requestID)))
          (fun n => cs (n + if requestID = "" then 1 else 2)) w₁ := by
  let w' := (machine s).asked w d (.post .ionService "payment/create-checkout" (checkoutPayload invoiceNumber
    (s.bapFrontendURL ++ "/policy/" ++ t ++ "?payment=done") amountIDR)) (cs 0)
  have hstore : w'.store = w.store := rfl
  have hanswer : (machine s).answer w (.post .ionService "payment/create-checkout" (checkoutPayload invoiceNumber
      (s.bapFrontendURL ++ "/policy/" ++ t ++ "?payment=done") amountIDR)) (cs 0) =
      (.response 200 text (.obj (checkoutBody url invoice requestID)) : Reply) := hreply
  have hfields : (Json.obj (checkoutBody url invoice requestID)).fields = checkoutBody url invoice requestID := rfl
  have hrid : ((checkoutBody url invoice requestID).get "payment_request_id").text = requestID := rfl
  unfold callIONCreateCheckout
  rw [if_neg hion]
  dsimp only
  rw [Machine.finish_call_bind, hanswer]
  dsimp only
  rw [if_neg (by decide), hfields, hrid]
  by_cases hempty : requestID = ""
  · rw [if_neg (not_not.2 hempty), if_pos hempty]
    exact ⟨w', rfl, rfl, rfl⟩
  · have hspares : Op.Spares t (.setCheckoutRequestID t requestID) := fun _ _ _ => nofun
    rw [if_pos hempty, if_neg hempty, Machine.finish_call_bind]
    refine ⟨(machine s).asked w' d (.setCheckoutRequestID t requestID) (cs 1), ?_, ?_, rfl⟩
    · exact checkout_exec hspares _ _
    · exact isSome_setCheckoutRequestID ..

/-- An `on_init` that ION answers with a checkout, handled to its end. -/
theorem finish_onInit_checkout (hion : s.ionServiceURL ≠ "") {payload : Fields} (ht : transactionID payload = t)
    (hne : t ≠ "") {cs : Nat → Choice} {text url invoice requestID : String}
    (hreply : (cs 1).reply = .response 200 text (.obj (checkoutBody url invoice requestID))) :
    (CheckoutStored w.store t url invoice requestID cs →
        ((machine s).finish d (handleCallback s "on_init" payload) cs w).2.store.checkout t =
          (some invoice, some (extractTotalIDRFromOnInit payload))) ∧
      (¬CheckoutStored w.store t url invoice requestID cs →
        ((machine s).finish d (handleCallback s "on_init" payload) cs w).2.store.checkout t = w.store.checkout t) := by
  subst ht
  have hprog : handleCallback s "on_init" payload = enrich s payload >>= afterEnrich "on_init" := by
    unfold handleCallback
    rw [if_pos ⟨rfl, hne⟩]
    rfl
  -- first the row, then the checkout of ION, then the statement
  let w₀ := (machine s).asked w d (.upsertTransaction (transactionID payload) "init" "INIT_RECEIVED") (cs 0)
  have hw₀ : w₀.store.checkout (transactionID payload) = w.store.checkout (transactionID payload) :=
    checkout_exec (o := .upsertTransaction ..) (fun _ _ _ => nofun) _ _
  have hrow := isSome_upsertTransaction w.store (transactionID payload) "init" "INIT_RECEIVED" (cs 0) (by decide)
  obtain ⟨w₁, hw₁, hsome, hcreate⟩ := finish_createCheckout (s := s) (d := d) (w := w₀) (t := transactionID payload) hion
    ("ins-" ++ transactionID payload) (extractTotalIDRFromOnInit payload)
    (fun co => storeCheckout payload co >>= afterEnrich "on_init") (fun n => cs (n + 1)) hreply
  have hend : ((machine s).finish d (handleCallback s "on_init" payload) cs w).2.store.checkout (transactionID payload) =
      (exec (.setCheckout (transactionID payload) (.str invoice) (.str url) (extractTotalIDRFromOnInit payload))
        (cs (if requestID = "" then 2 else 3)) w₁.store).2.checkout (transactionID payload) := by
    rw [hprog]
    unfold enrich
    dsimp only
    rw [Machine.finish_call_bind, Prog.bind_assoc]
    refine (congrArg (fun e => e.2.store.checkout (transactionID payload)) hcreate).trans ?_
    show ((machine s).finish d (storeCheckout payload (.ok (checkoutBody url invoice requestID)) >>=
      afterEnrich "on_init") _ w₁).2.store.checkout (transactionID payload) = _
    unfold storeCheckout
    rw [Machine.finish_call_bind]
    refine (finish_checkout (afterEnrich_spares ..) ..).trans ?_
    by_cases hempty : requestID = ""
    · simp only [hempty, if_true]
      rfl
    · simp only [hempty, if_false]
      rfl
  obtain ⟨hstored, hkept⟩ := checkout_setCheckout w₁.store (transactionID payload) url invoice
    (extractTotalIDRFromOnInit payload) (cs (if requestID = "" then 2 else 3))
  have hexists : (w₁.store.transaction (transactionID payload)).isSome = true ↔
      (w.store.transaction (transactionID payload)).isSome = true ∨
        (cs 0).sqlError = none ∧ fitsVarchar 255 (transactionID payload) = true := by
    rw [hsome]
    exact hrow
  rw [hend]
  constructor
  · intro h
    exact hstored ⟨hexists.2 h.row, h.invoice, h.url, h.statement⟩
  · intro h
    refine (hkept ?_).trans (hw₁.trans hw₀)
    rintro ⟨hsome', hinvoice, hurl, hstatement⟩
    exact h ⟨hexists.1 hsome', hinvoice, hurl, hstatement⟩

/-- If the database answers, a notification of ION names the stored amount and the stored invoice. -/
def Forwards (s : ClientService) (k : Config Db Request Op Op.Ans (Except String Fields)) (t invoice : String)
    (amount : ℚ) : Prop :=
  ∀ cs, (cs 0).sqlError = none → ∃ body reply,
    (⟨.post .ionService "payment/notify-direct" body, reply⟩ : Prog.Exchange Op Op.Ans) ∈
        ((machine s).serve k (.paymentReceived t) cs).world.exchanges k.progs.length ∧
      (body.get "invoice_number").text = invoice ∧ (body.get "amount").num? = some amount

theorem forwards_of_checkout {k : Config Db Request Op Op.Ans (Except String Fields)} {invoice : String} {n : Int}
    (hinvoice : invoice ≠ "") (h : k.world.store.checkout t = (some invoice, some n)) : Forwards s k t invoice n := by
  intro cs hc
  obtain ⟨p, hp, hpinvoice⟩ := Option.bind_eq_some_iff.1 (congrArg Prod.fst h)
  have hpamount : p.paymentAmount = some n := by
    have hsnd : (k.world.store.transaction t).bind Transaction.paymentAmount = some n := congrArg Prod.snd h
    rwa [hp, Option.bind_some] at hsnd
  generalize hw : k.world.started k.progs.length (.paymentReceived t) = w
  have hrow : (machine s).answer w (.selectForNotify t) (cs 0) =
      (.ok (invoice, n, p.dokuCheckoutRequestID.getD "") : Except String (String × Int × String)) := by
    subst hw
    simp only [Machine.answer, machine, exec, hc, statement_none, World.started_store, Db.selectTransaction, hp,
      hpinvoice, hpamount, Option.getD_some]
    rfl
  let w₁ := (machine s).asked w k.progs.length (.selectForNotify t) (cs 0)
  let o : Op := .post .ionService "payment/notify-direct" (notifyPayload invoice (p.dokuCheckoutRequestID.getD "") n)
  have hend : ((machine s).serve k (.paymentReceived t) cs).world.exchanges k.progs.length =
      ((machine s).asked w₁ k.progs.length o (cs 1)).exchanges k.progs.length := by
    show ((machine s).finish k.progs.length (notifyPaymentReceived t) cs _).2.exchanges _ = _
    rw [hw]
    unfold notifyPaymentReceived
    rw [Machine.finish_call, hrow]
    dsimp only [Except.toOption, Option.getD_some]
    rw [if_neg hinvoice, Machine.finish_call]
    have hanswer : (machine s).answer w₁ o (cs 1) = (cs 1).reply := rfl
    cases hreply : (cs 1).reply with
    | failed err =>
      rw [hreply] at hanswer
      rw [hanswer]
      rfl
    | response status body json =>
      rw [hreply] at hanswer
      rw [hanswer]
      dsimp only
      split <;> rfl
  rw [hend, Machine.exchanges_asked_self]
  exact ⟨_, _, List.mem_cons_self, rfl, rfl⟩

end

end IonInsurance.Bap
