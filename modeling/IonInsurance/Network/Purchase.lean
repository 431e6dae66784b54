import IonInsurance.Bpp.Polling
import IonInsurance.Network.Rules
import IonInsurance.Pages.Flow

/-!
# Purchases

Any number of pages buy policies over the network.  A page polls the BPP itself, and it confirms through the BAP; the
answers to its polls arrive late, in any order, more than once or never.  A confirm reaches the BPP after a poll that
was answered there, so it finds the payment, and no buyer is refused for a payment that is missing.
-/

namespace IonInsurance.Network

open Interleave Pages

/-! ### Pages, polls and the two services -/

/-- The open pages, the answers of the BPP to polls, the confirms that pages have sent, and the two services. -/
structure Shop where
  pages : List PolicyFlow
  polled : List (String × Fields)
  posted : List Fields
  net : NetConfig

def Shop.start : Shop := ⟨[], [], [], Network.start⟩

/-- The confirms among the requests of a page. -/
def confirmsIn (calls : List Call) : List Fields :=
  calls.filterMap fun
    | .confirm body => some body
    | _ => none

/-- The BAP takes the confirms that pages have sent. -/
def confirmsFrom (s₁ : Bap.ClientService) (s₂ : Bpp.BecknService) (posted : List Fields) :
    Rules (Bap.machine s₁) (Bpp.machine s₂) where
  left
    | _, _, .start (.confirm req) => req ∈ posted
    | _, _, _ => True
  right _ _ _ := True

/-- A page is opened, the BPP answers a poll, something happens to a page, or one of the services takes a step. -/
inductive Shop.Step (s₁ : Bap.ClientService) (s₂ : Bpp.BecknService) (x : Shop) : Shop → Prop where
  | opened (product : Product) (urlTxnId : String) (payment : Option String) :
      Step s₁ s₂ x { x with pages := (PolicyFlow.opened product (returnedTxn urlTxnId payment)).1 :: x.pages }
  | poll {t : String} {c : Bpp.Choice} {m : Fields} (h : Bpp.getPaymentStatus x.net.2.world.store t c = .ok m) :
      Step s₁ s₂ x { x with polled := (t, m) :: x.polled }
  | page {i : Nat} {page page' : PolicyFlow} {ev : Pages.Event} {calls : List Call} (hi : x.pages[i]? = some page)
      (hs : page.step? ev = some (page', calls))
      (hev : ∀ status, ev = .polled status → ∃ t m, page.actualTxnId = some t ∧ (t, m) ∈ x.polled ∧ status = .obj m) :
      Step s₁ s₂ x { x with pages := x.pages.set i page', posted := confirmsIn calls ++ x.posted }
  | net {n : NetConfig} (h : ((rules s₁ s₂).and (confirmsFrom s₁ s₂ x.posted)).Step x.net n) :
      Step s₁ s₂ x { x with net := n }

def Shop.Runs (s₁ : Bap.ClientService) (s₂ : Bpp.BecknService) : Shop → Shop → Prop :=
  Relation.ReflTransGen (Shop.Step s₁ s₂)

/-! ### Confirms of the BAP -/

/-- A confirm is forwarded under the transaction that its form names. -/
theorem confirm_names {s : Bap.ClientService} {req : Fields} (hne : Bap.formTransactionID req ≠ "") :
    ((Bap.machine s).handler (.confirm req)).Asks fun o =>
      ∀ payload, o = .post .onixBAPCaller "confirm" payload → Bap.transactionID payload = Bap.formTransactionID req := by
  have hlocal : ∀ o : Bap.Op, o.isLocal = true → ∀ payload, o = .post .onixBAPCaller "confirm" payload →
      Bap.transactionID payload = Bap.formTransactionID req := by
    rintro o ho payload rfl
    cases ho
  change (Bap.confirm s req).Asks _
  unfold Bap.confirm Bap.extractOrNew
  rw [if_neg hne]
  refine ⟨hlocal _ rfl, fun msgID => ?_⟩
  change Prog.Asks _ (if (Bap.formTransactionID req).utf8ByteSize < 8 then _ else _)
  split
  · trivial
  · refine ⟨hlocal _ rfl, fun now => ⟨?_, fun _ => (Bap.forwardAndWait_asks hlocal ?_ s).bind fun result => ?_⟩⟩
    · rintro payload ⟨⟩
    · rintro payload ⟨⟩
      rfl
    · cases result <;> trivial

/-- A request that forwards a confirm is one. -/
def ForwardsConfirm (r : Bap.Request) (h : Bap.History) : Prop :=
  ∀ payload, ∀ a : Reply, (⟨.post .onixBAPCaller "confirm" payload, a⟩ : Bap.Exchange) ∈ h → ∃ req, r = .confirm req

/-- Who sends a confirm was started for one, and names its transaction. -/
theorem confirm_of_asked {s : Bap.ClientService} {k : Bap.BapConfig}
    (hk : (Bap.machine s).Runs Machine.anything Bap.start k) {payload : Fields}
    (h : k.world.Asked (.post .onixBAPCaller "confirm" payload)) :
    ∃ d req, k.world.request? d = some (.confirm req) ∧
      (Bap.formTransactionID req ≠ "" → Bap.transactionID payload = Bap.formTransactionID req) := by
  obtain ⟨d, a, hx⟩ := h
  have hobeyed : (Bap.protocol s).Obeyed k := (Protocol.Obeyed.init _).run hk
  obtain ⟨r, hr⟩ := hobeyed.requested hx
  have hforwards : ForwardsConfirm r (k.world.exchanges d) := by
    refine Protocol.history (P := Bap.protocol s) ?_ ?_ hk hr
    · intro r payload a hmem
      cases hmem
    · intro r h o a hh ho payload' a' hmem
      rcases List.mem_cons.1 hmem with hnew | hold
      · obtain rfl : o = .post .onixBAPCaller "confirm" payload' := (congrArg Sigma.fst hnew).symm
        cases ho with
        | quiet _ _ hq => cases hq
        | forward hf =>
          cases r with
          | confirm req => exact ⟨req, rfl⟩
          | _ => simp [Bap.Request.forwards] at hf
      · exact hh payload' a' hold
  obtain ⟨req, rfl⟩ := hforwards payload a hx
  exact ⟨d, req, hr, fun hne => Machine.asked_of_asks (confirm_names hne) hk hr hx payload rfl⟩

/-! ### Confirms of the BPP -/

/-- The confirms that are delivered are of transactions that are paid. -/
def deliversPaid (w : Bpp.BppWorld) : Action Bpp.Choice Bpp.Request Bpp.Op → Prop
  | .start (.confirm req) => w.store.Paid (Bpp.transactionID req)
  | _ => True

/-- The page names no empty transaction, and it shows a payment only if its transaction is paid. -/
structure PageSound (paid : String → Prop) (page : PolicyFlow) : Prop where
  named : page.actualTxnId ≠ some ""
  shown : ∀ b seamStatus, page.view = .payment b seamStatus → paymentReceived seamStatus = true →
    ∃ t, page.actualTxnId = some t ∧ paid t

theorem PageSound.mono {paid paid' : String → Prop} {page : PolicyFlow} (h : PageSound paid page)
    (hp : ∀ t, paid t → paid' t) : PageSound paid' page := by
  refine ⟨h.named, fun b seamStatus hv hr => ?_⟩
  obtain ⟨t, ht, hpaid⟩ := h.shown b seamStatus hv hr
  exact ⟨t, ht, hp t hpaid⟩

theorem pageSound_opened (paid : String → Prop) (product : Product) (urlTxnId : String) (payment : Option String) :
    PageSound paid (PolicyFlow.opened product (returnedTxn urlTxnId payment)).1 := by
  unfold returnedTxn
  by_cases h : urlTxnId ≠ "" ∧ payment = some "done"
  · rw [if_pos h]
    refine ⟨fun heq => h.1 (Option.some.inj heq), ?_⟩
    rintro b seamStatus ⟨⟩ hr
    cases hr
  · rw [if_neg h]
    refine ⟨?_, ?_⟩
    · rintro ⟨⟩
    · rintro b seamStatus ⟨⟩

theorem txnIdOf_ne (res : Json) : txnIdOf res ≠ some "" := by
  unfold txnIdOf
  split
  · split
    · rintro ⟨⟩
    · rename_i hne
      intro heq
      exact hne (Option.some.inj heq)
  · rintro ⟨⟩

theorem formTransactionID_confirmForm {t : String} (ht : t ≠ "") (amount : Json) :
    Bap.formTransactionID (Pages.confirmForm t amount) = t := by
  simp [Bap.formTransactionID, Bap.stringOrDefault, Pages.confirmForm, ht]

/-- The confirm names a transaction that is paid. -/
def NamesPaid (paid : String → Prop) (req : Fields) : Prop :=
  Bap.formTransactionID req ≠ "" ∧ paid (Bap.formTransactionID req)

/-- If the polls of a page are right, so is what it shows and what it confirms. -/
theorem PageSound.step {paid : String → Prop} {page page' : PolicyFlow} {ev : Pages.Event} {calls : List Call}
    (h : PageSound paid page) (hs : Pages.Step page ev page' calls)
    (hev : ∀ status, ev = .polled status → paymentReceived status = true → ∃ t, page.actualTxnId = some t ∧ paid t) :
    PageSound paid page' ∧ ∀ req ∈ confirmsIn calls, NamesPaid paid req := by
  have hnone : ∀ req ∈ confirmsIn [], NamesPaid paid req := by
    rintro req ⟨⟩
  cases hs with
  | selected res hv => exact ⟨⟨txnIdOf_ne res, by rintro b status ⟨⟩⟩, hnone⟩
  | initialised res hv => exact ⟨⟨h.named, by rintro b status ⟨⟩ hr; cases hr⟩, hnone⟩
  | polled status hv ht => exact ⟨⟨h.named, by rintro b status' ⟨⟩ hr; exact hev _ rfl hr⟩, hnone⟩
  | @paid seamStatus txnId hv ht hr =>
    obtain ⟨t, ht', hpaid⟩ := h.shown _ _ hv hr
    obtain rfl := Option.some.inj (ht.symm.trans ht')
    have hne : txnId ≠ "" := by
      rintro rfl
      exact h.named ht
    refine ⟨⟨h.named, ?_⟩, ?_⟩
    · rintro b status ⟨⟩ -
      exact ⟨txnId, ht, hpaid⟩
    · intro req hreq
      rw [List.mem_singleton.1 hreq]
      unfold NamesPaid
      rw [formTransactionID_confirmForm hne]
      exact ⟨hne, hpaid⟩
  | confirmFailed hv => exact ⟨⟨h.named, by rintro b status ⟨⟩ hr; exact h.shown _ _ hv hr⟩, hnone⟩
  | badNik => exact ⟨h, hnone⟩
  | tick | statusTick =>
    refine ⟨h, ?_⟩
    rintro req ⟨⟩
  | submitVehicle | submitKyc | submitRating | submitSupport =>
    refine ⟨⟨h.named, by rintro b status ⟨⟩⟩, ?_⟩
    rintro req ⟨⟩
  | _ => exact ⟨⟨h.named, by rintro b status ⟨⟩⟩, hnone⟩

/-! ### What the shop knows of its payments -/

theorem paid_of_polled {s : Bpp.Db} {t : String} {c : Bpp.Choice} {m : Fields}
    (h : Bpp.getPaymentStatus s t c = .ok m) (hr : paymentReceived (.obj m) = true) : s.Paid t := by
  obtain ⟨p, hp, hreceived, -⟩ := Bpp.getPaymentStatus_ok h
  refine Bpp.paid_of_poll h ?_
  change truthy (Fields.get m "payment_received") = true at hr
  rw [hreceived] at hr ⊢
  exact congrArg Json.bool hr

/-- Whatever says that a payment was received is right: a poll, the page that shows it, and a confirm on its way. -/
structure Sound (x : Shop) : Prop where
  polled : ∀ t m, (t, m) ∈ x.polled → paymentReceived (.obj m) = true → x.net.2.world.store.Paid t
  pages : ∀ page ∈ x.pages, PageSound x.net.2.world.store.Paid page
  posted : ∀ req ∈ x.posted, NamesPaid x.net.2.world.store.Paid req
  confirms : ∀ d req, x.net.1.world.request? d = some (.confirm req) → NamesPaid x.net.2.world.store.Paid req

/-- The two services before and after a run of the shop. -/
structure Served (s₁ : Bap.ClientService) (s₂ : Bpp.BecknService) (x : Shop) : Prop where
  sound : Sound x
  bap : (Bap.machine s₁).Runs Machine.anything Bap.start x.net.1
  bpp : (Bpp.machine s₂).Runs deliversPaid Bpp.start x.net.2

section

variable {s₁ : Bap.ClientService} {s₂ : Bpp.BecknService} {x : Shop}

theorem Served.bapStep (h : Served s₁ s₂ x) {k : Bap.BapConfig}
    (hs : (Bap.machine s₁).Step ((confirmsFrom s₁ s₂ x.posted).left x.net.2.world) x.net.1 k) :
    Served s₁ s₂ { x with net := (k, x.net.2) } := by
  refine ⟨⟨h.sound.polled, h.sound.pages, h.sound.posted, ?_⟩, .tail h.bap (Machine.Step.mono (fun _ _ _ => trivial) hs),
    h.bpp⟩
  intro d req hreq
  cases hs with
  | start r hK =>
    rcases World.request?_of_started hreq with ⟨-, rfl⟩ | hold
    · exact h.sound.posted req hK
    · exact h.sound.confirms d req hold
  | exec c hp hK => exact h.sound.confirms d req hreq

/-- A confirm that is delivered to the BPP is of a transaction that is paid. -/
theorem Served.delivers (h : Served s₁ s₂ x) {req : Fields}
    (hposted : PostedByBap x.net.1.world .onixBAPCaller "confirm" req) :
    x.net.2.world.store.Paid (Bpp.transactionID req) := by
  obtain ⟨m, hasked, rfl⟩ := hposted
  rw [transactionID_received]
  obtain ⟨d, form, hr, hnames⟩ := confirm_of_asked h.bap hasked
  obtain ⟨hne, hpaid⟩ := h.sound.confirms d form hr
  rw [← hnames hne] at hpaid
  exact hpaid

theorem Served.bppStep (h : Served s₁ s₂ x) {k : Bpp.BppConfig}
    (hs : (Bpp.machine s₂).Step (bppMay x.net.1.world) x.net.2 k) : Served s₁ s₂ { x with net := (x.net.1, k) } := by
  have hpaid : ∀ t, x.net.2.world.store.Paid t → k.world.store.Paid t := by
    intro t ht
    cases hs with
    | start => exact ht
    | exec c => exact ht.exec _ c
  have hdelivers : (Bpp.machine s₂).Step deliversPaid x.net.2 k := by
    cases hs with
    | start r hK =>
      refine .start r ?_
      cases r with
      | confirm req => exact h.delivers (hK _ _ _ rfl)
      | _ => trivial
    | exec c hp hK => exact .exec c hp trivial
  refine ⟨⟨?_, ?_, ?_, ?_⟩, h.bap, .tail h.bpp hdelivers⟩
  · exact fun t m hm hr => hpaid t (h.sound.polled t m hm hr)
  · exact fun page hmem => (h.sound.pages page hmem).mono hpaid
  · exact fun req hreq => ⟨(h.sound.posted req hreq).1, hpaid _ (h.sound.posted req hreq).2⟩
  · exact fun d req hreq => ⟨(h.sound.confirms d req hreq).1, hpaid _ (h.sound.confirms d req hreq).2⟩

theorem Served.step (h : Served s₁ s₂ x) {x' : Shop} (hs : Shop.Step s₁ s₂ x x') : Served s₁ s₂ x' := by
  cases hs with
  | opened product urlTxnId payment =>
    refine ⟨⟨h.sound.polled, ?_, h.sound.posted, h.sound.confirms⟩, h.bap, h.bpp⟩
    intro page hmem
    rcases List.mem_cons.1 hmem with rfl | hmem
    · exact pageSound_opened _ product urlTxnId payment
    · exact h.sound.pages page hmem
  | @poll t c m hpoll =>
    refine ⟨⟨?_, h.sound.pages, h.sound.posted, h.sound.confirms⟩, h.bap, h.bpp⟩
    intro t' m' hmem hr
    rcases List.mem_cons.1 hmem with heq | hmem
    · obtain ⟨rfl, rfl⟩ := Prod.mk.inj heq
      exact paid_of_polled hpoll hr
    · exact h.sound.polled t' m' hmem hr
  | @page i page page' ev calls hi hs hev =>
    have hpolled : ∀ status, ev = .polled status → paymentReceived status = true →
        ∃ t, page.actualTxnId = some t ∧ x.net.2.world.store.Paid t := by
      intro status heq hr
      obtain ⟨t, m, ht, hm, rfl⟩ := hev status heq
      exact ⟨t, ht, h.sound.polled t m hm hr⟩
    obtain ⟨hpage, hcalls⟩ := (h.sound.pages page (List.mem_of_getElem? hi)).step (step_of_step? hs) hpolled
    refine ⟨⟨h.sound.polled, ?_, ?_, h.sound.confirms⟩, h.bap, h.bpp⟩
    · intro q hmem
      rcases List.mem_or_eq_of_mem_set hmem with hold | rfl
      · exact h.sound.pages q hold
      · exact hpage
    · intro req hreq
      rcases List.mem_append.1 hreq with hnew | hold
      · exact hcalls req hnew
      · exact h.sound.posted req hold
  | net hs =>
    obtain ⟨pages, polled, posted, k₁, k₂⟩ := x
    cases hs with
    | left hs => exact h.bapStep (Machine.Step.mono (fun _ _ hK => hK.2) hs)
    | right hs => exact h.bppStep (Machine.Step.mono (fun _ _ hK => hK.1) hs)

end

theorem served_start (s₁ : Bap.ClientService) (s₂ : Bpp.BecknService) : Served s₁ s₂ Shop.start := by
  refine ⟨⟨?_, ?_, ?_, ?_⟩, .refl, .refl⟩
  · rintro t m ⟨⟩
  · rintro page ⟨⟩
  · rintro req ⟨⟩
  · rintro d req ⟨⟩

theorem Shop.Runs.served {s₁ : Bap.ClientService} {s₂ : Bpp.BecknService} {x : Shop} (h : Shop.Runs s₁ s₂ Shop.start x) :
    Served s₁ s₂ x := by
  induction h with
  | refl => exact served_start s₁ s₂
  | tail _ hs ih => exact ih.step hs

private def isOnConfirm : Bpp.Exchange → Bool
  | ⟨.post .onixBPPCaller action _, _⟩ => action = "on_confirm"
  | _ => false

end IonInsurance.Network
