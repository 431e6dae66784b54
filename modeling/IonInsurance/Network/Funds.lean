import IonInsurance.Ion.Release
import IonInsurance.Network.Release

/-!
# Funds at DOKU

A release goes from the BPP to ION and from there to DOKU.  ION decodes what the BPP has encoded, and it asks DOKU for
the invoice, the payment and the division of the reconcile.  In a run that calls ION's release at most once for a
transaction, DOKU accepts at most one release of its funds, although ION may ask twice.
-/

namespace IonInsurance.Network

open Interleave

/-! ### The request on the wire -/

/-- The shares of the parties whose bank accounts are configured. -/
def splitsOf (s : Bpp.BecknService) : List Ion.ReleaseSplit :=
  [(s.dokuBPPBankAccountID, (97 : ℚ)), (s.dokuBAPBankAccountID, 2), (s.dokuIONBankAccountID, 1)].filterMap
    fun (account, value) => if account = "" then none else some ⟨account, value, "PERCENTAGE"⟩

/-- The release that a reconcile stands for. -/
def requestFor (s : Bpp.BecknService) (req : Fields) (row : Except String (String × Int)) : Ion.ReleaseRequest where
  invoiceNumber := (Bpp.reconcileInput req).invoiceNumber
  originalRequestID := (row.toOption.getD ("", 0)).1
  amount := Bpp.releaseAmount (Bpp.reconcileInput req).totalAmount (row.toOption.getD ("", 0)).2
  splits := splitsOf s

theorem decodeSplits_releaseSplits (s : Bpp.BecknService) :
    Ion.decodeSplits (.arr (Bpp.releaseSplits s)) = .ok (splitsOf s) := by
  unfold Bpp.releaseSplits splitsOf Ion.decodeSplits
  simp only [List.filterMap_cons, List.filterMap_nil]
  by_cases h₁ : s.dokuBPPBankAccountID = "" <;> by_cases h₂ : s.dokuBAPBankAccountID = "" <;>
    by_cases h₃ : s.dokuIONBankAccountID = "" <;>
    simp only [h₁, h₂, h₃, if_true, if_false] <;> rfl

theorem decodeInt64_int {n m : Int} (h : Ion.decodeInt64 (.int n) = .ok m) : m = n := by
  change (if (n : ℚ).den = 1 ∧ _ ∧ _ then Except.ok (n : ℚ).num else .error _) = .ok m at h
  split at h
  · exact (Except.ok.inj h).symm
  · cases h

/-- ION reads the release that the BPP means, if it reads one. -/
theorem decodeRelease_releaseFor {s : Bpp.BecknService} {req : Fields} {row : Except String (String × Int)}
    {r : Ion.ReleaseRequest} (h : Ion.decodeRelease (.obj (Bpp.releaseFor s req row)) = .ok r) :
    r = requestFor s req row := by
  have hbind : (Ion.decodeInt64 (.int (requestFor s req row).amount) >>= fun amount =>
      Ion.decodeSplits (.arr (Bpp.releaseSplits s)) >>= fun splits =>
        (.ok { requestFor s req row with amount := amount, splits := splits } : Except String _)) = .ok r := h
  cases hamount : Ion.decodeInt64 (.int (requestFor s req row).amount) with
  | error err =>
    rw [hamount] at hbind
    cases hbind
  | ok amount =>
    rw [hamount, decodeSplits_releaseSplits, decodeInt64_int hamount] at hbind
    exact (Except.ok.inj hbind).symm

/-! ### What DOKU is asked -/

/-- The dialogue of ION with DOKU that an event leads to, if it is a release for `t`; `talk d payload` is the dialogue that
the call of delivery `d` leads to. -/
def eventPosts (talk : Nat → Fields → List Ion.DokuExchange) (w : Bpp.BppWorld) (t : String) :
    Event Bpp.Db Bpp.Request Bpp.Op Bpp.Op.Ans → List Ion.DokuExchange
  | .exec d _ (.post .ionService _ payload) _ =>
    if (w.request? d).any fun r => r.transaction = t then talk d payload else []
  | _ => []

def dokuPosts (talk : Nat → Fields → List Ion.DokuExchange) (w : Bpp.BppWorld) (t : String) : List Ion.DokuExchange :=
  w.trace.flatMap (eventPosts talk w t)

/-- ION serves the releases of the BPP: what the BPP is answered is the end of the dialogue with DOKU, or lost. -/
def ServesReleases (talk : Nat → Fields → List Ion.DokuExchange) (w : Bpp.BppWorld) : Prop :=
  ∀ d path payload reply, (Bpp.Op.post .ionService path payload).answered reply ∈ w.exchanges d →
    ∃ b, (Ion.handleRelease "POST" (Ion.decodeRelease (.obj payload))).Dialogue (talk d payload) b ∧
      ∀ status text json, reply = .response status text json → status = b.status

section

variable {talk : Nat → Fields → List Ion.DokuExchange} {w : Bpp.BppWorld} {t : String}

theorem mem_eventPosts {x : Ion.DokuExchange} {ev : Event Bpp.Db Bpp.Request Bpp.Op Bpp.Op.Ans}
    (hx : x ∈ eventPosts talk w t ev) :
    ∃ d r db path payload reply, w.request? d = some r ∧ r.transaction = t ∧
      ev = .exec d db (.post .ionService path payload) reply ∧ x ∈ talk d payload := by
  unfold eventPosts at hx
  split at hx
  · rename_i d db path payload reply
    split at hx
    · rename_i hany
      obtain ⟨r, hr, ht⟩ := (Option.any_eq_true _ _).1 hany
      exact ⟨d, r, db, path, payload, reply, hr, of_decide_eq_true ht, rfl, hx⟩
    · cases hx
  · cases hx

theorem eventPosts_release {d : Nat} {r : Bpp.Request} (hr : w.request? d = some r) (ht : r.transaction = t)
    (db : Bpp.Db) (path : String) (payload : Fields) (reply : Reply) :
    eventPosts talk w t (.exec d db (.post .ionService path payload) reply) = talk d payload := by
  refine if_pos ?_
  rw [hr]
  exact decide_eq_true ht

theorem mem_dokuPosts {x : Ion.DokuExchange} (hx : x ∈ dokuPosts talk w t) :
    ∃ d r path payload reply, w.request? d = some r ∧ r.transaction = t ∧
      (Bpp.Op.post .ionService path payload).answered reply ∈ w.exchanges d ∧ x ∈ talk d payload := by
  obtain ⟨ev, hev, hx⟩ := List.mem_flatMap.1 hx
  obtain ⟨d, r, db, path, payload, reply, hr, ht, rfl, htalk⟩ := mem_eventPosts hx
  exact ⟨d, r, path, payload, reply, hr, ht, World.mem_exchanges.2 ⟨db, hev⟩, htalk⟩

theorem talk_subset {d : Nat} {r : Bpp.Request} {path : String} {payload : Fields} {reply : Reply}
    (hr : w.request? d = some r) (ht : r.transaction = t)
    (hx : (Bpp.Op.post .ionService path payload).answered reply ∈ w.exchanges d) :
    talk d payload ⊆ dokuPosts talk w t := by
  intro x hmem
  obtain ⟨db, hev⟩ := World.mem_exchanges.1 hx
  refine List.mem_flatMap.2 ⟨_, hev, ?_⟩
  exact (eventPosts_release hr ht db path payload reply).symm ▸ hmem

theorem length_flatMap_le {α β γ : Type} {f : α → List β} {g : α → Option γ} {l : List α}
    (h : ∀ x ∈ l, (f x).length ≤ (g x).toList.length) : (l.flatMap f).length ≤ (l.filterMap g).length := by
  induction l with
  | nil => exact Nat.le_refl 0
  | cons x l ih =>
    have hx := h x List.mem_cons_self
    have hl := ih fun y hy => h y (List.mem_cons_of_mem _ hy)
    rw [List.flatMap_cons, List.length_append, List.filterMap_cons]
    cases hg : g x with
    | none =>
      rw [hg] at hx
      exact (Nat.add_le_add hx hl).trans (Nat.le_of_eq (Nat.zero_add _))
    | some y =>
      rw [hg] at hx
      exact (Nat.add_le_add hx hl).trans (Nat.le_of_eq (Nat.add_comm 1 _))

/-- DOKU accepts at most one request for each call of ION's release. -/
theorem acceptedPosts_le (h : ServesReleases talk w) :
    (Ion.acceptedPosts (dokuPosts talk w t)).length ≤ (w.askers (releasesFunds t)).length := by
  unfold Ion.acceptedPosts dokuPosts World.askers
  rw [List.filter_flatMap]
  refine length_flatMap_le fun ev hev => ?_
  rcases List.eq_nil_or_concat' (Ion.acceptedPosts (eventPosts talk w t ev)) with hnil | ⟨l, x, hx⟩
  · exact (congrArg List.length hnil).trans_le (Nat.zero_le _)
  · have hmem : x ∈ Ion.acceptedPosts (eventPosts talk w t ev) := by
      rw [hx]
      exact List.mem_append_right _ (List.mem_singleton_self x)
    obtain ⟨d, r, db, path, payload, reply, hr, ht, rfl, -⟩ := mem_eventPosts (List.mem_of_mem_filter hmem)
    obtain ⟨b, hb, -⟩ := h d path payload reply (World.mem_exchanges.2 ⟨db, hev⟩)
    have hone : (Ion.acceptedPosts (talk d payload)).length ≤ 1 := by
      rw [(Ion.release_orderly _ _ _ _ hb).accepted]
      split <;> omega
    have hevent : eventPosts talk w t (.exec d db (.post .ionService path payload) reply) = talk d payload :=
      eventPosts_release hr ht db path payload reply
    rw [← hevent] at hone
    have hsome : ((w.request? d).any fun r => releasesFunds t r (.post .ionService path payload)) = true := by
      rw [hr]
      exact decide_eq_true ht
    refine hone.trans (Nat.le_of_eq ?_)
    dsimp only
    rw [if_pos hsome]
    rfl

/-- Where the BPP was told that the funds of `t` are released, DOKU has accepted a request for them. -/
theorem accepted_of_told (h : ServesReleases talk w) {d : Nat} {r : Bpp.Request} {path text : String} {payload : Fields}
    {json : Json} (hr : w.request? d = some r) (ht : r.transaction = t)
    (hx : (Bpp.Op.post .ionService path payload).answered (.response 200 text json) ∈ w.exchanges d) :
    0 < (Ion.acceptedPosts (dokuPosts talk w t)).length := by
  obtain ⟨b, hb, hstatus⟩ := h d path payload _ hx
  have hone : (Ion.acceptedPosts (talk d payload)).length = 1 := by
    rw [(Ion.release_orderly _ _ _ _ hb).accepted]
    exact if_pos (hstatus 200 text json rfl).symm
  obtain ⟨x, hmem⟩ := List.exists_mem_of_length_pos (hone.symm ▸ Nat.one_pos)
  obtain ⟨hx', haccepted⟩ := List.mem_filter.1 hmem
  exact List.length_pos_of_mem (List.mem_filter.2 ⟨talk_subset hr ht hx hx', haccepted⟩)

end

/-- A release is the one for the row that its reconcile has read. -/
def ReleasesItsRow (s : Bpp.BecknService) (r : Bpp.Request) (h : Bpp.History) : Prop :=
  ∀ path payload reply, (Bpp.Op.post .ionService path payload).answered reply ∈ h → ∃ req row, r = .reconcile req ∧
    (Bpp.Op.selectForRelease (Bpp.transactionID req)).answered row ∈ h ∧ payload = Bpp.releaseFor s req row

theorem releasesItsRow {s : Bpp.BecknService} {k : Bpp.BppConfig} (hk : Bpp.Reachable s k) {d : Nat} {r : Bpp.Request}
    (hr : k.world.request? d = some r) : ReleasesItsRow s r (k.world.exchanges d) := by
  refine Protocol.history (P := Bpp.protocol s) ?_ ?_ hk hr
  · intro r path payload reply hx
    cases hx
  · intro r h o a hh ho path payload reply hx
    rcases List.mem_cons.1 hx with hnew | hold
    · obtain rfl : o = .post .ionService path payload := (congrArg Sigma.fst hnew).symm
      cases ho with
      | release req row => exact ⟨req, row, rfl, List.mem_cons_of_mem _ (List.mem_singleton_self _), rfl⟩
    · obtain ⟨req, row, hreq, hrow, hpayload⟩ := hh path payload reply hold
      exact ⟨req, row, hreq, List.mem_cons_of_mem _ hrow, hpayload⟩

/-- The release that DOKU is asked for is the one of a reconcile of `t`. -/
def AskedFor (s : Bpp.BecknService) (w : Bpp.BppWorld) (t : String) (post : Ion.DokuPost) : Prop :=
  ∃ d req row, w.request? d = some (.reconcile req) ∧ Bpp.transactionID req = t ∧
    (Bpp.Op.selectForRelease t).answered row ∈ w.exchanges d ∧
    ∃ withSplits, post = (requestFor s req row).post withSplits

theorem askedFor_of_mem {s : Bpp.BecknService} {k : Bpp.BppConfig} (hk : Bpp.Reachable s k)
    {talk : Nat → Fields → List Ion.DokuExchange} (hion : ServesReleases talk k.world) {t : String}
    {x : Ion.DokuExchange} (hx : x ∈ dokuPosts talk k.world t) : AskedFor s k.world t x.1 := by
  obtain ⟨d, r, path, payload, reply, hr, rfl, hex, htalk⟩ := mem_dokuPosts hx
  obtain ⟨req, row, rfl, hrow, rfl⟩ := releasesItsRow hk hr path payload reply hex
  obtain ⟨b, hb, -⟩ := hion d path _ reply hex
  obtain ⟨-, q, hq, hpost⟩ := (Ion.release_orderly _ _ _ _ hb).asked x htalk
  obtain rfl := decodeRelease_releaseFor hq
  refine ⟨d, req, row, hr, rfl, hrow, ?_⟩
  rcases hpost with hfull | ⟨hbare, -⟩
  · exact ⟨true, hfull⟩
  · exact ⟨false, hbare⟩

/-- The BPP was told that the funds of `t` are released. -/
def ToldReleased (w : Bpp.BppWorld) (t : String) : Prop :=
  ∃ d r path payload text json, w.request? d = some r ∧ r.transaction = t ∧
    (Bpp.Op.post .ionService path payload).answered (.response 200 text json) ∈ w.exchanges d

/-- If the BAP is told once of the issued policy of `t`, and the network delivers no more reconciles of `t` than were
sent, DOKU accepts at most one release of its funds, and one if the BPP was told so.  What DOKU is asked for is the
release of a reconcile of `t` and of the row that it has read. -/
theorem funds_released_once (s₁ : Bap.ClientService) (s₂ : Bpp.BecknService) (t : String) (k : NetConfig)
    (talk : Nat → Fields → List Ion.DokuExchange) (h : ((rules s₁ s₂).and (deliveredOnce s₁ s₂ t)).Runs start k)
    (hion : ServesReleases talk k.2.world) :
    (Ion.acceptedPosts (dokuPosts talk k.2.world t)).length ≤ 1 ∧
      (ToldReleased k.2.world t → (Ion.acceptedPosts (dokuPosts talk k.2.world t)).length = 1) ∧
      ∀ x ∈ dokuPosts talk k.2.world t, AskedFor s₂ k.2.world t x.1 := by
  have hle : (Ion.acceptedPosts (dokuPosts talk k.2.world t)).length ≤ 1 :=
    (acceptedPosts_le hion).trans (chain_of_runs h).releases_le
  refine ⟨hle, ?_, fun x hx => askedFor_of_mem h.snd hion hx⟩
  rintro ⟨d, r, path, payload, text, json, hr, ht, hx⟩
  exact Nat.le_antisymm hle (accepted_of_told hion hr ht hx)

/-- A run whose steps pass the tests keeps the deliveries of `t` apart. -/
theorem deliveredOnce_of_tests {s₁ : Bap.ClientService} {s₂ : Bpp.BecknService} {t : String} {k : NetConfig}
    (h : ((rules s₁ s₂).and (tests s₁ s₂ (toldOnce t) (reconciledOnce t))).Runs start k) :
    ((rules s₁ s₂).and (deliveredOnce s₁ s₂ t)).Runs start k := by
  refine Rules.Runs.mono (fun w₂ w₁ a h => ?_) (fun w₁ w₂ a h => ?_) h
  · refine ⟨h.1, ?_⟩
    cases a with
    | exec => trivial
    | start r =>
      intro hP
      have htest : (!reportsPolicy t r || (w₁.starters (reportsPolicy t)).isEmpty) = true := h.2
      rw [hP] at htest
      exact List.isEmpty_iff.1 htest
  · refine ⟨h.1, ?_⟩
    cases a with
    | exec => trivial
    | start r =>
      intro hP
      have htest : (!isReconcile t r || decide ((w₂.starters (isReconcile t)).length <
        (w₁.askers (sendsReconcile t)).length)) = true := h.2
      rw [hP] at htest
      exact of_decide_eq_true htest

/-- A DOKU that does not know the bank accounts. -/
def unknownAccounts (post : Ion.DokuPost) : Ion.DokuReply :=
  if Fields.has post.payload "override_settlement" then
    ⟨"q-1", .response 400 "" (.obj [("error", .obj [("code", .str "data_not_found")])])⟩
  else ⟨"q-2", .status 200⟩

/-- The dialogue with this DOKU and its end. -/
def servedRelease (payload : Fields) : List Ion.DokuExchange × Ion.ReleaseAnswer :=
  (Ion.handleRelease "POST" (Ion.decodeRelease (.obj payload))).dialogue unknownAccounts

/-- What the BPP is answered in this event is what ION answers after this dialogue. -/
def answersRelease : Event Bpp.Db Bpp.Request Bpp.Op Bpp.Op.Ans → Bool
  | .exec _ _ (.post .ionService _ payload) (.response status _ _) => status = (servedRelease payload).2.status
  | _ => true

/-- The BPP is told of the release of `t` in this event. -/
private def tellsReleased (w : Bpp.BppWorld) (t : String) : Event Bpp.Db Bpp.Request Bpp.Op Bpp.Op.Ans → Bool
  | .exec d _ (.post .ionService _ _) (.response status _ _) =>
    status = 200 && (w.request? d).any fun r => r.transaction = t
  | _ => false

theorem servesReleases_of_answers {w : Bpp.BppWorld} (h : w.trace.all answersRelease = true) :
    ServesReleases (fun _ payload => (servedRelease payload).1) w := by
  intro d path payload reply hx
  refine ⟨_, Prog.dialogue_spec unknownAccounts _, ?_⟩
  rintro status text json rfl
  obtain ⟨db, hev⟩ := World.mem_exchanges.1 hx
  exact of_decide_eq_true (List.all_eq_true.1 h _ hev)

private theorem toldReleased_of_any {w : Bpp.BppWorld} {t : String} (h : w.trace.any (tellsReleased w t) = true) :
    ToldReleased w t := by
  obtain ⟨ev, hev, htold⟩ := List.any_eq_true.1 h
  unfold tellsReleased at htold
  split at htold
  · rename_i d db path payload status text json
    obtain ⟨hstatus, hany⟩ := Bool.and_eq_true_iff.1 htold
    obtain rfl := of_decide_eq_true hstatus
    obtain ⟨r, hr, ht⟩ := (Option.any_eq_true _ _).1 hany
    exact ⟨d, r, path, payload, text, json, hr, of_decide_eq_true ht, World.mem_exchanges.2 ⟨db, hev⟩⟩
  · cases htold

/-- A settlement with the bank account of the BPP, which DOKU does not know. -/
theorem funds_released_once_settled : ∃ (k : NetConfig) (talk : Nat → Fields → List Ion.DokuExchange),
    (dokuPosts talk k.2.world "txn-0001").length = 2 ∧
      (Ion.acceptedPosts (dokuPosts talk k.2.world "txn-0001")).length = 1 ∧
      ∀ x ∈ dokuPosts talk k.2.world "txn-0001", AskedFor { dokuBPPBankAccountID := "BNK-1" } k.2.world "txn-0001" x.1 := by
  have hrun : ((run? {} { dokuBPPBankAccountID := "BNK-1" } (toldOnce "txn-0001") (reconciledOnce "txn-0001") start
      (settleSchedule "txn-0001")).any fun k => k.2.world.trace.all answersRelease &&
        k.2.world.trace.any (tellsReleased k.2.world "txn-0001") &&
        (dokuPosts (fun _ payload => (servedRelease payload).1) k.2.world "txn-0001").length == 2) = true := by
    decide +kernel
  obtain ⟨k, hk, hend⟩ := (Option.any_eq_true _ _).1 hrun
  simp only [Bool.and_eq_true] at hend
  obtain ⟨⟨hanswers, htells⟩, htwo⟩ := hend
  obtain ⟨-, hone, hasked⟩ := funds_released_once {} { dokuBPPBankAccountID := "BNK-1" } "txn-0001" k _
    (deliveredOnce_of_tests (run?_runs hk)) (servesReleases_of_answers hanswers)
  exact ⟨k, _, eq_of_beq htwo, hone (toldReleased_of_any htells), hasked⟩

end IonInsurance.Network
