import IonInsurance.Interleave.Serve
import IonInsurance.Interleave.Protocol
import IonInsurance.Catalog.Service

/-!
# The status of a published catalog

A publish inserts its `PENDING` result after the cataloguing service has taken the message, and the callback of the
service updates every result of the catalog.  So the status that is shown is decided by the last of these writes,
whichever publish it belongs to.
-/

namespace IonInsurance.Catalog

open Interleave Relational

variable {s : CatalogService} {K : CatalogWorld → Action Choice Request Op → Prop}

/-! ### Writes -/

/-- What is written to the results of a catalog. -/
inductive ResultWrite : Type where
  | pending
  | updated (status : String)
  deriving DecidableEq

/-- The write that an operation makes, if it is answered so. -/
def resultWrite? (catalogID : Int) : (o : Op) → o.Ans → Option ResultWrite
  | .insertPending id, .ok () => if id = catalogID then some .pending else none
  | .updateResults id status _ _, .ok () => if id = catalogID then some (.updated status) else none
  | _, _ => none

/-- The writes to the results of a catalog, latest first. -/
def resultWrites (w : CatalogWorld) (catalogID : Int) : List ResultWrite :=
  w.trace.filterMap fun
    | .start .. => none
    | .exec _ _ o a => resultWrite? catalogID o a

/-- The status of the latest result. -/
def latestStatus (db : Db) (catalogID : Int) : Option String :=
  (db.publishResults.latest? fun r => r.catalogID = catalogID).map fun x => x.2.cdsStatus

/-- What a write makes of it. -/
def ResultWrite.apply : ResultWrite → Option String → Option String
  | pending, _ => some "PENDING"
  | updated status, shown => shown.map fun _ => status

theorem cdsStatus_eq (db : Db) (catalogID : Int) : db.cdsStatus catalogID = (latestStatus db catalogID).getD "UNPUBLISHED" :=
  rfl

private theorem latestStatus_insertPending (db : Db) (id catalogID : Int) :
    latestStatus (db.insertPending id).2 catalogID =
      (resultWrite? catalogID (.insertPending id) (db.insertPending id).1).elim (latestStatus db catalogID)
        fun write => write.apply (latestStatus db catalogID) := by
  rcases db.insertPending_cases id with hok | ⟨err, herr⟩
  · rw [hok]
    show Option.map _ ((db.publishResults.insert _).latest? _) = _
    rw [Table.latest?_insert]
    by_cases hid : id = catalogID
    · simp only [resultWrite?, hid, decide_true, if_true, Option.map_some, Option.elim_some, ResultWrite.apply]
    · simp only [resultWrite?, hid, decide_false, Bool.false_eq_true, if_false, Option.elim_none, latestStatus]
  · rw [herr]
    rfl

private theorem latestStatus_updateResults (db : Db) (id catalogID : Int) (status : String) (payload : Fields)
    (now : Time) :
    latestStatus (db.updateResults id status payload now).2 catalogID =
      (resultWrite? catalogID (.updateResults id status payload now) (db.updateResults id status payload now).1).elim
        (latestStatus db catalogID) fun write => write.apply (latestStatus db catalogID) := by
  rcases db.updateResults_cases id status payload now with hok | ⟨err, herr⟩
  · let stamp (r : PublishResult) : PublishResult :=
      { r with cdsStatus := status, resultPayload := payload, publishedAt := some now.toMicro }
    rw [hok]
    by_cases hid : id = catalogID
    · subst hid
      have hlatest : (db.publishResults.update (fun r => r.catalogID = id) stamp).latest? (fun r => r.catalogID = id) =
          (db.publishResults.latest? fun r => r.catalogID = id).map fun x => (x.1, stamp x.2) :=
        Table.latest?_update db.publishResults fun a ha => ha
      simp only [resultWrite?, if_true, Option.elim_some, ResultWrite.apply, latestStatus, hlatest, Option.map_map, stamp]
      rfl
    · have hother : ∀ a : PublishResult, decide (a.catalogID = id) = true →
          decide (a.catalogID = catalogID) = false ∧ decide ((stamp a).catalogID = catalogID) = false := by
        intro a ha
        have hne : a.catalogID ≠ catalogID := by
          rw [of_decide_eq_true ha]
          exact hid
        exact ⟨decide_eq_false hne, decide_eq_false hne⟩
      have hlatest := Table.latest?_update_of_disjoint db.publishResults hother
      simp only [resultWrite?, hid, if_false, Option.elim_none, latestStatus, hlatest, stamp]
  · rw [herr]
    rfl

/-- Every operation changes the latest status as its write does. -/
theorem latestStatus_exec (o : Op) (c : Choice) (db : Db) (catalogID : Int) :
    latestStatus (exec o c db).2 catalogID =
      (resultWrite? catalogID o (exec o c db).1).elim (latestStatus db catalogID)
        fun write => write.apply (latestStatus db catalogID) := by
  cases o with
  | insertPending id =>
    simp only [exec]
    cases c.sqlError with
    | none => exact latestStatus_insertPending db id catalogID
    | some err => rfl
  | updateResults id status payload now =>
    simp only [exec]
    cases c.sqlError with
    | none => exact latestStatus_updateResults db id catalogID status payload now
    | some err => rfl
  | insertProvider | insertCatalog | insertResource | insertOffer | selectCatalog | selectProvider | selectCompanyName
  | selectResources | selectOffers | now | mapOrder | postPublish =>
    show Option.map _ ((exec _ c db).2.publishResults.latest? _) = latestStatus db catalogID
    rw [exec_publishResults rfl]
    rfl

/-! ### Runs -/

theorem resultWrites_asked (w : CatalogWorld) (d : Nat) (o : Op) (c : Choice) (catalogID : Int) :
    resultWrites ((machine s).asked w d o c) catalogID =
      (resultWrite? catalogID o (exec o c w.store).1).toList ++ resultWrites w catalogID := by
  unfold resultWrites
  rw [Machine.asked_trace, List.filterMap_cons]
  have hanswer : (machine s).answer w o c = (exec o c w.store).1 := rfl
  simp only [hanswer]
  cases resultWrite? catalogID o (exec o c w.store).1 <;> rfl

/-- In every reachable state the latest status is what the writes have made of it. -/
theorem latestStatus_run {companyName : Option String} {k : CatalogConfig}
    (hr : (machine s).Runs K (Config.init { companyName := companyName }) k) (catalogID : Int) :
    latestStatus k.world.store catalogID = (resultWrites k.world catalogID).foldr ResultWrite.apply none := by
  induction hr with
  | refl => rfl
  | tail _ hs ih =>
    cases hs with
    | start r hK => exact ih
    | exec c hp hK =>
      rw [resultWrites_asked, List.foldr_append, ← ih, Machine.asked_store]
      refine (latestStatus_exec _ c _ catalogID).trans ?_
      cases resultWrite? catalogID _ _ <;> rfl

/-! ### Publications -/

abbrev Op.answered (o : Op) (a : o.Ans) : Prog.Exchange Op Op.Ans := ⟨o, a⟩

/-- The operation sends nothing to the cataloguing service. -/
def Quiet (o : Op) : Prop := ∀ payload, o ≠ .postPublish payload

/-- A catalog has been read and is published. -/
def Publishes (r : Request) (h : List (Prog.Exchange Op Op.Ans)) (payload : Fields) : Prop :=
  ∃ catalogID row provider resources t₁ t₂ t₃, r = .publishCatalog catalogID ∧
    (Op.selectCatalog catalogID).answered (.ok row) ∈ h ∧
    payload = catalogPublish catalogID defaultBPPID row.name provider resources t₁ t₂ t₃

private theorem create_asks {A : Op → Prop} {p : Task (Except String Int)} (h : p.Asks A) : (create p).Asks A :=
  h.bind fun _ => trivial

private theorem Quiet.of_reads {o : Op} (h : o.Reads) : Quiet o := by
  rintro payload rfl
  exact h

theorem Publishes.mono {r : Request} {h : List (Prog.Exchange Op Op.Ans)} {payload : Fields} (hp : Publishes r h payload)
    (x : Prog.Exchange Op Op.Ans) : Publishes r (x :: h) payload := by
  obtain ⟨catalogID, row, provider, resources, t₁, t₂, t₃, hr, hread, hpayload⟩ := hp
  exact ⟨catalogID, row, provider, resources, t₁, t₂, t₃, hr, List.mem_cons_of_mem _ hread, hpayload⟩

/-- Only a publish sends something, after it has read its catalog. -/
def publishProtocol (s : CatalogService) : Protocol (machine s) where
  asks r h o := ∀ payload, o = .postPublish payload → Publishes r h payload
  returns _ _ _ := True
  follows r := by
    have hquiet : ∀ {p : Task Response} {h}, p.Asks Quiet → p.Follows
        (fun h o => ∀ payload, o = .postPublish payload → Publishes r h payload) (fun _ _ => True) h := by
      intro p h hp
      refine hp.follows (J := fun _ => True) ?_ (fun _ _ _ _ _ => trivial) trivial
      intro _ o _ hq payload ho
      exact absurd ho (hq payload)
    cases r with
    | createProvider => exact hquiet (bound_asks _ (create_asks ⟨by rintro _ ⟨⟩, fun _ => trivial⟩))
    | createCatalog => exact hquiet (bound_asks _ (create_asks ⟨by rintro _ ⟨⟩, fun _ => trivial⟩))
    | createResource => exact hquiet (bound_asks _ (create_asks ⟨by rintro _ ⟨⟩, fun _ => trivial⟩))
    | createOffer => exact hquiet (bound_asks _ (create_asks ⟨by rintro _ ⟨⟩, fun _ => trivial⟩))
    | onPublish => exact hquiet ⟨by rintro _ ⟨⟩, fun _ => ⟨by rintro _ ⟨⟩, fun _ => trivial⟩⟩
    | publishCatalog catalogID =>
      change (publishCatalog s catalogID).Follows _ _ []
      unfold publishCatalog bound
      split
      · refine Prog.follows_call (by rintro _ ⟨⟩) fun a => ?_
        change Except String CatalogRow at a
        cases a with
        | error err => trivial
        | ok row =>
          have hkeeps : ∀ {α : Type} {p : Task α} {h}, p.Asks Quiet →
              (Op.selectCatalog catalogID).answered (.ok row) ∈ h → p.Follows
                (fun h o => ∀ payload, o = .postPublish payload → Publishes (.publishCatalog catalogID) h payload)
                (fun h _ => (Op.selectCatalog catalogID).answered (.ok row) ∈ h) h := by
            intro α p h hp hread
            refine hp.follows ?_ (fun _ _ _ hread _ => List.mem_cons_of_mem _ hread) hread
            intro _ o _ hq payload ho
            exact absurd ho (hq payload)
          have hblock := (providerBlock_reads s defaultBPPID row).mono fun _ => Quiet.of_reads
          refine (hkeeps hblock List.mem_cons_self).bind fun h provider hread => ?_
          refine Prog.follows_call (by rintro _ ⟨⟩) fun a => ?_
          change Except String (Rows (Int × Resource)) at a
          cases a with
          | error err => trivial
          | ok resRows =>
            have hrows := (publishedResources_reads resRows.rows).mono fun _ => Quiet.of_reads
            refine (hkeeps hrows (List.mem_cons_of_mem _ hread)).bind fun h resources hread => ?_
            refine Prog.follows_call (by rintro _ ⟨⟩) fun t₁ => Prog.follows_call (by rintro _ ⟨⟩) fun t₂ =>
              Prog.follows_call (by rintro _ ⟨⟩) fun t₃ => ?_
            refine Prog.follows_call ?_ fun reply => ?_
            · rintro payload ⟨⟩
              refine ⟨catalogID, row, provider, _, t₁, t₂, t₃, rfl, ?_, rfl⟩
              exact List.mem_cons_of_mem _ (List.mem_cons_of_mem _ (List.mem_cons_of_mem _ hread))
            · change Reply at reply
              cases reply with
              | failed err => trivial
              | response status body json =>
                dsimp only
                split
                · trivial
                · refine Prog.follows_call (by rintro _ ⟨⟩) fun a => ?_
                  change Except String Unit at a
                  cases a <;> trivial
      · trivial

/-- In every run, what was sent is a publication of the catalog of its request. -/
theorem publishes_of_sent {db : Db} {k : CatalogConfig} (hr : (machine s).Runs K (Config.init db) k) {d : Nat}
    {r : Request} (hd : k.world.request? d = some r) {payload : Fields} {reply : Reply}
    (hsent : (Op.postPublish payload).answered reply ∈ k.world.exchanges d) :
    Publishes r (k.world.exchanges d) payload := by
  refine (publishProtocol s).history
    (S := fun r h => ∀ payload reply, (Op.postPublish payload).answered reply ∈ h → Publishes r h payload)
    ?_ ?_ hr hd payload reply hsent
  · intro r payload reply hx
    cases hx
  · intro r h o a hS ho payload reply hx
    rcases List.mem_cons.1 hx with hnew | hold
    · cases hnew
      exact (ho payload rfl).mono _
    · exact (hS payload reply hold).mono _

/-! ### Catalogs stay -/

/-- A catalog that has been read is there. -/
theorem catalog_of_read {db : Db} {k : CatalogConfig} (hr : (machine s).Runs K (Config.init db) k) {d : Nat}
    {catalogID : Int} {row : CatalogRow}
    (hread : (Op.selectCatalog catalogID).answered (.ok row) ∈ k.world.exchanges d) :
    ∃ row, (catalogID, row) ∈ k.world.store.catalogs.rows := by
  induction hr generalizing d row with
  | refl => cases hread
  | @tail k₁ _ _ hs ih =>
    cases hs with
    | start r hK => exact ih hread
    | @exec e o next c hp hK =>
      have hstays : ∀ x ∈ k₁.world.store.catalogs.rows, x ∈ (exec o c k₁.world.store).2.catalogs.rows := by
        intro x hx
        rcases exec_catalogs o c k₁.world.store with hsame | ⟨row, hnew⟩
        · rwa [hsame]
        · rw [hnew]
          exact List.mem_append_left _ hx
      rcases Machine.exchange_asked hread with hold | ⟨-, rfl, hanswer⟩
      · obtain ⟨row', hrow⟩ := ih hold
        exact ⟨row', hstays _ hrow⟩
      · refine ⟨row, hstays _ (Table.get?_eq_some_iff.1 ?_)⟩
        change .ok row = (statement c.sqlError _ (found (k₁.world.store.catalogs.get? catalogID), _)).1 at hanswer
        cases hfails : c.sqlError with
        | some err =>
          rw [hfails] at hanswer
          cases hanswer
        | none =>
          rw [hfails] at hanswer
          cases hrow : k₁.world.store.catalogs.get? catalogID with
          | none =>
            rw [hrow] at hanswer
            cases hanswer
          | some row' =>
            rw [hrow] at hanswer
            rw [Except.ok.inj hanswer]

/-! ### What is shown -/

/-- The list of catalogs shows the catalog with that status. -/
def Shows (db : Db) (catalogID : Int) (status : String) : Prop :=
  ∃ c ∈ listCatalogs db, c.id = catalogID ∧ c.cdsStatus = status

theorem shows_iff {db : Db} {catalogID : Int} (h : ∃ row, (catalogID, row) ∈ db.catalogs.rows) (status : String) :
    Shows db catalogID status ↔ db.cdsStatus catalogID = status := by
  constructor
  · intro hshows
    obtain ⟨c, hc, hid, hstatus⟩ := hshows
    obtain ⟨x, -, rfl⟩ := List.mem_map.1 hc
    rw [← hid]
    exact hstatus
  · intro hstatus
    obtain ⟨row, hrow⟩ := h
    exact ⟨_, List.mem_map.2 ⟨_, (List.mem_insertionSort _).2 hrow, rfl⟩, rfl, hstatus⟩

/-- There is a result exactly if a `PENDING` one has been inserted. -/
theorem writes_eq_none_iff (ws : List ResultWrite) : ws.foldr ResultWrite.apply none = none ↔ .pending ∉ ws := by
  induction ws with
  | nil => simp
  | cons w ws ih =>
    rw [List.foldr_cons]
    cases w with
    | pending => simp [ResultWrite.apply]
    | updated status =>
      show Option.map _ _ = none ↔ _
      rw [Option.map_eq_none_iff, ih, List.mem_cons, not_or]
      constructor
      · intro h
        exact ⟨by rintro ⟨⟩, h⟩
      · exact And.right

/-- It has a status of a callback exactly if that is the last write. -/
theorem writes_eq_some_iff (ws : List ResultWrite) {status : String} (h : status ≠ "PENDING") :
    ws.foldr ResultWrite.apply none = some status ↔ ws.head? = some (.updated status) ∧ .pending ∈ ws := by
  cases ws with
  | nil => simp
  | cons w ws =>
    rw [List.foldr_cons, List.head?_cons]
    cases w with
    | pending =>
      constructor
      · intro hpending
        exact absurd (Option.some.inj hpending).symm h
      · intro hupdated
        cases hupdated.1
    | updated status' =>
      have hmem : ResultWrite.pending ∈ ResultWrite.updated status' :: ws ↔ ResultWrite.pending ∈ ws := by simp
      rw [hmem]
      have hsome : ResultWrite.pending ∈ ws ↔ ∃ shown, ws.foldr ResultWrite.apply none = some shown := by
        rw [← Option.ne_none_iff_exists', ne_eq, writes_eq_none_iff, not_not]
      show Option.map _ _ = some status ↔ _
      rw [hsome, Option.map_eq_some_iff]
      constructor
      · rintro ⟨shown, hshown, rfl⟩
        exact ⟨rfl, shown, hshown⟩
      · rintro ⟨hstatus, shown, hshown⟩
        exact ⟨shown, hshown, ResultWrite.updated.inj (Option.some.inj hstatus)⟩

/-! ### Callbacks -/

def Request.publishes : Request → Int → Bool
  | .publishCatalog id, catalogID => id = catalogID
  | _, _ => false

/-- The publish of the catalog whose message was taken last. -/
def latestPublish (w : CatalogWorld) (catalogID : Int) : Option Nat :=
  w.trace.findSome? fun
    | .exec d _ (.postPublish _) (.response status _ _) =>
      if status < 400 ∧ (w.request? d).any (·.publishes catalogID) then some d else none
    | _ => none

/-- The callbacks are those of the cataloguing service: each was provoked by the message of the publish `origin e`
before it, no two by the same, and every message that was taken is answered. -/
structure Callbacks (w : CatalogWorld) (origin : Nat → Nat) : Prop where
  provoked : ∀ e payload older, .start e (.onPublish payload) :: older <:+ w.trace →
    ∃ db sent reply status now, .exec (origin e) db (.postPublish sent) reply ∈ older ∧
      payload = csOnPublish sent status now
  once : ∀ e e' payload payload', w.request? e = some (.onPublish payload) →
    w.request? e' = some (.onPublish payload') → origin e = origin e' → e = e'
  answered : ∀ d sent status body json, (Op.postPublish sent).answered (.response status body json) ∈ w.exchanges d →
    status < 400 → ∃ e payload, w.request? e = some (.onPublish payload) ∧ origin e = d

/-- Every publish and every callback has been processed, and the callback of the latest publish of the catalog carries
that status. -/
structure Settled (k : CatalogConfig) (catalogID : Int) (status : String) : Prop where
  idle : k.Idle
  callback : ∃ origin e payload, Callbacks k.world origin ∧ latestPublish k.world catalogID = some (origin e) ∧
    k.world.request? e = some (.onPublish payload) ∧ (onPublishInput payload).status = status

/-- A catalog whose publish was taken is there. -/
theorem catalog_of_latestPublish {db : Db} {k : CatalogConfig} (hr : (machine s).Runs K (Config.init db) k)
    {catalogID : Int} {d : Nat} (h : latestPublish k.world catalogID = some d) :
    ∃ row, (catalogID, row) ∈ k.world.store.catalogs.rows := by
  obtain ⟨ev, hev, hsome⟩ := List.exists_of_findSome?_eq_some h
  split at hsome
  · rename_i db' sent status body json
    obtain ⟨⟨-, hpublishes⟩, -⟩ := Option.ite_none_right_eq_some.1 hsome
    obtain ⟨r, hd, hcatalog⟩ := (Option.any_eq_true _ _).1 hpublishes
    have hsent := World.mem_exchanges.2 ⟨db', hev⟩
    obtain ⟨id, row, -, -, -, -, -, rfl, hread, -⟩ := publishes_of_sent hr hd hsent
    obtain rfl : id = catalogID := of_decide_eq_true hcatalog
    exact catalog_of_read hr hread
  · cases hsome

/-- The list shows the status of the latest callback exactly if the last write to the results is an update with this
status. -/
theorem publish_status_iff {companyName : Option String} {k : CatalogConfig}
    (hr : (machine s).Runs K (Config.init { companyName := companyName }) k) {catalogID : Int} {status : String}
    (h : Settled k catalogID status) :
    Shows k.world.store catalogID status ∧ status ≠ "PENDING" ↔
      status ≠ "PENDING" ∧
        ((resultWrites k.world catalogID).head? = some (.updated status) ∧
            .pending ∈ resultWrites k.world catalogID ∨
          .pending ∉ resultWrites k.world catalogID ∧ status = "UNPUBLISHED") := by
  obtain ⟨-, origin, e, payload, -, hlatest, -⟩ := h
  have hshown := latestStatus_run hr catalogID
  rw [shows_iff (catalog_of_latestPublish hr hlatest), cdsStatus_eq, hshown, and_comm, and_congr_right_iff]
  intro hne
  rw [← writes_eq_some_iff _ hne, ← writes_eq_none_iff]
  cases (resultWrites k.world catalogID).foldr ResultWrite.apply none with
  | none => simp [eq_comm]
  | some shown => simp

/-! ### Two orders of one publish and its callback -/

private def isCallback : Event Db Request Op Op.Ans → Bool
  | .start _ (.onPublish _) => true
  | _ => false

private def sentBy (d : Nat) : Event Db Request Op Op.Ans → Bool
  | .exec e _ (.postPublish _) _ => e = d
  | _ => true

/-- There is only one place for the only member of a list that passes a test. -/
private theorem eq_of_suffix {α : Type} {test : α → Bool} {newer older ys : List α} {x y : α}
    (h : y :: ys <:+ newer ++ x :: older) (hy : test y = true) (hnewer : newer.any test = false)
    (holder : older.any test = false) : y = x ∧ ys = older := by
  have hother : ∀ {zs : List α}, zs.any test = false → y ∉ zs := by
    intro zs hzs hmem
    exact List.any_eq_false.1 hzs y hmem hy
  obtain ⟨l, hl⟩ := h
  rcases List.append_eq_append_iff.1 hl with ⟨l', hnew, hrest⟩ | ⟨l', -, hrest⟩
  · cases l' with
    | nil => exact List.cons.inj hrest
    | cons z l' =>
      have hmem : y ∈ newer := by
        rw [hnew, (List.cons.inj hrest).1]
        exact List.mem_append_right _ List.mem_cons_self
      exact absurd hmem (hother hnewer)
  · cases l' with
    | nil =>
      obtain ⟨hx, hys⟩ := List.cons.inj hrest
      exact ⟨hx.symm, hys.symm⟩
    | cons z l' =>
      have hmem : y ∈ older := by
        rw [(List.cons.inj hrest).2]
        exact List.mem_append_right _ List.mem_cons_self
      exact absurd hmem (hother holder)

/-- A run with one publish that was taken and one callback, which answers it. -/
private theorem callbacks_of_one {w : CatalogWorld} {newer older : List (Event Db Request Op Op.Ans)} {d e : Nat}
    {payload : Fields} (htrace : w.trace = newer ++ .start e (.onPublish payload) :: older)
    (hnewer : newer.any isCallback = false) (holder : older.any isCallback = false)
    (hrequest : w.request? e = some (.onPublish payload))
    (hsent : ∃ db sent reply status now, .exec d db (.postPublish sent) reply ∈ older ∧
      payload = csOnPublish sent status now)
    (hone : w.trace.all (sentBy d) = true) : Callbacks w fun _ => d := by
  have honly : ∀ e' payload', .start e' (.onPublish payload') ∈ w.trace → e' = e := by
    intro e' payload' hmem
    obtain ⟨l, older', hsplit⟩ := List.append_of_mem hmem
    have hsuffix : .start e' (.onPublish payload') :: older' <:+ newer ++ .start e (.onPublish payload) :: older :=
      ⟨l, hsplit.symm.trans htrace⟩
    have heq := (eq_of_suffix hsuffix rfl hnewer holder).1
    cases heq
    rfl
  constructor
  · intro e' payload' older' hsuffix
    rw [htrace] at hsuffix
    obtain ⟨heq, rfl⟩ := eq_of_suffix hsuffix rfl hnewer holder
    cases heq
    exact hsent
  · intro e₁ e₂ payload₁ payload₂ h₁ h₂ _
    rw [honly e₁ payload₁ (World.start_mem h₁), honly e₂ payload₂ (World.start_mem h₂)]
  · intro d' sent status body json hx _
    obtain ⟨db, hmem⟩ := World.mem_exchanges.1 hx
    have hd : d' = d := of_decide_eq_true (List.all_eq_true.1 hone _ hmem)
    exact ⟨e, payload, hrequest, hd.symm⟩

/-- What is sent of a catalog without a provider, when there are no resources. -/
def publication : Fields :=
  catalogPublish 1 defaultBPPID "Motor" (plainProvider defaultBPPID defaultBPPID) [defaultResource 1 "Motor"] Time.zero
    Time.zero Time.zero

/-- A catalog is created, and its publish has been taken. -/
def taken : List (Machine.Label Choice Request) :=
  [.start (.createCatalog none { name := "Motor" }), .exec 0 {}, .start (.publishCatalog 1)] ++ .replicate 7 (.exec 1 {})

/-- The callback to it. -/
def callback : List (Machine.Label Choice Request) :=
  .start (.onPublish (csOnPublish publication "ACCEPTED" Time.zero)) :: .replicate 2 (.exec 2 {})

def ran (ls : List (Machine.Label Choice Request)) : CatalogConfig :=
  ((machine {}).run? (fun _ _ => true) (Config.init {}) ls).getD (Config.init {})

theorem ran_runs {ls : List (Machine.Label Choice Request)}
    (h : (machine {}).run? (fun _ _ => true) (Config.init {}) ls = some (ran ls)) :
    (machine {}).Runs Machine.anything (Config.init {}) (ran ls) :=
  (Machine.run?_runs h).mono fun _ _ _ => trivial

/-- The publish and its callback have been processed. -/
private theorem settled_ran {ls : List (Machine.Label Choice Request)} (n : Nat)
    (hprogs : (ran ls).progs = [.ret (.created 1), .ret .publishSent, .ret .ack])
    (htrace : (ran ls).world.trace = (ran ls).world.trace.take n ++
      .start 2 (.onPublish (csOnPublish publication "ACCEPTED" Time.zero)) :: (ran ls).world.trace.drop (n + 1))
    (hnewer : ((ran ls).world.trace.take n).any isCallback = false)
    (holder : ((ran ls).world.trace.drop (n + 1)).any isCallback = false)
    (hsent : ∃ db reply, .exec 1 db (.postPublish publication) reply ∈ (ran ls).world.trace.drop (n + 1))
    (hone : (ran ls).world.trace.all (sentBy 1) = true)
    (hrequest : (ran ls).world.request? 2 = some (.onPublish (csOnPublish publication "ACCEPTED" Time.zero)))
    (hlatest : latestPublish (ran ls).world 1 = some 1) : Settled (ran ls) 1 "ACCEPTED" := by
  constructor
  · intro p hp
    rw [hprogs] at hp
    simp only [List.mem_cons, List.not_mem_nil, or_false] at hp
    rcases hp with rfl | rfl | rfl
    · exact ⟨_, rfl⟩
    · exact ⟨_, rfl⟩
    · exact ⟨_, rfl⟩
  · obtain ⟨db, reply, hmem⟩ := hsent
    refine ⟨fun _ => 1, 2, _, ?_, hlatest, hrequest, rfl⟩
    exact callbacks_of_one htrace hnewer holder hrequest ⟨db, _, reply, _, _, hmem, rfl⟩ hone

/-- After its result was inserted, the callback is shown. -/
theorem publish_status_iff_inTurn :
    let k := ran (taken ++ [.exec 1 {}] ++ callback)
    Shows k.world.store 1 "ACCEPTED" ∧ "ACCEPTED" ≠ "PENDING" := by
  intro k
  have hsettled : Settled k 1 "ACCEPTED" :=
    settled_ran 2 rfl rfl rfl rfl ⟨_, _, List.mem_of_getElem? (i := 1) rfl⟩ rfl rfl rfl
  refine (publish_status_iff (s := {}) (ran_runs rfl) hsettled).2 ⟨by decide, .inl ⟨rfl, ?_⟩⟩
  exact List.mem_of_getElem? (i := 1) rfl

/-- A callback that comes before the insert of the result is lost. -/
theorem early_callback_lost :
    ¬∀ (s : CatalogService) (companyName : Option String) (k : CatalogConfig) (catalogID : Int) (status : String),
      (machine s).Runs Machine.anything (Config.init { companyName := companyName }) k →
      Settled k catalogID status → Shows k.world.store catalogID status ∧ status ≠ "PENDING" := by
  intro hall
  have hsettled : Settled (ran (taken ++ callback ++ [.exec 1 {}])) 1 "ACCEPTED" :=
    settled_ran 3 rfl rfl rfl rfl ⟨_, _, List.mem_of_getElem? (i := 0) rfl⟩ rfl rfl rfl
  have hshows := (hall {} none _ 1 "ACCEPTED" (ran_runs rfl) hsettled).1
  rw [shows_iff ⟨_, List.mem_of_getElem? (i := 0) rfl⟩] at hshows
  revert hshows
  decide +kernel

end IonInsurance.Catalog
