import IonInsurance.Bpp.Ratings
import IonInsurance.Relational.Keyed
import IonInsurance.Relational.LeftJoin

/-!
# What the insurer is told of its policies

`ListRatings` and `ListSupportTickets` join their table with `policies` on the id of the policy.  A rating is stored for
a policy that was found, and a ticket without one if there was none.  Ids are unique, so each list has one entry for
each row of its table, and it names the transaction whose message stored that row.
-/

namespace IonInsurance.Bpp

open Interleave Relational

/-! ### The lists -/

/-- An entry of `ListRatings`, without the id and the time of the rating. -/
structure RatingRow where
  policyID : Int
  policyNumber : String
  transactionID : String
  score : Int
  feedback : String

/-- An entry of `ListSupportTickets`, without its id, its time, and its status, which is always the default. -/
structure SupportTicketRow where
  policyID : Option Int
  policyNumber : String
  transactionID : String
  description : String

/-- `LEFT JOIN policies p ON p.id = …`. -/
def Db.policiesWithID (s : Db) (policyID : Option Int) : List (Sigma fun _ : String => Policy) :=
  s.policies.entries.filter fun e => some e.2.id = policyID

/-- `COALESCE(p.policy_number,'')`, `COALESCE(p.transaction_id,'')`. -/
def joinedNumber (e : Option (Sigma fun _ : String => Policy)) : String := (e.bind fun e => e.2.policyNumber).getD ""

def joinedTransaction (e : Option (Sigma fun _ : String => Policy)) : String := (e.map Sigma.fst).getD ""

/-- `ORDER BY created_at DESC`: the rows stand in the order of their insertion. -/
def listRatings (s : Db) : List RatingRow :=
  ((leftJoin s.ratings fun r => s.policiesWithID (some r.policyID)).map fun (r, p) =>
    ⟨r.policyID, joinedNumber p, joinedTransaction p, r.score, r.feedback⟩).reverse

def listSupportTickets (s : Db) : List SupportTicketRow :=
  ((leftJoin s.supportTickets fun t => s.policiesWithID t.policyID).map fun (t, p) =>
    ⟨t.policyID, joinedNumber p, joinedTransaction p, t.description⟩).reverse

/-! ### What an operation adds -/

/-- The ratings and the tickets of two databases are the same. -/
structure Db.SameFeedback (s s' : Db) : Prop where
  ratings : s'.ratings = s.ratings
  tickets : s'.supportTickets = s.supportTickets

theorem sameFeedback_refl (s : Db) : s.SameFeedback s := ⟨rfl, rfl⟩

theorem sameFeedback_updatePolicy (s : Db) (t : String) (f : Policy → Policy) : s.SameFeedback (s.updatePolicy t f) := by
  unfold Db.updatePolicy
  split
  · exact ⟨rfl, rfl⟩
  · exact sameFeedback_refl s

/-- All operations but two leave the ratings and the tickets alone. -/
theorem sameFeedback_exec {o : Op} (hrating : ∀ id score feedback, o ≠ .insertRating id score feedback)
    (hticket : ∀ id description, o ≠ .insertTicket id description) (c : Choice) (s : Db) :
    s.SameFeedback (exec o c s).2 := by
  have hstatement : ∀ {α : Type} (run : Except String α × Db), s.SameFeedback run.2 →
      s.SameFeedback (statement c.sqlError s run).2 :=
    fun run h => statement_keeps _ (sameFeedback_refl s) h
  cases o with
  | insertRating id score feedback => exact absurd rfl (hrating id score feedback)
  | insertTicket id description => exact absurd rfl (hticket id description)
  | insertPolicy =>
    refine hstatement _ ?_
    unfold Db.insertPolicy
    split
    · split
      · exact sameFeedback_updatePolicy ..
      · exact ⟨rfl, rfl⟩
    · exact sameFeedback_refl s
  | activatePolicy =>
    refine hstatement _ ?_
    unfold Db.activatePolicy
    split
    · exact sameFeedback_updatePolicy ..
    · exact sameFeedback_refl s
  | markPaid t rid =>
    refine hstatement _ ?_
    unfold Db.markPaid
    cases rid with
    | none => exact sameFeedback_updatePolicy ..
    | some rid =>
      dsimp only
      split
      · exact sameFeedback_updatePolicy ..
      · exact sameFeedback_refl s
  | insertPayment =>
    refine hstatement _ ?_
    unfold Db.insertPayment
    split
    · exact ⟨rfl, rfl⟩
    · exact sameFeedback_refl s
  | markSettled | cancelPending => exact hstatement _ (sameFeedback_updatePolicy ..)
  | now | post => exact sameFeedback_refl s
  | _ => exact hstatement _ (sameFeedback_refl s)

/-- Only the insertion of a rating adds one, and its score has passed the check. -/
theorem ratings_exec (o : Op) (c : Choice) (s : Db) :
    (exec o c s).2.ratings = s.ratings ∨ ∃ id score feedback, o = .insertRating id score feedback ∧
      (exec o c s).2.ratings = s.ratings ++ [⟨id, score, feedback⟩] ∧ 1 ≤ score ∧ score ≤ 5 := by
  by_cases hrating : ∃ id score feedback, o = .insertRating id score feedback
  · obtain ⟨id, score, feedback, rfl⟩ := hrating
    rw [ratings_insertRating id ⟨score, feedback⟩ c s]
    split
    · rename_i h
      exact .inr ⟨id, score, feedback, rfl, rfl, h.2.2⟩
    · exact .inl rfl
  · by_cases hticket : ∃ id description, o = .insertTicket id description
    · obtain ⟨id, description, rfl⟩ := hticket
      refine .inl (statement_keeps (P := fun db : Db => db.ratings = s.ratings) _ rfl ?_)
      unfold Db.insertTicket
      split <;> rfl
    · refine .inl (sameFeedback_exec ?_ ?_ c s).ratings
      · intro id score feedback h
        exact hrating ⟨id, score, feedback, h⟩
      · intro id description h
        exact hticket ⟨id, description, h⟩

/-- Only the insertion of a ticket adds one. -/
theorem tickets_exec (o : Op) (c : Choice) (s : Db) :
    (exec o c s).2.supportTickets = s.supportTickets ∨ ∃ id description, o = .insertTicket id description ∧
      (exec o c s).2.supportTickets = s.supportTickets ++ [⟨id, description⟩] := by
  by_cases hticket : ∃ id description, o = .insertTicket id description
  · obtain ⟨id, description, rfl⟩ := hticket
    have hcases : ∀ db : Db, db = s ∨ db = { s with supportTickets := s.supportTickets ++ [⟨id, description⟩] } →
        db.supportTickets = s.supportTickets ∨ ∃ id' description', Op.insertTicket id description =
          .insertTicket id' description' ∧ db.supportTickets = s.supportTickets ++ [⟨id', description'⟩] := by
      rintro db (rfl | rfl)
      · exact .inl rfl
      · exact .inr ⟨id, description, rfl, rfl⟩
    apply hcases
    refine statement_keeps (P := fun db : Db => db = s ∨
      db = { s with supportTickets := s.supportTickets ++ [⟨id, description⟩] }) _ (.inl rfl) ?_
    unfold Db.insertTicket
    split
    · exact .inr rfl
    · exact .inl rfl
  · by_cases hrating : ∃ id score feedback, o = .insertRating id score feedback
    · obtain ⟨id, score, feedback, rfl⟩ := hrating
      refine .inl (statement_keeps (P := fun db : Db => db.supportTickets = s.supportTickets) _ rfl ?_)
      unfold Db.insertRating
      split
      · split <;> rfl
      · rfl
    · refine .inl (sameFeedback_exec ?_ ?_ c s).tickets
      · intro id score feedback h
        exact hrating ⟨id, score, feedback, h⟩
      · intro id description h
        exact hticket ⟨id, description, h⟩

/-! ### Who adds it -/

/-- The operation stores a rating or a ticket. -/
def Op.storesFeedback : Op → Bool
  | insertRating .. | insertTicket .. => true
  | _ => false

/-- A rating is stored for the policy that its delivery has found, and a ticket for that policy or for none. -/
inductive Stores : Request → History → Op → Prop where
  | rating (req : Fields) {h : History} (id : Int) (hx : (Op.selectID (transactionID req)).answered (.ok id) ∈ h) :
      Stores (.rate req) h (.insertRating id (rateInput req).score (rateInput req).feedback)
  | ticket (req : Fields) {h : History} (id : Option Int)
      (hx : ∀ i, id = some i → (Op.selectID (transactionID req)).answered (.ok i) ∈ h) :
      Stores (.support req) h (.insertTicket id (supportInput req))

/-- Other deliveries store neither. -/
private theorem feedback_of_mayAsk {s : BecknService} {r : Request} {h : History} {o : Op} (ho : MayAsk s r h o)
    (hf : o.storesFeedback = true) : (∃ req, r = .rate req) ∨ ∃ req, r = .support req := by
  cases ho with
  | rate req => exact .inl ⟨req, rfl⟩
  | openTicket req => exact .inr ⟨req, rfl⟩
  | _ => cases hf

/-- What the BPP may ask, as far as ratings and tickets go. -/
def feedbackProtocol (s : BecknService) : Protocol (machine s) where
  asks r h o := o.storesFeedback = true → Stores r h o
  returns _ _ _ := True
  follows r := by
    have hquiet : ∀ (r : Request) (h : History) (o : Op), o.storesFeedback = false → o.storesFeedback = true →
        Stores r h o := by
      intro r h o hn hf
      rw [hn] at hf
      cases hf
    have hrespond : ∀ (r : Request) (req : Fields) (action : String) (response : Fields → Fields) (h : History),
        (respond s req action response).Follows (fun h o => o.storesFeedback = true → Stores r h o)
          (fun _ _ => True) h := by
      intro r req action response h
      refine Prog.follows_call (hquiet _ _ _ rfl) fun t₁ => Prog.follows_call (hquiet _ _ _ rfl) fun t₂ => ?_
      refine Prog.follows_call (hquiet _ _ _ rfl) fun reply => ?_
      change Reply at reply
      cases reply <;> trivial
    by_cases hrate : ∃ req, r = .rate req
    · obtain ⟨req, rfl⟩ := hrate
      refine Prog.follows_call (hquiet _ _ _ rfl) fun id => ?_
      change Except String Int at id
      dsimp only
      split
      · rename_i hpos
        refine Prog.follows_call (fun _ => ?_) fun a => hrespond ..
        cases id with
        | error err => exact absurd hpos (Int.lt_irrefl 0)
        | ok id => exact .rating req id (by simp)
      · exact hrespond ..
    · by_cases hsupport : ∃ req, r = .support req
      · obtain ⟨req, rfl⟩ := hsupport
        refine Prog.follows_call (hquiet _ _ _ rfl) fun pid => ?_
        change Except String Int at pid
        refine Prog.follows_call (fun _ => .ticket req _ ?_) fun a => hrespond ..
        intro i hi
        cases pid with
        | error err => cases hi
        | ok id =>
          obtain ⟨hid, -⟩ := Option.filter_eq_some_iff.1 hi
          obtain rfl : id = i := Option.some.inj hid
          simp
      · refine (((protocol s).follows r).imp fun h o ho hf => ?_).mono fun _ _ _ => trivial
        rcases feedback_of_mayAsk ho hf with h | h
        · exact absurd h hrate
        · exact absurd h hsupport

/-! ### Whose feedback it is -/

/-- The rating is the one of a message of its policy's transaction. -/
def RatedBy (w : BppWorld) (r : Rating) : Prop :=
  ∃ d req, w.request? d = some (.rate req) ∧ w.store.HasID (transactionID req) r.policyID ∧
    r = (rateInput req).row r.policyID ∧ 1 ≤ r.score ∧ r.score ≤ 5

/-- The ticket is the one of a message, of its policy's transaction if it has a policy. -/
def OpenedBy (w : BppWorld) (x : SupportTicket) : Prop :=
  ∃ d req, w.request? d = some (.support req) ∧ x.description = supportInput req ∧
    ∀ i, x.policyID = some i → w.store.HasID (transactionID req) i

structure Attributed (w : BppWorld) : Prop where
  keyed : w.store.Keyed
  found : ∀ d t i, (Op.selectID t).answered (.ok i) ∈ w.exchanges d → w.store.HasID t i
  ratings : ∀ r ∈ w.store.ratings, RatedBy w r
  tickets : ∀ x ∈ w.store.supportTickets, OpenedBy w x

section

variable {s : BecknService} {w : BppWorld}

theorem RatedBy.asked {r : Rating} (h : RatedBy w r) (d : Nat) (o : Op) (c : Choice) :
    RatedBy ((machine s).asked w d o c) r := by
  obtain ⟨e, req, hreq, hid, hr, hscore⟩ := h
  exact ⟨e, req, hreq, hid.exec o c, hr, hscore⟩

theorem OpenedBy.asked {x : SupportTicket} (h : OpenedBy w x) (d : Nat) (o : Op) (c : Choice) :
    OpenedBy ((machine s).asked w d o c) x := by
  obtain ⟨e, req, hreq, hdesc, hid⟩ := h
  exact ⟨e, req, hreq, hdesc, fun i hi => (hid i hi).exec o c⟩

/-- What a query for an id has read is the id of a row. -/
theorem selectID_row {t : String} {c : Choice} {i : Int} (h : .ok i = (machine s).answer w (.selectID t) c) :
    w.store.HasID t i := by
  simp only [Machine.answer, machine, exec] at h
  cases hc : c.sqlError with
  | some err =>
    rw [hc] at h
    cases h
  | none =>
    rw [hc, statement_none] at h
    unfold Db.selectPolicy at h
    cases hp : w.store.policy t with
    | none =>
      rw [hp] at h
      cases h
    | some p =>
      rw [hp] at h
      exact ⟨p, hp, (Except.ok.inj h).symm⟩

private theorem attributed_keeps (s : BecknService) : (feedbackProtocol s).Keeps Machine.anything Attributed where
  start w d r h _ hr _ := by
    refine ⟨h.keyed, h.found, ?_, ?_⟩
    · intro x hx
      obtain ⟨e, req, hreq, hrest⟩ := h.ratings x hx
      exact ⟨e, req, World.request?_stays hr hreq, hrest⟩
    · intro x hx
      obtain ⟨e, req, hreq, hrest⟩ := h.tickets x hx
      exact ⟨e, req, World.request?_stays hr hreq, hrest⟩
  exec w d r o c h _ hr ho := by
    refine ⟨h.keyed.exec o c, ?_, ?_, ?_⟩
    · intro e t i hx
      rcases Machine.exchange_asked hx with hold | ⟨-, rfl, ha⟩
      · exact (h.found e t i hold).exec o c
      · exact (selectID_row ha).exec _ c
    · intro x hx
      change x ∈ (exec o c w.store).2.ratings at hx
      rcases ratings_exec o c w.store with hsame | ⟨id, score, feedback, rfl, hadd, hscore⟩
      · rw [hsame] at hx
        exact (h.ratings x hx).asked d o c
      · rw [hadd] at hx
        rcases List.mem_append.1 hx with hold | hnew
        · exact (h.ratings x hold).asked d _ c
        · -- the rating has been stored just now, for the policy that its delivery had found
          obtain rfl := List.mem_singleton.1 hnew
          cases ho rfl with
          | rating req _ hread =>
            exact RatedBy.asked ⟨d, req, hr, h.found d _ _ hread, rfl, hscore⟩ d _ c
    · intro x hx
      change x ∈ (exec o c w.store).2.supportTickets at hx
      rcases tickets_exec o c w.store with hsame | ⟨id, description, rfl, hadd⟩
      · rw [hsame] at hx
        exact (h.tickets x hx).asked d o c
      · rw [hadd] at hx
        rcases List.mem_append.1 hx with hold | hnew
        · exact (h.tickets x hold).asked d _ c
        · obtain rfl := List.mem_singleton.1 hnew
          cases ho rfl with
          | ticket req _ hread =>
            exact OpenedBy.asked ⟨d, req, hr, rfl, fun i hi => h.found d _ i (hread i hi)⟩ d _ c

theorem reachable_attributed {k : BppConfig} (h : Reachable s k) : Attributed k.world := by
  refine Protocol.invariant (attributed_keeps s) (Protocol.Obeyed.init _) ⟨⟨?_, ?_⟩, ?_, ?_, ?_⟩ h
  · intro t p hp
    cases hp
  · intro t u p q hp
    cases hp
  · intro d t i hx
    cases hx
  · intro r hr
    cases hr
  · intro x hx
    cases hx

end

/-! ### The lists in every reachable state -/

/-- Exactly one row has the id of a row. -/
theorem policiesWithID_eq {s : Db} (hkeyed : s.Keyed) {t : String} {p : Policy} (hp : s.policy t = some p) :
    s.policiesWithID (some p.id) = [⟨t, p⟩] := by
  have hnodup : s.policies.entries.Nodup := s.policies.nodupKeys.nodup
  apply List.perm_singleton.1
  apply (List.perm_ext_iff_of_nodup (hnodup.filter _) (List.nodup_singleton _)).2
  rintro ⟨u, q⟩
  rw [List.mem_singleton, List.mem_filter, mem_entries_iff, decide_eq_true_eq]
  constructor
  · rintro ⟨hq, hid⟩
    obtain rfl : u = t := hkeyed.distinct u t q p hq hp (Option.some.inj hid)
    obtain rfl : q = p := Option.some.inj (hq.symm.trans hp)
    rfl
  · intro heq
    obtain ⟨rfl, hq⟩ := Sigma.mk.inj heq
    obtain rfl := eq_of_heq hq
    exact ⟨hp, rfl⟩

theorem policiesWithID_none (s : Db) : s.policiesWithID none = [] := by
  unfold Db.policiesWithID
  rw [List.filter_eq_nil_iff]
  intro e _ h
  cases of_decide_eq_true h

/-- The entry of a rating names the transaction that was rated and the number its policy has now. -/
def EntryOf (w : BppWorld) (r : Rating) (row : RatingRow) : Prop :=
  ∃ d req p, w.request? d = some (.rate req) ∧ w.store.policy (transactionID req) = some p ∧
    r = (rateInput req).row p.id ∧
    row = ⟨p.id, p.policyNumber.getD "", transactionID req, (rateInput req).score, (rateInput req).feedback⟩ ∧
    1 ≤ row.score ∧ row.score ≤ 5

/-- The entry of a ticket names the transaction that asked for support, if the ticket has a policy. -/
def TicketEntryOf (w : BppWorld) (x : SupportTicket) (row : SupportTicketRow) : Prop :=
  ∃ d req, w.request? d = some (.support req) ∧ x.description = supportInput req ∧
    (x.policyID = none ∧ row = ⟨none, "", "", supportInput req⟩ ∨
      ∃ p, w.store.policy (transactionID req) = some p ∧ x.policyID = some p.id ∧
        row = ⟨some p.id, p.policyNumber.getD "", transactionID req, supportInput req⟩)

section

variable {w : BppWorld}

private theorem entryOf_join (hw : Attributed w) {r : Rating} (hr : r ∈ w.store.ratings) :
    (w.store.policiesWithID (some r.policyID)).length ≤ 1 ∧
      EntryOf w r ⟨r.policyID, joinedNumber (w.store.policiesWithID (some r.policyID)).head?,
        joinedTransaction (w.store.policiesWithID (some r.policyID)).head?, r.score, r.feedback⟩ := by
  obtain ⟨d, req, hreq, ⟨p, hp, hid⟩, hrow, hscore⟩ := hw.ratings r hr
  rw [← hid, policiesWithID_eq hw.keyed hp]
  refine ⟨Nat.le_refl 1, d, req, p, hreq, hp, ?_, ?_, hscore⟩
  · rw [hid]
    exact hrow
  · rw [hrow]
    rfl

private theorem ticketEntryOf_join (hw : Attributed w) {x : SupportTicket} (hx : x ∈ w.store.supportTickets) :
    (w.store.policiesWithID x.policyID).length ≤ 1 ∧
      TicketEntryOf w x ⟨x.policyID, joinedNumber (w.store.policiesWithID x.policyID).head?,
        joinedTransaction (w.store.policiesWithID x.policyID).head?, x.description⟩ := by
  obtain ⟨d, req, hreq, hdesc, hid⟩ := hw.tickets x hx
  cases hpolicy : x.policyID with
  | none =>
    rw [policiesWithID_none, hdesc]
    exact ⟨Nat.zero_le 1, d, req, hreq, hdesc, .inl ⟨hpolicy, rfl⟩⟩
  | some i =>
    obtain ⟨p, hp, rfl⟩ := hid i hpolicy
    rw [policiesWithID_eq hw.keyed hp, hdesc]
    exact ⟨Nat.le_refl 1, d, req, hreq, hdesc, .inr ⟨p, hp, hpolicy, rfl⟩⟩

end

/-- In every reachable state, the two lists have one entry for each rating and each ticket, and each entry tells of the
message that stored it. -/
theorem feedback_lists (s : BecknService) (k : BppConfig) (h : Reachable s k) :
    List.Forall₂ (EntryOf k.world) k.world.store.ratings.reverse (listRatings k.world.store) ∧
      List.Forall₂ (TicketEntryOf k.world) k.world.store.supportTickets.reverse
        (listSupportTickets k.world.store) := by
  have hw := reachable_attributed h
  constructor
  · unfold listRatings
    rw [leftJoin_of_length_le fun r hr => (entryOf_join hw hr).1, List.map_map, ← List.map_reverse,
      List.forall₂_map_right_iff, List.forall₂_same]
    intro r hr
    exact (entryOf_join hw (List.mem_reverse.1 hr)).2
  · unfold listSupportTickets
    rw [leftJoin_of_length_le fun x hx => (ticketEntryOf_join hw hx).1, List.map_map, ← List.map_reverse,
      List.forall₂_map_right_iff, List.forall₂_same]
    intro x hx
    exact (ticketEntryOf_join hw (List.mem_reverse.1 hx)).2

/-- A message of `t` that rates with five stars. -/
def fiveStars (t : String) : Fields :=
  [("context", .obj [("transaction_id", .str t)]),
   ("message", .obj [("ratingInputs", .arr [.obj [("range", .obj [("value", .int 5)])]])])]

theorem feedback_lists_issued :
    ∃ k, Reachable {} k ∧ k.world.store.ratings.length = 1 ∧
      List.Forall₂ (EntryOf k.world) k.world.store.ratings.reverse (listRatings k.world.store) := by
  refine ⟨(machine {}).serve (issuedRun "t") (.rate (fiveStars "t")) fun _ => {}, ?_, by decide +kernel, ?_⟩
  · exact (issuedRun_reachable "t").trans (Machine.serve_runs ..)
  · exact (feedback_lists {} _ ((issuedRun_reachable "t").trans (Machine.serve_runs ..))).1

end IonInsurance.Bpp
