import IonInsurance.Bap.Bridge
import IonInsurance.Bap.Rows

/-!
# Subscriptions along a run

A subscription is made empty, gets what is published on its channel while it is active, and loses a message to each
receive (`MailStep`).  The number of a subscription tells its channel and its owner (`Numbered`).
-/

namespace IonInsurance.Bap

open Interleave

/-- Subscription `n` before and after an operation with its answer. -/
inductive MailStep (n : Nat) : (o : Op) → o.Ans → Option Subscription → Option Subscription → Prop where
  | keep (o : Op) (a : o.Ans) (x : Option Subscription) : MailStep n o a x x
  | subscribe (channel : String) (active : Bool) :
      MailStep n (.subscribe channel) n none (some { channel := channel, active := active })
  | publish (x : Subscription) (hx : x.active = true) (body : Fields) (m : Nat) :
      MailStep n (.publish x.channel body) (.ok m : Except String Nat) (some x)
        (some { x with inbox := x.inbox ++ [body] })
  | receive (channel : String) (body : Fields) (inbox : List Fields) (active : Bool) :
      MailStep n (.receive n) (some body : Option Fields) (some ⟨channel, body :: inbox, active⟩)
        (some ⟨channel, inbox, active⟩)
  | close (x : Subscription) : MailStep n (.close n) () (some x) (some { x with active := false })

/-- A message goes to the active subscriptions of its channel. -/
theorem subscriptions_publish (channel : String) (body : Fields) (c : Choice) (s : Db) (n : Nat) :
    (exec (.publish channel body) c s).2.subscriptions[n]? =
      if c.redisError = none then
        s.subscriptions[n]?.map fun x =>
          if x.active && x.channel = channel then { x with inbox := x.inbox ++ [body] } else x
      else s.subscriptions[n]? := by
  cases hc : c.redisError with
  | some err => simp [exec, hc]
  | none => simp [exec, hc, Db.publish]

/-- A receive that does not run out of time takes the first message. -/
theorem receive_head {s : Db} {n : Nat} {x : Subscription} {body : Fields} {inbox : List Fields}
    (hx : s.subscriptions[n]? = some x) (hinbox : x.inbox = body :: inbox) {c : Choice} (hc : c.timeout = false) :
    (exec (.receive n) c s).1 = some body := by
  obtain ⟨channel, messages, active⟩ := x
  obtain rfl : messages = body :: inbox := hinbox
  show (if c.timeout = true then (none, s) else s.receive n).1 = some body
  rw [hc, if_neg Bool.false_ne_true, Db.receive, hx]

theorem exec_mailStep (o : Op) (c : Choice) (s : Db) (n : Nat) :
    MailStep n o (exec o c s).1 s.subscriptions[n]? (exec o c s).2.subscriptions[n]? := by
  cases o with
  | subscribe channel =>
    show MailStep n (.subscribe channel) s.subscriptions.length _ (s.subscriptions ++ [_])[n]?
    rcases Nat.lt_trichotomy n s.subscriptions.length with hlt | rfl | hgt
    · rw [List.getElem?_append_left hlt]
      exact .keep ..
    · rw [List.getElem?_concat_length, List.getElem?_eq_none (Nat.le_refl _)]
      exact .subscribe ..
    · rw [List.getElem?_eq_none (by omega), List.getElem?_eq_none (by simp; omega)]
      exact .keep ..
  | publish channel body =>
    -- a publication that fails reaches nobody
    rw [subscriptions_publish]
    cases hc : c.redisError with
    | some err =>
      rw [if_neg (by simp)]
      exact .keep ..
    | none =>
      have hanswer : (exec (.publish channel body) c s).1 = .ok (s.publish channel body).1 := by
        simp only [exec, hc, statement_none]
        rfl
      rw [if_pos rfl, hanswer]
      cases s.subscriptions[n]? with
      | none => exact .keep ..
      | some x =>
        rw [Option.map_some]
        by_cases hx : (x.active && x.channel = channel) = true
        · rw [if_pos hx]
          obtain ⟨hactive, hchannel⟩ := Bool.and_eq_true_iff.1 hx
          obtain rfl := of_decide_eq_true hchannel
          exact .publish x hactive body _
        · rw [if_neg hx]
          exact .keep ..
  | receive m =>
    show MailStep n (.receive m) (if c.timeout = true then (none, s) else s.receive m).1 _
      (if c.timeout = true then (none, s) else s.receive m).2.subscriptions[n]?
    split
    · exact .keep ..
    · unfold Db.receive
      split
      · rename_i channel body inbox active hm
        by_cases hmn : m = n
        · subst hmn
          rw [hm, List.getElem?_set_self (List.getElem?_eq_some_iff.1 hm).1]
          exact .receive ..
        · rw [List.getElem?_set_ne hmn]
          exact .keep ..
      · exact .keep ..
  | close m =>
    show MailStep n (.close m) () _ (s.subscriptions.modify m fun x => { x with active := false })[n]?
    rw [List.getElem?_modify]
    cases s.subscriptions[n]? with
    | none => exact .keep ..
    | some x =>
      by_cases hmn : m = n
      · subst hmn
        rw [Option.map_eq_map, Option.map_some, if_pos rfl]
        exact .close x
      · rw [Option.map_eq_map, Option.map_some, if_neg hmn]
        exact .keep ..
  | _ =>
    rw [exec_subscriptions rfl]
    exact .keep ..

/-- A subscription keeps its channel. -/
theorem MailStep.channel {n : Nat} {o : Op} {a : o.Ans} {p p' : Option Subscription} (h : MailStep n o a p p')
    {x : Subscription} (hx : p = some x) : ∃ x', p' = some x' ∧ x'.channel = x.channel := by
  cases h with
  | keep => exact ⟨x, hx, rfl⟩
  | subscribe => cases hx
  | publish | receive | close =>
    obtain rfl := Option.some.inj hx
    exact ⟨_, rfl, rfl⟩

/-- A message in an inbox has been there, or it is being published on the channel. -/
theorem MailStep.inbox {n : Nat} {o : Op} {a : o.Ans} {p p' : Option Subscription} (h : MailStep n o a p p')
    {x' : Subscription} (hx : p' = some x') {body : Fields} (hb : body ∈ x'.inbox) :
    (∃ x, p = some x ∧ x.channel = x'.channel ∧ body ∈ x.inbox) ∨ o = .publish x'.channel body := by
  cases h with
  | keep => exact .inl ⟨x', hx, rfl, hb⟩
  | subscribe =>
    obtain rfl := Option.some.inj hx
    cases hb
  | publish x hactive body' =>
    obtain rfl := Option.some.inj hx
    rcases List.mem_append.1 hb with hold | hnew
    · exact .inl ⟨x, rfl, rfl, hold⟩
    · exact .inr (by rw [List.mem_singleton.1 hnew])
  | receive =>
    obtain rfl := Option.some.inj hx
    exact .inl ⟨_, rfl, rfl, List.mem_cons_of_mem _ hb⟩
  | close x =>
    obtain rfl := Option.some.inj hx
    exact .inl ⟨x, rfl, rfl, hb⟩

/-- A receive and a publication on its channel aside, nothing changes an inbox. -/
theorem MailStep.untouched {n : Nat} {o : Op} {a : o.Ans} {p p' : Option Subscription} (h : MailStep n o a p p')
    {x : Subscription} (hx : p = some x) (hr : o ≠ .receive n) (hp : ∀ body, o ≠ .publish x.channel body) :
    ∃ x', p' = some x' ∧ x'.channel = x.channel ∧ x'.inbox = x.inbox := by
  cases h with
  | keep => exact ⟨x, hx, rfl, rfl⟩
  | subscribe => cases hx
  | publish =>
    obtain rfl := Option.some.inj hx
    exact absurd rfl (hp _)
  | receive => exact absurd rfl hr
  | close =>
    obtain rfl := Option.some.inj hx
    exact ⟨_, rfl, rfl, rfl⟩

/-- What a receive returns was the first message. -/
theorem receive_some {s : Db} {n : Nat} {c : Choice} {body : Fields} (h : (exec (.receive n) c s).1 = some body) :
    ∃ x, s.subscriptions[n]? = some x ∧ x.inbox.head? = some body := by
  change (if c.timeout = true then (none, s) else s.receive n).1 = some body at h
  split at h
  · cases h
  · unfold Db.receive at h
    split at h
    · rename_i hx
      exact ⟨_, hx, h⟩
    · cases h

/-! ### Numbers -/

/-- Every subscription that a program has made is there, with its channel, and no other program has made it. -/
structure Numbered (w : BapWorld) : Prop where
  channel : ∀ (d : Nat) (channel : String) (n : Nat), ⟨.subscribe channel, n⟩ ∈ w.exchanges d →
    ∃ x, w.store.subscriptions[n]? = some x ∧ x.channel = channel
  owner : ∀ (d d' : Nat) (channel channel' : String) (n : Nat), ⟨.subscribe channel, n⟩ ∈ w.exchanges d →
    ⟨.subscribe channel', n⟩ ∈ w.exchanges d' → d = d'
  receiver : ∀ (d n : Nat) (msg : Option Fields), ⟨.receive n, msg⟩ ∈ w.exchanges d →
    ∃ channel, ⟨.subscribe channel, n⟩ ∈ w.exchanges d

/-- A program receives from its own subscription. -/
theorem Bridges.receiver {r : Request} {h : History} {n : Nat} (ho : Bridges r h (.receive n)) :
    ∃ channel, ⟨.subscribe channel, n⟩ ∈ h := by
  cases ho with
  | other _ _ ho => cases ho
  | receive => exact ⟨_, List.mem_cons_self⟩

variable {s : ClientService} {w : BapWorld}

/-- A new subscription has the next number. -/
theorem subscribe_answer {c : Choice} {channel : String} {n : Nat}
    (h : n = (machine s).answer w (.subscribe channel) c) : n = w.store.subscriptions.length := h

theorem Numbered.lt (hw : Numbered w) {d : Nat} {channel : String} {n : Nat}
    (h : ⟨.subscribe channel, n⟩ ∈ w.exchanges d) : n < w.store.subscriptions.length := by
  obtain ⟨x, hx, -⟩ := hw.channel d channel n h
  exact (List.getElem?_eq_some_iff.1 hx).1

theorem Numbered.asked (hw : Numbered w) {r : Request} {d : Nat} {o : Op} (ho : Bridges r (w.exchanges d) o)
    (c : Choice) : Numbered ((machine s).asked w d o c) := by
  refine ⟨?_, ?_, ?_⟩
  · intro e channel n hx
    rcases Machine.exchange_asked hx with hold | ⟨rfl, rfl, hn⟩
    · obtain ⟨x, hp, rfl⟩ := hw.channel e channel n hold
      exact (exec_mailStep o c w.store n).channel hp
    · obtain rfl := subscribe_answer hn
      exact ⟨_, List.getElem?_concat_length, rfl⟩
  · intro e e' channel channel' n hx hx'
    -- a new number is not yet the number of any subscription
    rcases Machine.exchange_asked hx with hold | ⟨rfl, rfl, hn⟩
    · rcases Machine.exchange_asked hx' with hold' | ⟨rfl, rfl, hn'⟩
      · exact hw.owner e e' channel channel' n hold hold'
      · obtain rfl := subscribe_answer hn'
        exact absurd (hw.lt hold) (Nat.lt_irrefl _)
    · rcases Machine.exchange_asked hx' with hold' | ⟨rfl, -⟩
      · obtain rfl := subscribe_answer hn
        exact absurd (hw.lt hold') (Nat.lt_irrefl _)
      · rfl
  · intro e n msg hx
    rcases Machine.exchange_asked hx with hold | ⟨rfl, rfl, -⟩
    · obtain ⟨channel, hsub⟩ := hw.receiver e n msg hold
      exact ⟨channel, Machine.exchanges_subset _ _ _ _ _ _ hsub⟩
    · obtain ⟨channel, hsub⟩ := ho.receiver
      exact ⟨channel, Machine.exchanges_subset _ _ _ _ _ _ hsub⟩

theorem numbered_empty (s : Db) : Numbered ⟨s, []⟩ :=
  ⟨fun _ _ _ hx => absurd hx List.not_mem_nil, fun _ _ _ _ _ hx => absurd hx List.not_mem_nil,
    fun _ _ _ hx => absurd hx List.not_mem_nil⟩

/-- The numbers of the subscriptions along every run. -/
theorem numbered_keeps (s : ClientService) (K : BapWorld → Action Choice Request Op → Prop) :
    (bridge s).Keeps K Numbered where
  start _ _ _ hw _ _ _ := ⟨hw.channel, hw.owner, hw.receiver⟩
  exec _ _ _ _ c hw _ _ ho := hw.asked ho c

end IonInsurance.Bap
