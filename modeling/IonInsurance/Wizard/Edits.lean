import IonInsurance.Wizard.Steps

/-!
# Edits of a list

An edited item is remembered by its position.  The other items of the list can be removed meanwhile, and those before
it move it to another position, which the form does not follow.
-/

namespace IonInsurance.Wizard

namespace StepState

variable {α : Type} (F : Form α) (s : StepState α)

/-- A save of the draft succeeds: it is complete, and no other item has its trimmed id. -/
structure Accepts : Prop where
  id_ne : trim (F.id s.draft) ≠ ""
  complete : F.complete s.draft = true
  unused : ∀ i item, s.items[i]? = some item → some i ≠ s.editIdx → F.id item ≠ trim (F.id s.draft)

/-- The list with the draft. -/
def placed : List α :=
  match s.editIdx with
  | some i => s.items.set i s.draft
  | none => s.items ++ [s.draft]

private theorem any_used_iff :
    (s.items.zipIdx.any fun (item, i) => F.id item = trim (F.id s.draft) && some i ≠ s.editIdx) = true ↔
      ∃ i item, s.items[i]? = some item ∧ some i ≠ s.editIdx ∧ F.id item = trim (F.id s.draft) := by
  rw [List.any_eq_true]
  constructor
  · intro h
    obtain ⟨⟨item, i⟩, hmem, hused⟩ := h
    rw [Bool.and_eq_true, decide_eq_true_eq, decide_eq_true_eq] at hused
    exact ⟨i, item, List.mem_zipIdx_iff_getElem?.1 hmem, hused.2, hused.1⟩
  · intro h
    obtain ⟨i, item, hitem, hother, hid⟩ := h
    refine ⟨(item, i), List.mem_zipIdx_iff_getElem?.2 hitem, ?_⟩
    rw [Bool.and_eq_true, decide_eq_true_eq, decide_eq_true_eq]
    exact ⟨hid, hother⟩

theorem accepts_iff :
    (trim (F.id s.draft) ≠ "" ∧ F.complete s.draft = true ∧
      ¬(s.items.zipIdx.any fun (item, i) => F.id item = trim (F.id s.draft) && some i ≠ s.editIdx) = true) ↔
      s.Accepts F := by
  rw [any_used_iff]
  constructor
  · intro h
    refine ⟨h.1, h.2.1, ?_⟩
    intro i item hitem hother hid
    exact h.2.2 ⟨i, item, hitem, hother, hid⟩
  · intro h
    refine ⟨h.id_ne, h.complete, ?_⟩
    intro hused
    obtain ⟨i, item, hitem, hother, hid⟩ := hused
    exact h.unused i item hitem hother hid

instance : Decidable (s.Accepts F) := decidable_of_iff _ (accepts_iff F s)

theorem handleAdd_of_accepts (h : s.Accepts F) : s.handleAdd F = { items := s.placed, draft := F.blank } := by
  obtain ⟨hid, hcomplete, hunused⟩ := (accepts_iff F s).2 h
  have hdraft : ¬(trim (F.id s.draft) = "" ∨ F.complete s.draft = false) := by
    rw [not_or, hcomplete]
    exact ⟨hid, by decide⟩
  unfold handleAdd
  dsimp only
  rw [if_neg hdraft, if_neg hunused]
  rfl

/-- A save that does not succeed changes the error only. -/
theorem handleAdd_of_not_accepts (h : ¬s.Accepts F) : ∃ err, s.handleAdd F = { s with fieldError := err } := by
  unfold handleAdd
  dsimp only
  split
  · exact ⟨s.fieldError, rfl⟩
  · rename_i hdraft
    rw [not_or] at hdraft
    split
    · exact ⟨_, rfl⟩
    · rename_i hunused
      exact absurd ((accepts_iff F s).1 ⟨hdraft.1, by simpa using hdraft.2, hunused⟩) h

end StepState

/-! ### The opened item -/

/-- A step, where the item is now on which `startEdit` was invoked last, and how many items before it have been removed
since. -/
structure Session (α : Type) where
  state : StepState α
  opened : Option Nat := none
  shift : Nat := 0

namespace Session

variable {α : Type} (F : Form α)

/-- The opened item after another item has been removed. -/
def remove (x : Session α) (j : Nat) : Session α :=
  let state := { x.state with items := x.state.items.eraseIdx j }
  match x.opened with
  | none => { x with state }
  | some k =>
    if j < k then { state, opened := some (k - 1), shift := x.shift + 1 }
    else if j = k then { state }
    else { x with state }

/-- No item is opened after a save, a cancel, or the removal of the item. -/
def act (x : Session α) (a : StepAction α) : Session α :=
  let state := x.state.act F a
  match a with
  | .startEdit i => if i < x.state.items.length then { state, opened := some i } else { x with state }
  | .cancel => if x.state.drafting then { state } else { x with state }
  | .save => if x.state.drafting ∧ x.state.Accepts F then { state } else { x with state }
  | .add | .change _ => { x with state }
  | .remove j => x.remove j

/-- The step after actions on the list that it was entered with. -/
def after (items : List α) (actions : List (StepAction α)) : Session α :=
  actions.foldl (Session.act F) { state := { items, draft := F.blank } }

/-- The form has kept the position at which the item was opened. -/
structure Tracks (x : Session α) : Prop where
  idle : x.state.drafting = false → x.state.editIdx = none ∧ x.opened = none
  opened : ∀ k, x.opened = some k → k < x.state.items.length ∧ x.state.editIdx = some (k + x.shift)

variable {F}

theorem Tracks.entered (items : List α) : Tracks ({ state := { items, draft := F.blank } } : Session α) := by
  refine ⟨fun _ => ⟨rfl, rfl⟩, ?_⟩
  intro k hk
  cases hk

theorem Tracks.remove {x : Session α} (h : x.Tracks) (j : Nat) : (x.remove j).Tracks := by
  cases hopened : x.opened with
  | none =>
    have hremove : x.remove j = { x with state := { x.state with items := x.state.items.eraseIdx j } } := by
      unfold Session.remove
      rw [hopened]
    rw [hremove]
    refine ⟨h.idle, ?_⟩
    intro k hk
    cases hopened.symm.trans hk
  | some k =>
    obtain ⟨hlt, hedit⟩ := h.opened k hopened
    have hdrafting : x.state.drafting ≠ false := by
      intro hfalse
      cases (h.idle hfalse).2.symm.trans hopened
    by_cases hbefore : j < k
    · have hremove : x.remove j =
          ⟨{ x.state with items := x.state.items.eraseIdx j }, some (k - 1), x.shift + 1⟩ := by
        unfold Session.remove
        rw [hopened]
        exact if_pos hbefore
      have hlength := List.length_eraseIdx_of_lt (show j < x.state.items.length by omega)
      rw [hremove]
      refine ⟨fun hfalse => absurd hfalse hdrafting, ?_⟩
      intro k' hk
      obtain rfl := Option.some.inj hk
      refine ⟨?_, ?_⟩
      · show k - 1 < (x.state.items.eraseIdx j).length
        omega
      · show x.state.editIdx = some (k - 1 + (x.shift + 1))
        rw [hedit]
        congr 1
        omega
    · by_cases hself : j = k
      · have hremove : x.remove j = { state := { x.state with items := x.state.items.eraseIdx j } } := by
          unfold Session.remove
          rw [hopened]
          dsimp only
          rw [if_neg hbefore, if_pos hself]
        rw [hremove]
        refine ⟨fun hfalse => absurd hfalse hdrafting, ?_⟩
        intro k' hk
        cases hk
      · have hremove : x.remove j = { x with state := { x.state with items := x.state.items.eraseIdx j } } := by
          unfold Session.remove
          rw [hopened]
          dsimp only
          rw [if_neg hbefore, if_neg hself, ← hopened]
        rw [hremove]
        refine ⟨fun hfalse => absurd hfalse hdrafting, ?_⟩
        intro k' hk
        obtain rfl := Option.some.inj (hopened.symm.trans hk)
        refine ⟨?_, hedit⟩
        show k < (x.state.items.eraseIdx j).length
        by_cases hj : j < x.state.items.length
        · have hlength := List.length_eraseIdx_of_lt hj
          omega
        · rw [List.eraseIdx_of_length_le (by omega)]
          exact hlt

theorem Tracks.act {x : Session α} (h : x.Tracks) (a : StepAction α) : (x.act F a).Tracks := by
  obtain ⟨hidle, hopened⟩ := h
  cases a with
  | startEdit i =>
    by_cases hi : i < x.state.items.length
    · have hact : x.act F (.startEdit i) = { state := x.state.startEdit i, opened := some i } := if_pos hi
      have hstart : x.state.startEdit i = { x.state with
          editIdx := some i, draft := x.state.items[i], drafting := true, fieldError := "" } := by
        unfold StepState.startEdit
        rw [List.getElem?_eq_getElem hi]
      rw [hact, hstart]
      constructor
      · intro hidle
        cases hidle
      · intro k hk
        obtain rfl := Option.some.inj hk
        exact ⟨hi, rfl⟩
    · have hact : x.act F (.startEdit i) = { x with state := x.state.startEdit i } := if_neg hi
      have hstart : x.state.startEdit i = x.state := by
        unfold StepState.startEdit
        rw [List.getElem?_eq_none (by omega)]
      rw [hact, hstart]
      exact ⟨hidle, hopened⟩
  | cancel =>
    by_cases hdrafting : x.state.drafting = true
    · have hact : x.act F .cancel = { state := x.state.handleCancel } := by
        simp only [Session.act, StepState.act, if_pos hdrafting]
      rw [hact]
      refine ⟨fun _ => ⟨rfl, rfl⟩, ?_⟩
      intro k hk
      cases hk
    · have hact : x.act F .cancel = x := by
        simp only [Session.act, StepState.act, if_neg hdrafting]
      rw [hact]
      exact ⟨hidle, hopened⟩
  | add =>
    by_cases hdrafting : x.state.drafting = true
    · have hact : x.act F .add = x := by
        simp only [Session.act, StepState.act, if_pos hdrafting]
      rw [hact]
      exact ⟨hidle, hopened⟩
    · obtain ⟨-, hnone⟩ := hidle (Bool.eq_false_iff.2 hdrafting)
      have hact : (x.act F .add).opened = none ∧ (x.act F .add).state.drafting = true := by
        simp only [Session.act, StepState.act, if_neg hdrafting]
        exact ⟨hnone, trivial⟩
      refine ⟨fun hidle' => ?_, fun k hk => ?_⟩
      · rw [hact.2] at hidle'
        cases hidle'
      · rw [hact.1] at hk
        cases hk
  | change draft =>
    by_cases hdrafting : x.state.drafting = true
    · have hact : x.act F (.change draft) = { x with state := { x.state with draft } } := by
        simp only [Session.act, StepState.act, if_pos hdrafting]
      rw [hact]
      exact ⟨hidle, hopened⟩
    · have hact : x.act F (.change draft) = x := by
        simp only [Session.act, StepState.act, if_neg hdrafting]
      rw [hact]
      exact ⟨hidle, hopened⟩
  | save =>
    by_cases hsaves : x.state.drafting = true ∧ x.state.Accepts F
    · have hact : x.act F .save = { state := { items := x.state.placed, draft := F.blank } } := by
        simp only [Session.act, StepState.act, if_pos hsaves, if_pos hsaves.1]
        rw [StepState.handleAdd_of_accepts F x.state hsaves.2]
      rw [hact]
      refine ⟨fun _ => ⟨rfl, rfl⟩, ?_⟩
      intro k hk
      cases hk
    · have hact : ∃ err, x.act F .save = { x with state := { x.state with fieldError := err } } := by
        simp only [Session.act, StepState.act, if_neg hsaves]
        by_cases hdrafting : x.state.drafting = true
        · rw [if_pos hdrafting]
          obtain ⟨err, herr⟩ := StepState.handleAdd_of_not_accepts F x.state fun h => hsaves ⟨hdrafting, h⟩
          exact ⟨err, by rw [herr]⟩
        · rw [if_neg hdrafting]
          exact ⟨x.state.fieldError, rfl⟩
      obtain ⟨err, hact⟩ := hact
      rw [hact]
      exact ⟨hidle, hopened⟩
  | remove j => exact Tracks.remove ⟨hidle, hopened⟩ j

theorem tracks_after (items : List α) (actions : List (StepAction α)) : (after F items actions).Tracks := by
  have hkeeps : ∀ x : Session α, x.Tracks → (actions.foldl (Session.act F) x).Tracks := by
    induction actions with
    | nil => exact fun _ h => h
    | cons a actions ih => exact fun x h => ih _ (h.act a)
  exact hkeeps _ (Tracks.entered items)

/-- The session is about the step. -/
theorem state_after (items : List α) (actions : List (StepAction α)) :
    (after F items actions).state = actions.foldl (StepState.act F) { items, draft := F.blank } := by
  have hstate : ∀ (x : Session α) (a : StepAction α), (x.act F a).state = x.state.act F a := by
    intro x a
    cases a with
    | startEdit i | cancel | save =>
      simp only [Session.act]
      split
      · rfl
      · rfl
    | add | change draft => rfl
    | remove j =>
      show (x.remove j).state = _
      unfold Session.remove
      split
      · rfl
      · split
        · rfl
        · split
          · rfl
          · rfl
  have hfold : ∀ x : Session α, (actions.foldl (Session.act F) x).state = actions.foldl (StepState.act F) x.state := by
    induction actions with
    | nil => exact fun _ => rfl
    | cons a actions ih =>
      intro x
      rw [List.foldl_cons, List.foldl_cons, ih, hstate]
  exact hfold _

variable (F)

/-- A save of the form succeeds. -/
def Saves (x : Session α) : Prop := x.state.drafting = true ∧ x.state.Accepts F

variable {F}

/-- A save sets the item at the position where the opened one was. -/
theorem items_save {x : Session α} (hx : x.Tracks) (h : x.Saves F) {k : Nat} (hk : x.opened = some k) :
    (x.state.act F .save).items = x.state.items.set (k + x.shift) x.state.draft := by
  have hsave : x.state.act F .save = { items := x.state.placed, draft := F.blank } := by
    simp only [StepState.act, if_pos h.1]
    exact StepState.handleAdd_of_accepts F x.state h.2
  rw [hsave]
  show x.state.placed = _
  unfold StepState.placed
  rw [(hx.opened k hk).2]

/-- The opened item is where it was opened; or it already is as in the form, and so is the item in that place, if there
is one. -/
def InPlace (x : Session α) (k : Nat) : Prop :=
  x.shift = 0 ∨ x.state.items[k]? = some x.state.draft ∧
    ∀ item, x.state.items[k + x.shift]? = some item → item = x.state.draft

private theorem set_eq_set_iff {items : List α} {i k : Nat} (hk : k < items.length) (hne : i ≠ k) (draft : α) :
    items.set i draft = items.set k draft ↔
      items[k]? = some draft ∧ ∀ item, items[i]? = some item → item = draft := by
  constructor
  · intro h
    have hat : ∀ j : Nat, (items.set i draft)[j]? = (items.set k draft)[j]? := fun j => by rw [h]
    constructor
    · have hatk := hat k
      rwa [List.getElem?_set_ne hne, List.getElem?_set_self hk] at hatk
    · intro item hitem
      have hi : i < items.length := (List.getElem?_eq_some_iff.1 hitem).1
      have hati := hat i
      rw [List.getElem?_set_self hi, List.getElem?_set_ne (Ne.symm hne), hitem] at hati
      exact (Option.some.inj hati).symm
  · intro h
    obtain ⟨hopened, hplace⟩ := h
    have hset : ∀ j, (∀ item, items[j]? = some item → item = draft) → items.set j draft = items := by
      intro j hj
      apply List.ext_getElem?
      intro n
      by_cases hn : n = j
      · subst hn
        by_cases hlt : n < items.length
        · rw [List.getElem?_set_self hlt, List.getElem?_eq_getElem hlt, hj _ (List.getElem?_eq_getElem hlt)]
        · rw [List.getElem?_eq_none (by rw [List.length_set]; omega), List.getElem?_eq_none (by omega)]
      · rw [List.getElem?_set_ne (Ne.symm hn)]
    have hsame : ∀ item, items[k]? = some item → item = draft := by
      intro item hitem
      exact Option.some.inj (hitem.symm.trans hopened)
    rw [hset i hplace, hset k hsame]

theorem save_replaces_iff {x : Session α} (hx : x.Tracks) (h : x.Saves F) {k : Nat} (hk : x.opened = some k) :
    (x.state.act F .save).items = x.state.items.set k x.state.draft ↔ x.InPlace k := by
  rw [items_save hx h hk]
  unfold InPlace
  by_cases hshift : x.shift = 0
  · rw [hshift]
    exact ⟨fun _ => .inl rfl, fun _ => rfl⟩
  · rw [set_eq_set_iff (hx.opened k hk).1 (by omega)]
    exact ⟨.inr, fun h => h.resolve_left hshift⟩

/-- The form takes the opened item for another one, and does not let its id be kept. -/
theorem not_saves_of_shift {x : Session α} (hx : x.Tracks) {k : Nat} (hk : x.opened = some k) (hshift : x.shift ≠ 0)
    {item : α} (hitem : x.state.items[k]? = some item) (hid : F.id item = trim (F.id x.state.draft)) : ¬x.Saves F := by
  intro h
  refine h.2.unused k item hitem ?_ hid
  rw [(hx.opened k hk).2]
  intro hplace
  have heq := Option.some.inj hplace
  omega

variable (F)

/-- Every successful save of the run replaces the item on which `startEdit` was invoked, and leaves the others. -/
def EditsOpened (items : List α) (actions : List (StepAction α)) : Prop :=
  ∀ n k, actions[n]? = some .save →
    let x := after F items (actions.take n)
    x.Saves F → x.opened = some k → (x.state.act F .save).items = x.state.items.set k x.state.draft

/-- Items before the opened one are not removed before a save that succeeds, unless it makes no difference. -/
theorem editsOpened_iff (items : List α) (actions : List (StepAction α)) :
    EditsOpened F items actions ↔ ∀ n k, actions[n]? = some .save →
      let x := after F items (actions.take n)
      x.Saves F → x.opened = some k → x.InPlace k := by
  constructor
  · intro h n k hsave x hsaves hk
    exact (save_replaces_iff (tracks_after items _) hsaves hk).1 (h n k hsave hsaves hk)
  · intro h n k hsave x hsaves hk
    exact (save_replaces_iff (tracks_after items _) hsaves hk).2 (h n k hsave hsaves hk)

private def provider (id : String) : ProviderItem := { id, descriptor := [("name", .str id)] }

private def edit : List (StepAction ProviderItem) := [.startEdit 1, .remove 0, .change (provider "B2"), .save]

/-- The second of three providers is opened, the first one removed: the save overwrites the third one. -/
theorem not_editsOpened_of_remove :
    ¬EditsOpened providerForm [provider "A", provider "B", provider "C"] edit ∧
      ((after providerForm [provider "A", provider "B", provider "C"] edit).state.items.map ProviderItem.id =
        ["B", "B2"]) := by
  have hrun : ((after providerForm [provider "A", provider "B", provider "C"] edit).state.items.map ProviderItem.id =
      ["B", "B2"]) := by
    decide +kernel
  refine ⟨?_, hrun⟩
  intro h
  have hsaves : (after providerForm [provider "A", provider "B", provider "C"] (edit.take 3)).Saves providerForm :=
    ⟨by decide +kernel, by decide +kernel⟩
  have hsaved := congrArg (List.map ProviderItem.id) (h 3 0 rfl hsaves (by decide +kernel))
  revert hsaved
  decide +kernel

end Session

end IonInsurance.Wizard
