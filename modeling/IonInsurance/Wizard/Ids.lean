import IonInsurance.Wizard.Edits
import IonInsurance.Wizard.Retry

/-!
# Ids of items

A step compares the trimmed id of the draft with the ids of the list, which are kept as they were typed.  The maps of
`handlePublish` have the ids as keys.
-/

namespace IonInsurance.Wizard

/-! ### One step -/

namespace StepState

variable {α : Type} (F : Form α) (s : StepState α)

/-- The ids of the items are pairwise distinct. -/
def Distinct : Prop := (s.items.map F.id).Nodup

/-- A save succeeds of a draft whose id has blanks around it, and is, with these blanks, the id of another item. -/
structure Collides : Prop where
  drafting : s.drafting = true
  accepts : s.Accepts F
  inList : ∀ i, s.editIdx = some i → i < s.items.length
  blanks : trim (F.id s.draft) ≠ F.id s.draft
  used : ∃ i item, s.items[i]? = some item ∧ some i ≠ s.editIdx ∧ F.id item = F.id s.draft

private theorem nodup_set_iff {β : Type} {l : List β} (h : l.Nodup) {i : Nat} (hi : i < l.length) (b : β) :
    (l.set i b).Nodup ↔ ∀ j, l[j]? = some b → j = i := by
  have hat : ∀ j : Nat, (l.set i b)[j]? = if i = j then some b else l[j]? := by
    intro j
    rw [List.getElem?_set]
    split
    · rename_i heq
      subst heq
      simp
    · rfl
  constructor
  · intro hset j hj
    by_contra hne
    have hjlt := (List.getElem?_eq_some_iff.1 hj).1
    have hsame : (l.set i b)[i]? = (l.set i b)[j]? := by
      rw [hat i, hat j, if_pos rfl, if_neg (Ne.symm hne), hj]
    have hij := (List.nodup_iff_getElem?_ne_getElem?.1 hset)
    rcases Nat.lt_or_gt_of_ne hne with hlt | hlt
    · exact hij j i hlt (by rw [List.length_set]; exact hi) hsame.symm
    · exact hij i j hlt (by rw [List.length_set]; exact hjlt) hsame
  · intro hb
    rw [List.nodup_iff_getElem?_ne_getElem?]
    intro j k hjk hk
    rw [List.length_set] at hk
    rw [hat j, hat k]
    by_cases hij : i = j
    · rw [if_pos hij, if_neg (by omega)]
      intro heq
      have := hb k heq.symm
      omega
    · rw [if_neg hij]
      by_cases hik : i = k
      · rw [if_pos hik]
        intro heq
        have := hb j heq
        omega
      · rw [if_neg hik]
        exact List.nodup_iff_getElem?_ne_getElem?.1 h j k hjk hk

/-- A save keeps the ids apart unless the draft has, as it stands, the id of another item. -/
private theorem distinct_placed_iff (h : s.Distinct F) :
    (s.placed.map F.id).Nodup ↔
      ¬((∀ i, s.editIdx = some i → i < s.items.length) ∧
        ∃ i item, s.items[i]? = some item ∧ some i ≠ s.editIdx ∧ F.id item = F.id s.draft) := by
  have hids : ∀ j : Nat, (s.items.map F.id)[j]? = some (F.id s.draft) ↔
      ∃ item : α, s.items[j]? = some item ∧ F.id item = F.id s.draft := by
    intro j
    rw [List.getElem?_map, Option.map_eq_some_iff]
  unfold placed
  cases hedit : s.editIdx with
  | none =>
    dsimp only
    rw [List.map_append, List.map_singleton, ← List.concat_eq_append, List.nodup_concat]
    constructor
    · intro hnew hused
      obtain ⟨-, i, item, hitem, -, hid⟩ := hused
      exact hnew.1 (List.mem_of_getElem? ((hids i).2 ⟨item, hitem, hid⟩))
    · intro hunused
      refine ⟨?_, h⟩
      intro hmem
      apply hunused
      refine ⟨fun i hi => (by cases hi), ?_⟩
      obtain ⟨i, hi⟩ := List.mem_iff_getElem?.1 hmem
      obtain ⟨item, hitem, hid⟩ := (hids i).1 hi
      exact ⟨i, item, hitem, by simp, hid⟩
  | some e =>
    dsimp only
    by_cases he : e < s.items.length
    · rw [List.map_set, nodup_set_iff h (by rwa [List.length_map])]
      constructor
      · intro honly hused
        obtain ⟨-, i, item, hitem, hother, hid⟩ := hused
        exact hother (congrArg some (honly i ((hids i).2 ⟨item, hitem, hid⟩)))
      · intro hunused j hj
        by_contra hne
        obtain ⟨item, hitem, hid⟩ := (hids j).1 hj
        refine hunused ⟨?_, j, item, hitem, fun heq => hne (Option.some.inj heq), hid⟩
        intro i hi
        obtain rfl := Option.some.inj hi
        exact he
    · rw [List.set_eq_of_length_le (by omega)]
      exact ⟨fun _ hused => he (hused.1 e rfl), fun _ => h⟩

theorem distinct_save_iff (h : s.Distinct F) : (s.act F .save).Distinct F ↔ ¬s.Collides F := by
  by_cases hsaves : s.drafting = true ∧ s.Accepts F
  · have hsave : s.act F .save = { items := s.placed, draft := F.blank } := by
      simp only [act, if_pos hsaves.1]
      exact handleAdd_of_accepts F s hsaves.2
    rw [hsave]
    show (s.placed.map F.id).Nodup ↔ _
    rw [distinct_placed_iff F s h]
    apply not_congr
    constructor
    · intro hused
      obtain ⟨hinList, i, item, hitem, hother, hid⟩ := hused
      refine ⟨hsaves.1, hsaves.2, hinList, ?_, i, item, hitem, hother, hid⟩
      -- the check would have found the trimmed id
      intro htrimmed
      exact hsaves.2.unused i item hitem hother (hid.trans htrimmed.symm)
    · intro hcollides
      exact ⟨hcollides.inList, hcollides.used⟩
  · have hsame : (s.act F .save).items = s.items := by
      simp only [act]
      split
      · rename_i hdrafting
        obtain ⟨err, herr⟩ := handleAdd_of_not_accepts F s fun haccepts => hsaves ⟨hdrafting, haccepts⟩
        rw [herr]
      · rfl
    have hdistinct : (s.act F .save).Distinct F := by
      unfold Distinct
      rw [hsame]
      exact h
    exact ⟨fun _ hcollides => hsaves ⟨hcollides.drafting, hcollides.accepts⟩, fun _ => hdistinct⟩

/-- Only a save that collides gives two items one id: the other actions add no item. -/
theorem distinct_act_iff (h : s.Distinct F) (a : StepAction α) :
    (s.act F a).Distinct F ↔ ¬(a = .save ∧ s.Collides F) := by
  by_cases ha : a = .save
  · subst ha
    rw [distinct_save_iff F s h]
    exact not_congr ⟨fun hcollides => ⟨rfl, hcollides⟩, fun hcollides => hcollides.2⟩
  · have hdistinct : (s.act F a).Distinct F := by
      unfold Distinct
      cases a with
      | startEdit i =>
        show ((s.startEdit i).items.map F.id).Nodup
        unfold startEdit
        split
        · exact h
        · exact h
      | cancel | add | change draft =>
        simp only [act]
        split
        · exact h
        · exact h
      | save => exact absurd rfl ha
      | remove i =>
        show ((s.items.eraseIdx i).map F.id).Nodup
        exact h.sublist ((List.eraseIdx_sublist s.items i).map F.id)
    exact ⟨fun _ hsave => ha hsave.1, fun _ => hdistinct⟩

end StepState

/-! ### The maps -/

/-- The map of the rows, one for each item, leads from the id of an item to the row of this item. -/
def LeadsToEach {α : Type} (key : α → String) (items : List α) : Prop :=
  ∀ {β : Type} (rows : List (Int × β)), items.length = rows.length →
    ∀ x ∈ items.zip rows, (idMap key items rows).get (key x.1) = some x.2.1

theorem leadsToEach_of_nodup {α : Type} {key : α → String} {items : List α} (h : (items.map key).Nodup) :
    LeadsToEach key items := by
  intro β rows hlength x hx
  have hkeys : ((items.zip rows).map fun y => key y.1).Nodup := by
    rw [← List.map_fst_zip (Nat.le_of_eq hlength), List.map_map] at h
    exact h
  obtain ⟨before, behind, hzip⟩ := List.append_of_mem hx
  have hother : ∀ y ∈ before ++ behind, key y.1 ≠ key x.1 := by
    rw [hzip] at hkeys
    have hmiddle : (before ++ x :: behind).Perm (x :: (before ++ behind)) := List.perm_middle
    have hperm := hmiddle.map fun y => key y.1
    have hcons := hperm.nodup_iff.1 hkeys
    rw [List.map_cons, List.nodup_cons] at hcons
    intro y hy heq
    exact hcons.1 (List.mem_map.2 ⟨y, hy, heq⟩)
  apply get_idMap_of_filter
  have hfilter : ∀ l : List (α × Int × β), (∀ y ∈ l, key y.1 ≠ key x.1) →
      l.filter (fun y => key y.1 = key x.1) = [] := by
    intro l hl
    rw [List.filter_eq_nil_iff]
    intro y hy
    rw [decide_eq_true_eq]
    exact hl y hy
  rw [hzip, List.filter_append, List.filter_cons, if_pos (decide_eq_true rfl),
    hfilter before fun y hy => hother y (List.mem_append_left _ hy),
    hfilter behind fun y hy => hother y (List.mem_append_right _ hy)]
  rfl

/-! ### The page -/

namespace PublishPage

/-- In each list the ids are pairwise distinct. -/
structure DistinctIds (w : PublishPage) : Prop where
  providers : (w.providers.items.map ProviderItem.id).Nodup
  catalogs : (w.catalogs.items.map CatalogItem.id).Nodup
  resources : (w.resources.items.map ResourceItem.id).Nodup
  offers : (w.offers.items.map OfferItem.id).Nodup

/-- A save in the step that is shown collides. -/
def Collides (w : PublishPage) : PageAction → Prop
  | .provider a => w.step = 1 ∧ a = .save ∧ w.providers.Collides providerForm
  | .catalog a => w.step = 2 ∧ a = .save ∧ w.catalogs.Collides catalogForm
  | .resource a => w.step = 3 ∧ a = .save ∧ w.resources.Collides (resourceForm w.ojkLicense)
  | .offer a => w.step = 4 ∧ a = .save ∧ w.offers.Collides offerForm
  | .next | .back => False

/-- The lists keep their ids apart, save for a collision in the step that is shown. -/
theorem distinctIds_act_iff {w : PublishPage} (h : w.DistinctIds) (a : PageAction) :
    (w.act a).DistinctIds ↔ ¬w.Collides a := by
  cases a with
  | next | back =>
    have hact : ∀ step, (w.goTo step).DistinctIds := fun _ => ⟨h.providers, h.catalogs, h.resources, h.offers⟩
    refine ⟨fun _ hcollides => hcollides, fun _ => ?_⟩
    simp only [act]
    split
    · exact hact _
    · exact h
  | provider a =>
    have hstep := StepState.distinct_act_iff providerForm w.providers h.providers a
    simp only [act]
    split
    · rename_i hone
      have hpage : { w with providers := w.providers.act providerForm a }.DistinctIds ↔
          (w.providers.act providerForm a).Distinct providerForm :=
        ⟨fun hact => hact.providers, fun hact => ⟨hact, h.catalogs, h.resources, h.offers⟩⟩
      rw [hpage, hstep]
      exact not_congr ⟨fun hsave => ⟨hone, hsave⟩, fun hcollides => hcollides.2⟩
    · rename_i hone
      exact ⟨fun _ hcollides => hone hcollides.1, fun _ => h⟩
  | catalog a =>
    have hstep := StepState.distinct_act_iff catalogForm w.catalogs h.catalogs a
    simp only [act]
    split
    · rename_i htwo
      have hpage : { w with catalogs := w.catalogs.act catalogForm a }.DistinctIds ↔
          (w.catalogs.act catalogForm a).Distinct catalogForm :=
        ⟨fun hact => hact.catalogs, fun hact => ⟨h.providers, hact, h.resources, h.offers⟩⟩
      rw [hpage, hstep]
      exact not_congr ⟨fun hsave => ⟨htwo.1, hsave⟩, fun hcollides => hcollides.2⟩
    · rename_i htwo
      refine ⟨fun _ hcollides => ?_, fun _ => h⟩
      obtain ⟨hshown, rfl, -⟩ := hcollides
      exact htwo ⟨hshown, rfl⟩
  | resource a =>
    have hstep := StepState.distinct_act_iff (resourceForm w.ojkLicense) w.resources h.resources a
    simp only [act]
    split
    · rename_i hthree
      have hpage : { w with resources := w.resources.act (resourceForm w.ojkLicense) a }.DistinctIds ↔
          (w.resources.act (resourceForm w.ojkLicense) a).Distinct (resourceForm w.ojkLicense) :=
        ⟨fun hact => hact.resources, fun hact => ⟨h.providers, h.catalogs, hact, h.offers⟩⟩
      rw [hpage, hstep]
      exact not_congr ⟨fun hsave => ⟨hthree, hsave⟩, fun hcollides => hcollides.2⟩
    · rename_i hthree
      exact ⟨fun _ hcollides => hthree hcollides.1, fun _ => h⟩
  | offer a =>
    have hstep := StepState.distinct_act_iff offerForm w.offers h.offers a
    simp only [act]
    split
    · rename_i hfour
      have hpage : { w with offers := w.offers.act offerForm a }.DistinctIds ↔
          (w.offers.act offerForm a).Distinct offerForm :=
        ⟨fun hact => hact.offers, fun hact => ⟨h.providers, h.catalogs, h.resources, hact⟩⟩
      rw [hpage, hstep]
      exact not_congr ⟨fun hsave => ⟨hfour.1, hsave⟩, fun hcollides => hcollides.2⟩
    · rename_i hfour
      refine ⟨fun _ hcollides => ?_, fun _ => h⟩
      obtain ⟨hshown, rfl, -⟩ := hcollides
      exact hfour ⟨hshown, rfl⟩

theorem after_take_succ {actions : List PageAction} {n : Nat} {a : PageAction} (ha : actions[n]? = some a) :
    after (actions.take (n + 1)) = (after (actions.take n)).act a := by
  unfold after
  rw [List.take_add_one, ha, List.foldl_append]
  rfl

/-- What `handlePublish` builds from lists with distinct ids keeps the items apart. -/
theorem DistinctIds.leadsToEach {w : PublishPage} (h : w.DistinctIds) :
    LeadsToEach ProviderItem.id w.providers.items ∧ LeadsToEach ResourceItem.id w.resources.items :=
  ⟨leadsToEach_of_nodup h.providers, leadsToEach_of_nodup h.resources⟩

/-- The ids are distinct after all actions, and the maps keep the items apart, if no save collides. -/
theorem distinctIds_after_iff (actions : List PageAction) :
    (∀ n, (after (actions.take n)).DistinctIds ∧
        LeadsToEach ProviderItem.id (after (actions.take n)).providers.items ∧
        LeadsToEach ResourceItem.id (after (actions.take n)).resources.items) ↔
      ∀ n a, actions[n]? = some a → ¬(after (actions.take n)).Collides a := by
  constructor
  · intro h n a ha
    rw [← distinctIds_act_iff (h n).1, ← after_take_succ ha]
    exact (h (n + 1)).1
  · intro h n
    have hdistinct : (after (actions.take n)).DistinctIds := by
      induction n with
      | zero => exact ⟨.nil, .nil, .nil, .nil⟩
      | succ n ih =>
        cases ha : actions[n]? with
        | none =>
          have htake : actions.take (n + 1) = actions.take n := by
            rw [List.take_add_one, ha]
            exact List.append_nil _
          rw [htake]
          exact ih
        | some a =>
          rw [after_take_succ ha, distinctIds_act_iff ih]
          exact h n a ha
    exact ⟨hdistinct, hdistinct.leadsToEach⟩

private def twice : List PageAction :=
  [.provider .add, .provider (.change { id := "A ", descriptor := [("name", .str "first")] }), .provider .save,
   .provider .add, .provider (.change { id := "A ", descriptor := [("name", .str "second")] }), .provider .save]

/-- An id with a blank behind it is accepted twice, and the map leads from both providers to one row. -/
theorem not_distinctIds_of_blank :
    (after twice).providers.items.map ProviderItem.id = ["A ", "A "] ∧ ¬(after twice).DistinctIds ∧
      (idMap ProviderItem.id (after twice).providers.items [(1, ()), (2, ())]).get "A " = some 2 := by
  have hids : (after twice).providers.items.map ProviderItem.id = ["A ", "A "] := by decide +kernel
  refine ⟨hids, ?_, by decide +kernel⟩
  intro h
  have hnodup := h.providers
  rw [hids] at hnodup
  revert hnodup
  decide

end PublishPage

end IonInsurance.Wizard
