import Mathlib.Data.List.DropRight
import IonInsurance.Go

/-!
# The steps of the publish wizard

The publish page collects providers, catalogs, resources and offers in four steps of one shape: a list of items, and a
form in which an item is drafted, either a new one or a copy of one of the list.  What the form sends to an item
besides its id, its links and its rates is kept as JSON.
-/

namespace IonInsurance.Wizard

/-! ### Items -/

/-- The characters that `trim` strips: white space and line terminators. -/
def isSpace (c : Char) : Bool :=
  (9 ≤ c.val && c.val ≤ 13) || (0x2000 ≤ c.val && c.val ≤ 0x200a) ||
    [0x20, 0xa0, 0x1680, 0x2028, 0x2029, 0x202f, 0x205f, 0x3000, 0xfeff].contains c.val.toNat

/-- `s.trim()`. -/
def trim (s : String) : String := String.ofList ((s.toList.dropWhile isSpace).rdropWhile isSpace)

theorem ne_empty_of_trim {s : String} (h : trim s ≠ "") : s ≠ "" := by
  rintro rfl
  exact h rfl

def blankDescriptor : Fields := [("name", .str ""), ("shortDesc", .str ""), ("longDesc", .str "")]

structure ProviderItem where
  id : String := ""
  descriptor : Fields := blankDescriptor
  providerAttributes : Fields :=
    [("ojkLicenseNumber", .str ""), ("ojkLicenseType", .str "ASURANSI_UMUM"), ("companyRegistrationNumber", .str ""),
     ("nibNumber", .str ""), ("ojkIknbLicense", .str ""), ("claimsRatioPercent", .str ""),
     ("solvencyMarginPercent", .str "")]
  availableAt : List Json := []

structure CatalogItem where
  id : String := ""
  descriptor : Fields := [("name", .str "")]
  version : String := "1.0.0"
  providerId : String := ""

structure ResourceItem where
  id : String := ""
  descriptor : Fields := blankDescriptor
  category : Fields := [("id", .str ""), ("descriptor", .obj [("name", .str "")])]
  providerId : String := ""
  resourceAttributes : Fields

structure OfferItem where
  id : String := ""
  resourceIds : List String := []
  offerAttributes : Fields :=
    [("inclusions", .arr []), ("specialExclusions", .arr []), ("requiredDocuments", .arr []), ("claimPolicy", .str ""),
     ("cancellationPolicy", .str ""), ("renewalPolicy", .str ""), ("endorsementPolicy", .str ""),
     ("grievanceSlaPolicy", .str "")]

/-- The zone and its rates are the defaults of the page. -/
def blankResource (ojkLicense : String) : ResourceItem where
  resourceAttributes :=
    [("productType", .str "MOTOR_COMPREHENSIVE"), ("vehicleType", .str "FOUR_WHEELER"), ("tariffZone", .str "ZONE_3"),
     ("premiumRateRange", .obj [("min", .num (253 / 100)), ("max", .num (308 / 100))]), ("ojkProductCode", .str ""),
     ("ojkLicenseNumber", .str ojkLicense), ("coverageInclusions", .arr []), ("standardExclusions", .arr []),
     ("deductibleAmount", .str ""), ("addOnOptions", .arr []), ("discounts", .arr [])]

/-! ### One step -/

/-- What differs between the steps. -/
structure Form (α : Type) where
  noun : String
  id : α → String
  /-- What a draft needs besides an id. -/
  complete : α → Bool
  /-- The draft after a save. -/
  blank : α
  /-- The draft of `Add`, which resets the edited index in the last step only. -/
  fresh : α
  resetsEdit : Bool := false

/-- The list of a step, which the page keeps, and the form, which it forgets when the step is left. -/
structure StepState (α : Type) where
  items : List α := []
  drafting : Bool := false
  editIdx : Option Nat := none
  draft : α
  fieldError : String := ""

inductive StepAction (α : Type) : Type where
  | startEdit (i : Nat)
  | cancel
  | add
  | change (draft : α)
  | save
  | remove (i : Nat)

namespace StepState

variable {α : Type} (F : Form α) (s : StepState α)

def startEdit (i : Nat) : StepState α :=
  match s.items[i]? with
  | some item => { s with editIdx := some i, draft := item, drafting := true, fieldError := "" }
  | none => s

def handleCancel : StepState α := { s with drafting := false, editIdx := none, fieldError := "" }

/-- The draft replaces the edited item, or is appended, unless another item has its trimmed id. -/
def handleAdd : StepState α :=
  let id := trim (F.id s.draft)
  if id = "" ∨ F.complete s.draft = false then s
  else if s.items.zipIdx.any fun (item, i) => F.id item = id && some i ≠ s.editIdx then
    { s with fieldError := "ID \"" ++ id ++ "\" is already used by another " ++ F.noun ++ "." }
  else
    { items :=
        match s.editIdx with
        | some i => s.items.set i s.draft
        | none => s.items ++ [s.draft]
      draft := F.blank }

/-- The form is shown while an item is drafted, and the button that opens it otherwise. -/
def act : StepAction α → StepState α
  | .startEdit i => s.startEdit i
  | .cancel => if s.drafting then s.handleCancel else s
  | .add =>
    if s.drafting then s
    else { s with draft := F.fresh, drafting := true, editIdx := if F.resetsEdit then none else s.editIdx }
  | .change draft => if s.drafting then { s with draft := draft } else s
  | .save => if s.drafting then s.handleAdd F else s
  | .remove i => { s with items := s.items.eraseIdx i }

/-- The step when it is entered again. -/
def entered : StepState α := { items := s.items, draft := F.blank }

/-- An item was there before, or it is the draft that has been saved. -/
theorem mem_handleAdd {item : α} (h : item ∈ (s.handleAdd F).items) :
    item ∈ s.items ∨ trim (F.id item) ≠ "" ∧ F.complete item = true := by
  unfold handleAdd at h
  dsimp only at h
  split at h
  · exact .inl h
  · rename_i hdraft
    rw [not_or] at hdraft
    have hsaved : trim (F.id s.draft) ≠ "" ∧ F.complete s.draft = true := ⟨hdraft.1, by simpa using hdraft.2⟩
    split at h
    · exact .inl h
    · split at h
      · rcases List.mem_or_eq_of_mem_set h with hold | rfl
        · exact .inl hold
        · exact .inr hsaved
      · rcases List.mem_append.1 h with hold | hnew
        · exact .inl hold
        · obtain rfl := List.mem_singleton.1 hnew
          exact .inr hsaved

/-- Every action keeps the items that a save has let through. -/
theorem mem_act {a : StepAction α} {item : α} (h : item ∈ (s.act F a).items) :
    item ∈ s.items ∨ trim (F.id item) ≠ "" ∧ F.complete item = true := by
  cases a with
  | startEdit i =>
    change item ∈ (s.startEdit i).items at h
    unfold startEdit at h
    split at h
    · exact .inl h
    · exact .inl h
  | cancel | add | change draft =>
    simp only [act] at h
    split at h
    · exact .inl h
    · exact .inl h
  | save =>
    simp only [act] at h
    split at h
    · exact mem_handleAdd F s h
    · exact .inl h
  | remove i => exact .inl (List.mem_of_mem_eraseIdx h)

end StepState

/-! ### The page -/

/-- The name of an item. -/
def nameOf (descriptor : Fields) : String := (descriptor.get "name").text

def providerForm : Form ProviderItem where
  noun := "provider"
  id := ProviderItem.id
  complete draft := trim (nameOf draft.descriptor) ≠ ""
  blank := {}
  fresh := {}

def catalogForm : Form CatalogItem where
  noun := "catalog"
  id := CatalogItem.id
  complete draft := trim (nameOf draft.descriptor) ≠ "" && draft.providerId ≠ ""
  blank := {}
  fresh := {}

/-- A new resource has the licence of the first provider. -/
def resourceForm (ojkLicense : String) : Form ResourceItem where
  noun := "resource"
  id := ResourceItem.id
  complete draft := trim (nameOf draft.descriptor) ≠ ""
  blank := blankResource ""
  fresh := blankResource ojkLicense

def offerForm : Form OfferItem where
  noun := "offer"
  id := OfferItem.id
  complete _ := true
  blank := {}
  fresh := {}
  resetsEdit := true

@[simp] theorem complete_providerForm (draft : ProviderItem) :
    providerForm.complete draft = decide (trim (nameOf draft.descriptor) ≠ "") := by
  simp only [providerForm]

@[simp] theorem complete_catalogForm (draft : CatalogItem) :
    catalogForm.complete draft = (decide (trim (nameOf draft.descriptor) ≠ "") && decide (draft.providerId ≠ "")) := by
  simp only [catalogForm]

@[simp] theorem complete_resourceForm (ojkLicense : String) (draft : ResourceItem) :
    (resourceForm ojkLicense).complete draft = decide (trim (nameOf draft.descriptor) ≠ "") := by
  simp only [resourceForm]

structure PublishPage where
  step : Nat := 1
  providers : StepState ProviderItem := { draft := {} }
  catalogs : StepState CatalogItem := { draft := {} }
  resources : StepState ResourceItem := { draft := blankResource "" }
  offers : StepState OfferItem := { draft := {} }

inductive PageAction : Type where
  | next
  | back
  | provider (a : StepAction ProviderItem)
  | catalog (a : StepAction CatalogItem)
  | resource (a : StepAction ResourceItem)
  | offer (a : StepAction OfferItem)

/-- Ticking a resource adds its id to those of the offer, or takes it away. -/
def toggleResource (resourceIds : List String) (id : String) : List String :=
  if resourceIds.contains id then resourceIds.filter fun x => x ≠ id else resourceIds ++ [id]

namespace PublishPage

def canAdvance (w : PublishPage) : Bool :=
  match w.step with
  | 1 => !w.providers.items.isEmpty
  | 2 => !w.catalogs.items.isEmpty
  | 3 => !w.resources.items.isEmpty
  | 4 => !w.offers.items.isEmpty
  | _ => true

/-- Another step is shown, with a new form. -/
def goTo (w : PublishPage) (step : Nat) : PublishPage where
  step := step
  providers := w.providers.entered providerForm
  catalogs := w.catalogs.entered catalogForm
  resources := w.resources.entered (resourceForm "")
  offers := w.offers.entered offerForm

def ojkLicense (w : PublishPage) : String :=
  ((w.providers.items.head?.map fun p => (p.providerAttributes.get "ojkLicenseNumber").text)).getD ""

/-- The form of a catalog offers the providers of the page to link it to. -/
def linksCatalog (w : PublishPage) : StepAction CatalogItem → Bool
  | .change draft =>
    draft.providerId = w.catalogs.draft.providerId || draft.providerId = "" ||
      w.providers.items.any fun p => p.id = draft.providerId
  | _ => true

/-- The form of an offer lets resources of the page be ticked, or is filled in with the first of them. -/
def linksOffer (w : PublishPage) : StepAction OfferItem → Bool
  | .change draft =>
    draft.resourceIds = w.offers.draft.resourceIds ||
      (w.resources.items.any fun r => draft.resourceIds = toggleResource w.offers.draft.resourceIds r.id) ||
      draft.resourceIds = (w.resources.items.head?.map ResourceItem.id).toList
  | _ => true

/-- Only the step that is shown takes actions. -/
def act (w : PublishPage) : PageAction → PublishPage
  | .next => if w.step < 5 ∧ w.canAdvance then w.goTo (w.step + 1) else w
  | .back => if 1 < w.step then w.goTo (w.step - 1) else w
  | .provider a => if w.step = 1 then { w with providers := w.providers.act providerForm a } else w
  | .catalog a => if w.step = 2 ∧ w.linksCatalog a then { w with catalogs := w.catalogs.act catalogForm a } else w
  | .resource a => if w.step = 3 then { w with resources := w.resources.act (resourceForm w.ojkLicense) a } else w
  | .offer a => if w.step = 4 ∧ w.linksOffer a then { w with offers := w.offers.act offerForm a } else w

/-- The page after actions of the user. -/
def after (actions : List PageAction) : PublishPage := actions.foldl act {}

/-- `canAdvance` holds in every step. -/
def Complete (w : PublishPage) : Prop := ∀ step, { w with step := step }.canAdvance = true

/-- The items have been saved through their forms. -/
structure Saved (w : PublishPage) : Prop where
  providers : ∀ item ∈ w.providers.items, trim item.id ≠ "" ∧ trim (nameOf item.descriptor) ≠ ""
  catalogs : ∀ item ∈ w.catalogs.items, trim item.id ≠ "" ∧ trim (nameOf item.descriptor) ≠ "" ∧ item.providerId ≠ ""
  resources : ∀ item ∈ w.resources.items, trim item.id ≠ "" ∧ trim (nameOf item.descriptor) ≠ ""
  offers : ∀ item ∈ w.offers.items, trim item.id ≠ ""

theorem Saved.goTo {w : PublishPage} (h : w.Saved) (step : Nat) : (w.goTo step).Saved :=
  ⟨h.providers, h.catalogs, h.resources, h.offers⟩

theorem Saved.act {w : PublishPage} (h : w.Saved) (a : PageAction) : (w.act a).Saved := by
  cases a with
  | next =>
    simp only [PublishPage.act]
    split
    · exact h.goTo _
    · exact h
  | back =>
    simp only [PublishPage.act]
    split
    · exact h.goTo _
    · exact h
  | provider a =>
    simp only [PublishPage.act]
    split
    · refine ⟨?_, h.catalogs, h.resources, h.offers⟩
      intro item hitem
      rcases StepState.mem_act _ _ hitem with hold | ⟨hid, hcomplete⟩
      · exact h.providers item hold
      · rw [complete_providerForm, decide_eq_true_eq] at hcomplete
        exact ⟨hid, hcomplete⟩
    · exact h
  | catalog a =>
    simp only [PublishPage.act]
    split
    · refine ⟨h.providers, ?_, h.resources, h.offers⟩
      intro item hitem
      rcases StepState.mem_act _ _ hitem with hold | ⟨hid, hcomplete⟩
      · exact h.catalogs item hold
      · rw [complete_catalogForm, Bool.and_eq_true, decide_eq_true_eq, decide_eq_true_eq] at hcomplete
        exact ⟨hid, hcomplete⟩
    · exact h
  | resource a =>
    simp only [PublishPage.act]
    split
    · refine ⟨h.providers, h.catalogs, ?_, h.offers⟩
      intro item hitem
      rcases StepState.mem_act _ _ hitem with hold | ⟨hid, hcomplete⟩
      · exact h.resources item hold
      · rw [complete_resourceForm, decide_eq_true_eq] at hcomplete
        exact ⟨hid, hcomplete⟩
    · exact h
  | offer a =>
    simp only [PublishPage.act]
    split
    · refine ⟨h.providers, h.catalogs, h.resources, ?_⟩
      intro item hitem
      rcases StepState.mem_act _ _ hitem with hold | ⟨hid, -⟩
      · exact h.offers item hold
      · exact hid
    · exact h

end PublishPage

end IonInsurance.Wizard
