import IonInsurance.Marshal
import IonInsurance.Nested
import IonInsurance.Panics
import IonInsurance.Bap.Listing

/-!
# The enrichment of a payload

`injectIntoConsiderationAttributes` writes into a map that the payload holds, at the end of a chain of lookups each of
which may find nothing.  The payload is stored, logged and published afterwards, and its other readers see what they
saw before.
-/

namespace IonInsurance.Bap

open Nested Panics

/-! ### Paths -/

/-- The child of a value under a key; an object has none under a key that it lacks. -/
def child : Json → Key → Option Json
  | .obj m, .name k => m.lookup k
  | .arr xs, .index i => xs[i]?
  | _, _ => none

/-- What a payload has at a path. -/
def read (payload : Fields) (path : List Key) : Option Json := walk child (some (.obj payload)) path

/-- `message.contract.commitments[0]`. -/
def commitmentPath : List Key := [.name "message", .name "contract", .name "commitments", .index 0]

def attributesPath : List Key := commitmentPath ++ [.name "considerationAttributes"]

/-! ### The source, operation by operation -/

/-- The payload after its `commitments[0].considerationAttributes`, a map, has become `f` of what it was. -/
def modifyAttributes (payload : Fields) (f : Fields → Fields) : Fields :=
  modifyObject payload "message" fun message => modifyObject message "contract" fun contract =>
    match contract.get "commitments" with
    | .arr (.obj c :: rest) =>
      contract.set "commitments" (.arr (.obj (modifyObject c "considerationAttributes" f) :: rest))
    | _ => contract

namespace Building

/-- The map `ca` is the one that the payload holds, so that what is assigned to it is in the payload. -/
def injectIntoConsiderationAttributes (payload : GoMap) (extra : Fields) : Run GoMap := do
  let (msg, _) ← asMap .commaOk (payload.index "message")
  let (contract, _) ← asMap .commaOk (msg.index "contract")
  let (commitments, _) ← asSlice .commaOk (contract.index "commitments")
  if commitments.length = 0 then return payload
  else
    let c ← item commitments 0
    let (c, _) ← asMap .commaOk c
    let (ca, _) ← asMap .commaOk (c.index "considerationAttributes")
    if ca = none then return payload
    else
      let ca ← extra.foldlM (fun m e => m.assign e.1 e.2) ca
      return payload.map fun m => modifyAttributes m fun _ => ca.getD []

end Building

/-- The fields of `extra` in a map. -/
def merge (extra m : Fields) : Fields := extra.foldl (fun m e => m.set e.1 e.2) m

theorem injectIntoConsiderationAttributes_eq (payload extra : Fields) :
    injectIntoConsiderationAttributes payload extra = modifyAttributes payload (merge extra) := rfl

/-- The map `considerationAttributes` of a payload, where it is one. -/
def attributes? (payload : Fields) : Option Fields :=
  ((((commitmentsOf payload).headD .null).fields).get "considerationAttributes").fields?

theorem inject_run (payload extra : Fields) :
    Building.injectIntoConsiderationAttributes (some payload) extra = .ok (some
      (match attributes? payload with
      | none => payload
      | some m => modifyAttributes payload fun _ => merge extra m)) := by
  unfold Building.injectIntoConsiderationAttributes attributes? commitmentsOf
  obtain ⟨_, hslice⟩ :=
    asSlice_commaOk (((payload.get "message").fields.get "contract").fields.get "commitments")
  simp only [asMap_commaOk, GoMap.index_some, GoMap.index_fields?, bind, Except.bind, hslice]
  cases hc : (((payload.get "message").fields.get "contract").fields.get "commitments").items with
  | nil => rfl
  | cons c rest =>
    have hlength : ¬(c :: rest).length = 0 := Nat.succ_ne_zero _
    rw [if_neg hlength, item_cons_zero]
    rw [List.headD_cons]
    show (if (c.fields.get "considerationAttributes").fields? = none then _ else _) = _
    cases (c.fields.get "considerationAttributes").fields? with
    | none => rfl
    | some m =>
      rw [if_neg (Option.some_ne_none m), GoMap.foldlM_assign]
      rfl

/-! ### What the enrichment changes -/

/-- The two values are of one kind, or both are absent. -/
def SameKind (x y : Option Json) : Prop := y.map kind = x.map kind

theorem SameKind.refl (x : Option Json) : SameKind x x := rfl

/-- The two values differ in the children under `keys` only. -/
def DiffersUnder (keys : List String) (x y : Option Json) : Prop :=
  SameKind x y ∧ ∀ k, (∀ name ∈ keys, k ≠ .name name) → below child y k = below child x k

theorem DiffersUnder.refl (keys : List String) (x : Option Json) : DiffersUnder keys x x := ⟨rfl, fun _ _ => rfl⟩

/-- What is read under a key and is not nil is there. -/
theorem lookup_of_get {m : Fields} {k : String} {v : Json} (h : m.get k = v) (hv : v ≠ .null) :
    m.lookup k = some v := by
  unfold Fields.get at h
  cases hk : m.lookup k with
  | none =>
    rw [hk] at h
    exact absurd h.symm hv
  | some v' =>
    rw [hk] at h
    exact congrArg some h

/-- An assignment changes the child under its key. -/
theorem below_set_ne {m : Fields} {k : String} {v : Json} {k' : Key} (h : k' ≠ .name k) :
    below child (some (.obj (m.set k v))) k' = below child (some (.obj m)) k' := by
  cases k' with
  | index i => rfl
  | name k' =>
    show (m.set k v).lookup k' = m.lookup k'
    rw [Fields.lookup_set, if_neg fun hk => h (by rw [hk])]

theorem below_set_self (m : Fields) (k : String) (v : Json) :
    below child (some (.obj (m.set k v))) (.name k) = some v := by
  show (m.set k v).lookup k = some v
  rw [Fields.lookup_set, if_pos rfl]

theorem differsUnder_merge (extra m : Fields) :
    DiffersUnder (extra.map Prod.fst) (some (.obj m)) (some (.obj (merge extra m))) := by
  refine ⟨rfl, ?_⟩
  unfold merge
  induction extra generalizing m with
  | nil => exact fun _ _ => rfl
  | cons e extra ih =>
    intro k hk
    rw [List.map_cons] at hk
    rw [List.foldl_cons, ih (m.set e.1 e.2) k fun name hname => hk name (List.mem_cons_of_mem _ hname)]
    exact below_set_ne (hk e.1 List.mem_cons_self)

section

variable {R : Option Json → Option Json → Prop} {f : Fields → Fields}

/-- A map that is replaced by its image differs from it where the image does. -/
theorem changedAt_modifyObject {p : List Key} (hR : ∀ x, R x x) (m : Fields) (k : String)
    (h : ∀ inner, ChangedAt child SameKind R p (some (.obj inner)) (some (.obj (f inner)))) :
    ChangedAt child SameKind R (.name k :: p) (some (.obj m)) (some (.obj (modifyObject m k f))) := by
  unfold modifyObject
  cases hk : m.get k with
  | obj inner =>
    refine ⟨rfl, fun k' hne => below_set_ne hne, ?_⟩
    have hx : below child (some (.obj m)) (.name k) = some (.obj inner) := lookup_of_get hk nofun
    rw [hx, below_set_self]
    exact h inner
  | _ => exact .refl SameKind.refl hR _ _

theorem changedAt_modifyAttributes (hR : ∀ x, R x x) (hf : ∀ m, R (some (.obj m)) (some (.obj (f m))))
    (payload : Fields) : ChangedAt child SameKind R attributesPath (some (.obj payload))
      (some (.obj (modifyAttributes payload f))) := by
  apply changedAt_modifyObject hR payload "message"
  intro message
  apply changedAt_modifyObject hR message "contract"
  intro contract
  split
  · rename_i c rest hcommitments
    refine ⟨rfl, fun k' hne => below_set_ne hne, ?_⟩
    have hx : below child (some (.obj contract)) (.name "commitments") = some (.arr (.obj c :: rest)) :=
      lookup_of_get hcommitments nofun
    rw [hx, below_set_self]
    -- the first commitment is replaced, and the others stay
    refine ⟨rfl, ?_, changedAt_modifyObject hR c "considerationAttributes" hf⟩
    intro k' hne
    cases k' with
    | name k' => rfl
    | index i =>
      cases i with
      | zero => exact absurd rfl hne
      | succ i => rfl
  · exact .refl SameKind.refl hR _ _

end

/-! ### What other readers see -/

theorem get_fields_eq (x : Option Json) (k : String) :
    (x.getD .null).fields.get k = (below child x (.name k)).getD .null := by
  cases x with
  | none => rfl
  | some v => cases v <;> rfl

theorem headD_items_eq (x : Option Json) :
    (x.getD .null).items.headD .null = (below child x (.index 0)).getD .null := by
  cases x with
  | none => rfl
  | some v =>
    cases v with
    | arr xs => cases xs <;> rfl
    | _ => rfl

theorem commitment_eq (payload : Fields) :
    (commitmentsOf payload).headD .null = (read payload commitmentPath).getD .null := by
  have hmessage : payload.get "message" = (below child (some (.obj payload)) (.name "message")).getD .null := rfl
  unfold commitmentsOf
  rw [hmessage, get_fields_eq, get_fields_eq, headD_items_eq]
  rfl

theorem contextOf_eq (payload : Fields) : contextOf payload = ((read payload [.name "context"]).getD .null).fields := rfl

theorem total_eq (payload : Fields) : (read payload (attributesPath ++ [.name "totalAmountIDR"])).getD .null =
    (((commitmentsOf payload).headD .null).fields.get "considerationAttributes").fields.get "totalAmountIDR" := by
  rw [commitment_eq, get_fields_eq, get_fields_eq]
  rfl

theorem extractTotalIDRFromOnInit_eq (payload : Fields) : extractTotalIDRFromOnInit payload =
    (((read payload (attributesPath ++ [.name "totalAmountIDR"])).getD .null).num?.map int64).getD 500000 := by
  rw [total_eq]
  unfold extractTotalIDRFromOnInit
  cases commitmentsOf payload with
  | nil => rfl
  | cons c rest =>
    rw [List.headD_cons]
    dsimp only
    cases ((c.fields.get "considerationAttributes").fields.get "totalAmountIDR").num? <;> rfl

theorem extractPolicyStateFromOnConfirm_eq (payload : Fields) : extractPolicyStateFromOnConfirm payload =
    ((read payload (commitmentPath ++ [.name "commitmentAttributes", .name "policyState"])).getD .null).text := by
  have hpath : ((read payload (commitmentPath ++ [.name "commitmentAttributes", .name "policyState"])).getD .null) =
      ((((commitmentsOf payload).headD .null).fields.get "commitmentAttributes").fields.get "policyState") := by
    rw [commitment_eq, get_fields_eq, get_fields_eq]
    rfl
  rw [hpath]
  unfold extractPolicyStateFromOnConfirm
  cases commitmentsOf payload <;> rfl

theorem attributes?_eq (payload : Fields) :
    attributes? payload = ((read payload attributesPath).getD .null).fields? := by
  have hpath : (read payload attributesPath).getD .null =
      ((commitmentsOf payload).headD .null).fields.get "considerationAttributes" := by
    rw [commitment_eq, get_fields_eq]
    rfl
  rw [hpath]
  rfl

/-! ### The frame -/

theorem modifyObject_congr {m : Fields} {k : String} {f g : Fields → Fields}
    (h : ∀ inner, m.get k = .obj inner → f inner = g inner) : modifyObject m k f = modifyObject m k g := by
  unfold modifyObject
  cases hk : m.get k with
  | obj inner =>
    dsimp only
    rw [h inner hk]
  | _ => rfl

/-- Only what becomes of the map matters. -/
theorem modifyAttributes_congr {payload m : Fields} {f g : Fields → Fields} (hm : attributes? payload = some m)
    (h : f m = g m) : modifyAttributes payload f = modifyAttributes payload g := by
  apply modifyObject_congr
  intro message hmessage
  apply modifyObject_congr
  intro contract hcontract
  cases hc : Fields.get contract "commitments" with
  | arr xs =>
    cases xs with
    | nil => rfl
    | cons x rest =>
      cases x with
      | obj c =>
        have hcongr : modifyObject c "considerationAttributes" f = modifyObject c "considerationAttributes" g := by
          apply modifyObject_congr
          intro inner hinner
          unfold attributes? commitmentsOf at hm
          rw [hmessage, Json.fields_obj, hcontract, Json.fields_obj, hc, Json.items_arr, List.headD_cons,
            Json.fields_obj, hinner] at hm
          obtain rfl : inner = m := Option.some.inj hm
          exact h
        dsimp only
        rw [hcongr]
      | _ => rfl
  | _ => rfl

section

variable {payload enriched : Fields} {keys : List String}
  (h : ChangedAt child SameKind (DiffersUnder keys) attributesPath (some (.obj payload)) (some (.obj enriched)))
  {path : List Key} (hkeys : ∀ k ∈ keys, ¬attributesPath ++ [.name k] <+: path)
include h hkeys

/-- Below the attributes the values under other keys stay, and outside of them every value does. -/
theorem read_of_changedAt (hpath : ¬path <+: attributesPath) : read enriched path = read payload path := by
  by_cases hp : attributesPath <+: path
  · obtain ⟨r, rfl⟩ := hp
    cases r with
    | nil =>
      -- the path of the attributes themselves
      rw [List.append_nil] at hpath
      exact absurd List.prefix_rfl hpath
    | cons k r =>
      have hk : ∀ name ∈ keys, k ≠ .name name := by
        intro name hname hkey
        apply hkeys name hname
        rw [hkey]
        exact ⟨r, by rw [List.append_assoc, List.singleton_append]⟩
      unfold read
      rw [walk_append, walk_append, walk_cons, walk_cons, h.at_end.2 k hk]
  · exact h.outside hpath hp

theorem sameKind_of_changedAt : SameKind (read payload path) (read enriched path) := by
  by_cases hpath : path <+: attributesPath
  · by_cases heq : path = attributesPath
    · subst heq
      exact h.at_end.1
    · exact h.along hpath heq
  · unfold SameKind
    rw [read_of_changedAt h hkeys hpath]

end

section

variable {payload enriched : Fields} {keys : List String}
  (h : ChangedAt child SameKind (DiffersUnder keys) attributesPath (some (.obj payload)) (some (.obj enriched)))
include h

theorem total_of_changedAt (hkeys : "totalAmountIDR" ∉ keys) :
    read enriched (attributesPath ++ [.name "totalAmountIDR"]) =
      read payload (attributesPath ++ [.name "totalAmountIDR"]) := by
  apply read_of_changedAt h
  · intro k hk hprefix
    rw [List.prefix_append_right_inj, List.cons_prefix_cons] at hprefix
    exact hkeys (Key.name.inj hprefix.1 ▸ hk)
  · decide

theorem policyState_of_changedAt :
    extractPolicyStateFromOnConfirm enriched = extractPolicyStateFromOnConfirm payload := by
  rw [extractPolicyStateFromOnConfirm_eq, extractPolicyStateFromOnConfirm_eq, read_of_changedAt h]
  · intro k _ hprefix
    unfold attributesPath at hprefix
    rw [List.append_assoc, List.prefix_append_right_inj, List.singleton_append, List.cons_prefix_cons] at hprefix
    exact absurd hprefix.1 (by decide)
  · decide

theorem contextOf_of_changedAt : contextOf enriched = contextOf payload := by
  rw [contextOf_eq, contextOf_eq, read_of_changedAt h]
  · intro k _ hprefix
    exact absurd (List.cons_prefix_cons.1 hprefix).1 (by decide)
  · decide

end

theorem changedAt_inject (payload extra : Fields) :
    ChangedAt child SameKind (DiffersUnder (extra.map Prod.fst)) attributesPath (some (.obj payload))
      (some (.obj (injectIntoConsiderationAttributes payload extra))) := by
  rw [injectIntoConsiderationAttributes_eq]
  exact changedAt_modifyAttributes (.refl _) (differsUnder_merge extra) payload

/-- The payload after the assignments is the payload itself where it has no attributes. -/
theorem inject_run_changedAt (payload extra : Fields) : ∃ enriched,
    Building.injectIntoConsiderationAttributes (some payload) extra = .ok (some enriched) ∧
      ((∀ m, read payload attributesPath ≠ some (.obj m)) → enriched = payload) ∧
      ChangedAt child SameKind (DiffersUnder (extra.map Prod.fst)) attributesPath (some (.obj payload))
        (some (.obj enriched)) := by
  refine ⟨_, inject_run payload extra, ?_⟩
  cases hm : attributes? payload with
  | none => exact ⟨fun _ => rfl, .refl .refl (.refl _) _ _⟩
  | some m =>
    constructor
    · intro hnone
      rw [attributes?_eq] at hm
      cases hread : read payload attributesPath with
      | none =>
        rw [hread] at hm
        cases hm
      | some v =>
        rw [hread] at hm
        cases v with
        | obj m' => exact absurd hread (hnone m')
        | _ => cases hm
    · have hsame : modifyAttributes payload (fun _ => merge extra m) = modifyAttributes payload (merge extra) :=
        modifyAttributes_congr hm rfl
      dsimp only
      rw [hsame]
      exact changedAt_inject payload extra

/-- The enrichment writes the given keys of the attributes, if these are a map, and changes nothing else that is read
of the payload. -/
theorem inject_changes_attributes_only (payload extra : Fields) (hextra : "totalAmountIDR" ∉ extra.map Prod.fst) :
    Building.injectIntoConsiderationAttributes none extra = .ok none ∧
    ∃ enriched, Building.injectIntoConsiderationAttributes (some payload) extra = .ok (some enriched) ∧
      ((∀ m, read payload attributesPath ≠ some (.obj m)) → enriched = payload) ∧
      (∀ path, (∀ k ∈ extra.map Prod.fst, ¬attributesPath ++ [.name k] <+: path) → ¬path <+: attributesPath →
        read enriched path = read payload path) ∧
      (∀ path, (∀ k ∈ extra.map Prod.fst, ¬attributesPath ++ [.name k] <+: path) →
        SameKind (read payload path) (read enriched path)) ∧
      extractTotalIDRFromOnInit enriched = extractTotalIDRFromOnInit payload ∧
      extractPolicyStateFromOnConfirm enriched = extractPolicyStateFromOnConfirm payload ∧
      contextOf enriched = contextOf payload := by
  obtain ⟨enriched, hrun, hnone, hchanged⟩ := inject_run_changedAt payload extra
  have htotal : extractTotalIDRFromOnInit enriched = extractTotalIDRFromOnInit payload := by
    rw [extractTotalIDRFromOnInit_eq, extractTotalIDRFromOnInit_eq, total_of_changedAt hchanged hextra]
  exact ⟨rfl, enriched, hrun, hnone, fun path hkeys hpath => read_of_changedAt hchanged hkeys hpath,
    fun path hkeys => sameKind_of_changedAt hchanged hkeys, htotal, policyState_of_changedAt hchanged,
    contextOf_of_changedAt hchanged⟩

/-- The `on_init` of a quote of 160000. -/
def quotedPayload : Fields :=
  [("context", .obj [("transaction_id", .str "t-1"), ("message_id", .str "m-1")]),
   ("message", .obj [("contract", .obj [("commitments", .arr [.obj
     [("considerationAttributes", .obj [("totalAmountIDR", .int 160000)])]])])])]

theorem inject_changes_attributes_only_quoted : ∃ enriched,
    Building.injectIntoConsiderationAttributes (some quotedPayload)
      [("checkoutUrl", .str "https://pay.example/1"), ("invoiceNumber", .str "ins-t-1")] = .ok (some enriched) ∧
    extractTotalIDRFromOnInit enriched = 160000 ∧ transactionID enriched = "t-1" := by
  obtain ⟨-, enriched, hrun, -, -, -, htotal, -, hcontext⟩ := inject_changes_attributes_only quotedPayload
    [("checkoutUrl", .str "https://pay.example/1"), ("invoiceNumber", .str "ins-t-1")] (by decide)
  refine ⟨enriched, hrun, ?_, ?_⟩
  · rw [htotal]
    decide +kernel
  · unfold transactionID
    rw [hcontext]
    decide +kernel

/-- What `HandleCallback` stores, logs and publishes is the payload but for the fields of a checkout. -/
theorem changedAt_enrich (s : ClientService) (payload : Fields) : (enrich s payload).Yields fun enriched =>
    ChangedAt child SameKind (DiffersUnder ["checkoutUrl", "invoiceNumber"]) attributesPath (some (.obj payload))
      (some (.obj enriched)) := by
  unfold enrich
  refine Interleave.Prog.yields_bind (fun _ => ?_) (call _)
  refine Interleave.Prog.yields_bind ?_ (callIONCreateCheckout ..)
  intro co
  cases co with
  | error err => exact .refl .refl (.refl _) _ _
  | ok co =>
    intro _
    exact changedAt_inject payload _

end IonInsurance.Bap
