import IonInsurance.Interleave.Growth
import IonInsurance.Catalog.Publishing

/-!
# The inventory of a publication

A publish reads the resources, and then the offers of each of them in a query of its own, while other requests may insert
rows.  Rows are never deleted, so what is published contains what was there before the publish, and nothing that is not
there afterwards.  Only a query whose rows end early, or one for offers that fails, goes unnoticed: what it has not given
is not published.
-/

namespace IonInsurance.Catalog

open Interleave Relational

abbrev History := List (Prog.Exchange Op Op.Ans)

/-! ### The tables grow -/

/-- No resource and no offer has been taken away, or put before another one. -/
structure Grown (s s' : Db) : Prop where
  resources : s.resources.rows <+: s'.resources.rows
  offers : s.offers.rows <+: s'.offers.rows

theorem exec_grown (o : Op) (c : Choice) (s : Db) : Grown s (exec o c s).2 := by
  have hstep := exec_dbStep o c s
  generalize (exec o c s).2 = s' at hstep ⊢
  cases hstep with
  | resource row => exact ⟨List.prefix_append .., List.prefix_rfl⟩
  | offer row => exact ⟨List.prefix_rfl, List.prefix_append ..⟩
  | keep | provider | catalog | results => exact ⟨List.prefix_rfl, List.prefix_rfl⟩

theorem machine_grows (s : CatalogService) : (machine s).Grows Grown where
  refl _ := ⟨List.prefix_rfl, List.prefix_rfl⟩
  trans h h' := ⟨h.resources.trans h'.resources, h.offers.trans h'.offers⟩
  exec := exec_grown

theorem Grown.offersOf {s s' : Db} (h : Grown s s') (id : Int) : offersOf s id <+: offersOf s' id := h.offers.filter _

/-! ### What a publish has read -/

/-- A resource with the offers that were read of it. -/
abbrev Stocked := (Int × Resource) × List (Int × Offer)

def Stocked.published (x : Stocked) : Json := publishedResource x.1 x.2

section

variable {s : CatalogService} {k₀ k : CatalogConfig} {d : Nat}

end

end IonInsurance.Catalog
