import IonInsurance.Bap.Amounts
import IonInsurance.Network.Funds
import IonInsurance.Network.Quote

/-!
# The amount that is released

The BPP asks a total in its `on_init`, the BAP names it in the reconcile, and the BPP hands it to ION, which asks DOKU
for it.  So what DOKU is asked to release is what a customer was asked to pay, unless the BAP has no `on_init` of the
transaction: then it is the fixed sum that `getPaymentAmountFromSnapshot` falls back to.  A total is a `float64` on its
way from the BPP to the BAP, and is whole there; on the way back it does not change any more.
-/

namespace IonInsurance.Network

open Arith Interleave

/-! ### What is delivered was sent -/

/-- Every callback of the network and every delivery of a message was sent by the other side. -/
structure Delivered (w₁ : Bap.BapWorld) (w₂ : Bpp.BppWorld) : Prop where
  toBap : ∀ d r peer action payload, w₁.request? d = some r → sentByBpp r = some (peer, action, payload) →
    PostedByBpp w₂ peer action payload
  toBpp : ∀ d r peer action req, w₂.request? d = some r → sentByBap r = some (peer, action, req) →
    PostedByBap w₁ peer action req

/-- The BPP has answered an init of `t` with an `on_init` whose total is decoded as `n`. -/
def Asks (w : Bpp.BppWorld) (t : String) (n : Int) : Prop :=
  ∃ d req payload total, w.request? d = some (.init req) ∧ Bpp.transactionID req = t ∧
    Bpp.Answered w d "on_init" payload ∧ Bpp.totalAmountOf payload = some total ∧ (n : ℚ) = binary64 total

/-- What has been decoded once is not rounded again. -/
theorem Asks.binary64 {w : Bpp.BppWorld} {t : String} {n : Int} (h : Asks w t n) : binary64 n = n := by
  obtain ⟨_, _, _, total, -, -, -, -, hn⟩ := h
  rw [hn, binary64_binary64]

section

variable {s : Bpp.BecknService}

end

/-! ### The total of a reconcile -/

section

variable {s₁ : Bap.ClientService} {s₂ : Bpp.BecknService} {k : NetConfig}

end

end IonInsurance.Network
