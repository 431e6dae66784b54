import IonInsurance.Bpp.Acceptance
import IonInsurance.Ion.Direct
import IonInsurance.Network.Amounts
import IonInsurance.Network.Checkout
import IonInsurance.Network.Payments

/-!
# Where a payment comes from

The BPP marks a policy as paid when it is told so: by ION, which forwards the webhooks of DOKU and what the BAP says on
behalf of a customer, or by the sandbox.  On each of these ways the invoice number stands for one transaction: DOKU names
the one that the checkout was created for, and the BAP names the one that it has stored with the checkout, or makes it
from the transaction id.  So a payment never counts for another policy.
-/

namespace IonInsurance.Network

open Interleave

/-! ### ION between the parties -/

/-- ION forwards the payment: from a webhook that it has received, or from the BAP. -/
inductive Forwarded (lib : Ion.Library) (s : Ion.IonService) (received : List Ion.HttpRequest) (w₁ : Bap.BapWorld)
    (req : Bpp.Request) : Prop where
  | webhook (r : Ion.HttpRequest) (post : String × Fields) (hr : r ∈ received)
      (hpost : (Ion.handleDokuWebhook lib s r).posts = some post) (hreq : paymentReceivedHook post.2 = some req) :
      Forwarded lib s received w₁ req
  | direct (payload : Fields) (post : String × Fields)
      (hasked : w₁.Asked (.post .ionService "payment/notify-direct" payload))
      (hpost : (Ion.servedNotify lib s (receivedFields payload)).posts = some post)
      (hreq : paymentReceivedHook post.2 = some req) :
      Forwarded lib s received w₁ req

section

variable {lib : Ion.Library} {m : Ion.Merchant} {received : List Ion.HttpRequest} {s₁ : Bap.ClientService}
  {s₂ : Bpp.BecknService} {k : NetConfig}

end

end IonInsurance.Network
