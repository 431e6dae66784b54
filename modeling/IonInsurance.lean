import IonInsurance.Interleave.Prog
import IonInsurance.Interleave.Machine
import IonInsurance.Interleave.Protocol
import IonInsurance.Interleave.Serve
import IonInsurance.Interleave.Account
import IonInsurance.Interleave.Count
import IonInsurance.Interleave.Compose
import IonInsurance.Interleave.Observe
import IonInsurance.Interleave.Dialogue
import IonInsurance.Interleave.Growth
import IonInsurance.Interleave.Embed
import IonInsurance.Interleave.Project
import IonInsurance.Arith.Trunc
import IonInsurance.Arith.Binary64
import IonInsurance.Arith.Relative
import IonInsurance.Arith.Shares
import IonInsurance.Arith.Rounding
import IonInsurance.Relational.LeftJoin
import IonInsurance.Relational.Table
import IonInsurance.Relational.Keyed
import IonInsurance.Go
import IonInsurance.Clock
import IonInsurance.Environment
import IonInsurance.Marshal
import IonInsurance.Panics
import IonInsurance.Nested
import IonInsurance.Labelled
import IonInsurance.Ion.Webhook
import IonInsurance.Ion.Instruments
import IonInsurance.Ion.Signing
import IonInsurance.Ion.Tokens
import IonInsurance.Ion.Release
import IonInsurance.Ion.Direct
import IonInsurance.Bap.Messages
import IonInsurance.Bap.Store
import IonInsurance.Bap.Client
import IonInsurance.Bap.Protocol
import IonInsurance.Bap.Rows
import IonInsurance.Bap.Progress
import IonInsurance.Bap.Bridge
import IonInsurance.Bap.Mailbox
import IonInsurance.Bap.Isolation
import IonInsurance.Bap.Delivery
import IonInsurance.Bap.Stages
import IonInsurance.Bap.Building
import IonInsurance.Bap.Listing
import IonInsurance.Bap.Enrichment
import IonInsurance.Bap.Actions
import IonInsurance.Bap.Evidence
import IonInsurance.Bap.Checkout
import IonInsurance.Bap.History
import IonInsurance.Bap.Amounts
import IonInsurance.Bpp.Premium
import IonInsurance.Bpp.Store
import IonInsurance.Bpp.Messages
import IonInsurance.Bpp.Handlers
import IonInsurance.Bpp.Protocol
import IonInsurance.Bpp.Rows
import IonInsurance.Bpp.Issuance
import IonInsurance.Bpp.Acceptance
import IonInsurance.Bpp.Immutability
import IonInsurance.Bpp.Contract
import IonInsurance.Bpp.Cancellation
import IonInsurance.Bpp.Answers
import IonInsurance.Bpp.Numbering
import IonInsurance.Bpp.ExactlyOnce
import IonInsurance.Bpp.Settlement
import IonInsurance.Bpp.Ledger
import IonInsurance.Bpp.Reports
import IonInsurance.Bpp.Quote
import IonInsurance.Bpp.Rates
import IonInsurance.Bpp.Policyholders
import IonInsurance.Bpp.Notifications
import IonInsurance.Bpp.Ratings
import IonInsurance.Bpp.Polling
import IonInsurance.Bpp.Durability
import IonInsurance.Bpp.Dashboard
import IonInsurance.Bpp.Feedback
import IonInsurance.Bpp.Independence
import IonInsurance.Network.Rules
import IonInsurance.Network.Agreement
import IonInsurance.Network.Release
import IonInsurance.Network.Encoding
import IonInsurance.Network.Ratings
import IonInsurance.Network.Quote
import IonInsurance.Network.CancelAgreement
import IonInsurance.Network.Invoices
import IonInsurance.Network.Payments
import IonInsurance.Network.Checkout
import IonInsurance.Network.Transport
import IonInsurance.Network.Decoding
import IonInsurance.Network.Funds
import IonInsurance.Network.Amounts
import IonInsurance.Network.Payers
import IonInsurance.Catalog.Store
import IonInsurance.Catalog.Offers
import IonInsurance.Catalog.Messages
import IonInsurance.Catalog.Service
import IonInsurance.Catalog.Publishing
import IonInsurance.Catalog.Inventory
import IonInsurance.Catalog.Locations
import IonInsurance.Catalog.Products
import IonInsurance.Accounts.Service
import IonInsurance.Accounts.Access
import IonInsurance.Accounts.Rows
import IonInsurance.Wizard.Steps
import IonInsurance.Wizard.Publish
import IonInsurance.Wizard.Retry
import IonInsurance.Wizard.Edits
import IonInsurance.Wizard.Ids
import IonInsurance.Wizard.Updates
import IonInsurance.Pages.Settlement
import IonInsurance.Pages.Flow
import IonInsurance.Network.Purchase
