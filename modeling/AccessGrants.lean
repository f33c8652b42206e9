import AccessGrants.Application
import AccessGrants.Document.Calls
import AccessGrants.Document.Settings
import AccessGrants.Json.Printer
import AccessGrants.Proofs.Alone.InStep
import AccessGrants.Proofs.Alone.Secrecy
import AccessGrants.Proofs.Alone.Withdrawal
import AccessGrants.Proofs.Bindings.Agreement
import AccessGrants.Proofs.Bindings.WriteOnce
import AccessGrants.Proofs.Catalogue.OptionCache
import AccessGrants.Proofs.Document.Persisted
import AccessGrants.Proofs.Http.AdminSurface
import AccessGrants.Proofs.Http.Concealment
import AccessGrants.Proofs.Mongo.Refinement
import AccessGrants.Proofs.Preflights.SingleUse
import AccessGrants.Proofs.Preflights.Visibility
import AccessGrants.Proofs.Requests.EventLog
import AccessGrants.Proofs.Requests.Finality
import AccessGrants.Proofs.Requests.SubmissionOutcome
import AccessGrants.Proofs.Requests.WellFormed
import AccessGrants.Proofs.Store.Links
import AccessGrants.Proofs.Store.Listings
import AccessGrants.Proofs.Store.Pages
import AccessGrants.Proofs.Store.Rows
import AccessGrants.Store.Memory
import AccessGrants.Proofs.Requests.RevocationOutcome
import AccessGrants.Proofs.Preflights.DraftOutcome
import AccessGrants.Proofs.Catalogue.Requestable
import AccessGrants.Proofs.Concurrency.Since
import AccessGrants.Proofs.Bindings.Conduct
import AccessGrants.Proofs.Bindings.Refusals
import AccessGrants.Proofs.Bindings.Registration
import AccessGrants.Proofs.Requests.Expiry
import AccessGrants.Proofs.Requests.LazyExpiry
import AccessGrants.Proofs.Alone.Strict
import AccessGrants.Proofs.Requests.SubmissionBounds
import AccessGrants.Proofs.Alone.Reachable
import AccessGrants.Proofs.Catalogue.Membership
import AccessGrants.Proofs.Mongo.Pages
import AccessGrants.Proofs.Bindings.Resolution
import AccessGrants.Proofs.Bindings.LinkOutcome
import AccessGrants.Proofs.Document.Sameness
import AccessGrants.Proofs.Bindings.SchemaDecisions
import AccessGrants.Proofs.References.Grammar
import AccessGrants.Proofs.References.Exchange
import AccessGrants.Proofs.Remote.Urls
import AccessGrants.Proofs.Mongo.PageRange
import AccessGrants.Proofs.Store.Tokens
import AccessGrants.Proofs.Text.Lowercase
import AccessGrants.Proofs.Settings.Influence
import AccessGrants.Proofs.Settings.Production
