import Shortlink.Link.Service
import Shortlink.Outbox.Invalidation
import Shortlink.Rehearsal.Labels
import Shortlink.Rehearsal.Shift
import Shortlink.Rehearsal.Stage
import Shortlink.Settings.Check
import Shortlink.Settings.Summary
import Shortlink.Worker.Health
import Shortlink.Worker.Startup
import Shortlink.Proofs.Script.Assurance
import Shortlink.Proofs.Script.Interleaving
import Shortlink.Proofs.Calls.Shared
import Shortlink.Proofs.Store.Atomicity
import Shortlink.Proofs.Calls.Call
import Shortlink.Proofs.Link.Service
import Shortlink.Proofs.Link.ShortUrl
import Shortlink.Proofs.Store.Identity
import Shortlink.Proofs.Link.Creation
import Shortlink.Proofs.Outbox.Dispatch
import Shortlink.Proofs.Outbox.Consumption
import Shortlink.Proofs.Json.Reading
import Shortlink.Proofs.Json.Records
import Shortlink.Proofs.Uuid
import Shortlink.Proofs.Time.Stamp
import Shortlink.Proofs.Cache.Codec
import Shortlink.Proofs.Cache.Key
import Shortlink.Proofs.Cache.Memory
import Shortlink.Proofs.Outbox.Events
import Shortlink.Proofs.Script.Alone
import Shortlink.Proofs.Outbox.Invalidation
import Shortlink.Proofs.Calls.Cached
import Shortlink.Proofs.Cache.Through
import Shortlink.Proofs.Cache.Freshness
import Shortlink.Proofs.Cache.Coherence
import Shortlink.Proofs.Cache.Answers
import Shortlink.Proofs.Script.Accounting
import Shortlink.Proofs.Store.Announcement
import Shortlink.Proofs.Outbox.Conservation
import Shortlink.Proofs.Outbox.Redelivery
import Shortlink.Proofs.Cache.Eviction
import Shortlink.Proofs.Script.Bounded
import Shortlink.Proofs.Cache.Order
import Shortlink.Proofs.Cache.Operations
import Shortlink.Proofs.Cache.Overtaking
import Shortlink.Proofs.Link.Removal
import Shortlink.Proofs.Link.Event
import Shortlink.Proofs.Settings.Check
import Shortlink.Proofs.Worker.Startup
import Shortlink.Proofs.Postgres.Transaction
import Shortlink.Proofs.Postgres.Saves
import Shortlink.Proofs.Cache.Expiry
import Shortlink.Proofs.Settings.Masking
import Shortlink.Proofs.Settings.Secrecy
import Shortlink.Proofs.Link.Code
import Shortlink.Proofs.Store.Reactivation
import Shortlink.Proofs.Settings.Variables
import Shortlink.Proofs.Postgres.Connections
import Shortlink.Proofs.Text.Integer
import Shortlink.Proofs.Time.Moment
import Shortlink.Proofs.Cache.Server
import Shortlink.Proofs.Cache.Index
import Shortlink.Proofs.Script.Ends
import Shortlink.Proofs.Store.Outcomes
import Shortlink.Proofs.Outbox.Delivery
import Shortlink.Proofs.Outbox.Run
import Shortlink.Proofs.Outbox.Retries
import Shortlink.Proofs.Link.Numeral
import Shortlink.Proofs.Store.Codes
import Shortlink.Proofs.Text.Bytes
import Shortlink.Proofs.Cache.Range
import Shortlink.Proofs.Script.Conversation
import Shortlink.Proofs.Link.Attempts
import Shortlink.Proofs.Link.Draws
import Shortlink.Proofs.Link.Paging
import Shortlink.Proofs.Time.Order
import Shortlink.Proofs.Store.Listing
import Shortlink.Proofs.Cache.Transparency
import Shortlink.Proofs.Cache.Staleness
import Shortlink.Proofs.Outbox.Lending
import Shortlink.Proofs.Outbox.Recovery
import Shortlink.Proofs.Web.Authority
import Shortlink.Proofs.Web.Path
import Shortlink.Proofs.Link.Origin
import Shortlink.Proofs.Outbox.Backoff
import Shortlink.Proofs.Text.Utf8
import Shortlink.Proofs.Settings.DatabaseUrl
