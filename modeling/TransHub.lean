import TransHub.Foundation.System
import TransHub.Foundation.Machine
import TransHub.Foundation.Lifecycle
import TransHub.Foundation.Custody
import TransHub.Foundation.Table
import TransHub.Foundation.Allocation
import TransHub.Foundation.Scope
import TransHub.Foundation.Locks
import TransHub.Shared.Errors
import TransHub.Shared.Access
import TransHub.Shared.Listing
import TransHub.Ledger.Schema
import TransHub.Ledger.Inventory
import TransHub.Ledger.Trips
import TransHub.Ledger.Bookings
import TransHub.Ledger.Invariant
import TransHub.Ledger.Writes
import TransHub.Ledger.Refinement
import TransHub.Ledger.Runs
import TransHub.Ledger.Prices
import TransHub.Ledger.Availability
import TransHub.Ledger.Expiry
import TransHub.Ledger.Rehold
import TransHub.Ledger.SkipLocked
import TransHub.Ledger.WorkConserving
import TransHub.Payments.Charge
import TransHub.Payments.Settle
import TransHub.Payments.Outline
import TransHub.Payments.Preservation
import TransHub.Payments.Confirmation
import TransHub.Payments.Accounting
import TransHub.Payments.Initialize
import TransHub.Payments.Agreement
import TransHub.Payments.Verdict
import TransHub.Charters.Schema
import TransHub.Charters.Process
import TransHub.Charters.Payment
import TransHub.Charters.Lifecycle
import TransHub.Charters.Attribution
import TransHub.Charters.Reconciliation
import TransHub.Waybills.Schema
import TransHub.Waybills.Process
import TransHub.Waybills.Lifecycle
import TransHub.Waybills.Payment
import TransHub.Waybills.Audit
import TransHub.Waybills.Attribution
import TransHub.Waybills.Reconciliation
import TransHub.Payments.Reconciliation
import TransHub.Payments.Attribution
import TransHub.Listings.Schema
import TransHub.Listings.Queries
import TransHub.Listings.Isolation
import TransHub.Foundation.Grants
import TransHub.Accounts.Schema
import TransHub.Accounts.Reset
import TransHub.Accounts.SingleUse
import TransHub.Accounts.Onboarding
import TransHub.Accounts.Atomicity
import TransHub.Charters.Api
import TransHub.Charters.Access
import TransHub.Foundation.Words
import TransHub.Foundation.Rounding
import TransHub.Trips.Search
import TransHub.Trips.City
import TransHub.Frontend.Api
import TransHub.Payments.Kobo
import TransHub.Trips.Schema
import TransHub.Payments.Totals
import TransHub.Payments.Decimal
import TransHub.Charters.Quotes
import TransHub.Waybills.Quotes
import TransHub.Payments.Quotes
import TransHub.Foundation.Aggregates
import TransHub.Analytics.Revenue
import TransHub.Payments.Manifest
import TransHub.Payments.Boarding
import TransHub.Trips.Drivers
import TransHub.Trips.OfflineCount
import TransHub.Fleet.Vehicles
import TransHub.Fleet.Drivers
import TransHub.Fleet.Assignment
import TransHub.Payments.Verify
import TransHub.Ledger.Admission
import TransHub.Foundation.FixedWindow
import TransHub.Shared.RateLimit
import TransHub.Shared.Throttling
import TransHub.Foundation.CacheStorage
import TransHub.Frontend.ServiceWorker
import TransHub.Frontend.Caches
import TransHub.Frontend.Sessions
import TransHub.Foundation.Regex
import TransHub.Telemetry.Scrub
import TransHub.Telemetry.Secrets
import TransHub.Foundation.Slices
import TransHub.Shared.Pages
import TransHub.Frontend.Retries
import TransHub.Foundation.Calendar
import TransHub.Trips.Days
import TransHub.Foundation.Provenance
import TransHub.Identity.Calls
import TransHub.Identity.Rows
import TransHub.Identity.Unique
import TransHub.Identity.Authority
import TransHub.Identity.Passwords
import TransHub.Foundation.Since
import TransHub.Foundation.Rooms
import TransHub.Foundation.Linked
import TransHub.Realtime.Sockets
import TransHub.Waybills.Tracking
import TransHub.Realtime.Tracking
import TransHub.Realtime.Feed
import TransHub.Frontend.ServerLists
import TransHub.Foundation.Owners
import TransHub.Tenants.Requests
import TransHub.Tenants.Services
import TransHub.Tenants.Integrity
import TransHub.Foundation.Reports
import TransHub.Analytics.Dashboards
