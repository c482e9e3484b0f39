import Atlas.Lib.Table
import Atlas.Lib.Program
import Atlas.Lib.Run
import Atlas.Lib.Slots
import Atlas.Lib.Session
import Atlas.Lib.Json
import Atlas.Lib.JsonParse
import Atlas.Lib.Relation
import Atlas.Lib.Shortest
import Atlas.Js
import Atlas.Double
import Atlas.Pg
import Atlas.Events
import Atlas.Outbox.Entry
import Atlas.Outbox.Processor
import Atlas.Outbox.Invariant
import Atlas.Outbox.Exclusive
import Atlas.Outbox.Order
import Atlas.Outbox.Hop
import Atlas.Redis.Bus
import Atlas.Redis.Delivery
import Atlas.Redis.Wire
import Atlas.Kernel
import Atlas.TenantCore.Organization
import Atlas.Workflow.Entities
import Atlas.Audit.Event
import Atlas.Identity.User
import Atlas.World
import Atlas.TenantAware
import Atlas.TenantCore.Repository
import Atlas.Workflow.Repository
import Atlas.Audit.Repository
import Atlas.TenantCore.Handlers
import Atlas.Workflow.Handlers
import Atlas.Audit.Handlers
import Atlas.TenantCore.EventPublication
import Atlas.TenantCore.Concurrency
import Atlas.Identity.Repository
import Atlas.Identity.Handlers
import Atlas.Isolation.WriteFrame
import Atlas.Constraints
import Atlas.Identity.Login
import Atlas.PlatformEvents.Forwarding
import Atlas.PlatformEvents.Commands
import Atlas.PlatformEvents.Atomicity
import Atlas.PlatformEvents.Backbone
import Atlas.Workflow.Cancellation
import Atlas.Uniqueness
import Atlas.Schema.Migrations
import Atlas.Schema.RoundTrip
import Atlas.Isolation.Footprint
import Atlas.Isolation.Agreement
import Atlas.Isolation.Noninterference
import Atlas.Http.TenantContext
import Atlas.Http.Guards
import Atlas.Dashboard.Handlers
import Atlas.Http.Controllers
import Atlas.Http.TenantBinding
import Atlas.Workflow.Lifecycle
import Atlas.TenantCore.Lifecycle
import Atlas.Audit.AppendOnly
import Atlas.Lookup
import Atlas.Http.Correlation
import Atlas.Lib.Window
import Atlas.Outbox.Drain
import Atlas.Redis.Batch
import Atlas.Lib.Paging
import Atlas.Pagination
import Atlas.Workflow.Timing
import Atlas.Workflow.CancelledRow
import Atlas.Workflow.EventStream
import Atlas.Audit.Filtering
import Atlas.Audit.PageNumbers
import Atlas.Lib.LiveLoop
import Atlas.PlatformEvents.InMemory
import Atlas.Dashboard.EventSeries
import Atlas.Bootstrap.Slugify
import Atlas.Bootstrap.Provisioning
import Atlas.TenantCore.Names
import Atlas.Outbox.Streams
import Atlas.Isolation.ScopedWhere
import Atlas.TenantCore.Mapping
import Atlas.Lib.Thread
import Atlas.Http.Api
import Atlas.Requests.Threads
import Atlas.Lib.History
import Atlas.Requests.History
import Atlas.Requests.Answers
import Atlas.Requests.Writes
import Atlas.Requests.Soundness
import Atlas.Requests.Login
import Atlas.Requests.Routes
import Atlas.Requests.Interleaving
import Atlas.Isolation.Interleaving
import Atlas.Dashboard.Trend
import Atlas.Requests.Metrics
import Atlas.Outbox.Pipeline
import Atlas.Outbox.Settle
import Atlas.Outbox.Delivery
import Atlas.Lib.Atomic
import Atlas.Requests.Failures
import Atlas.Requests.Authority
import Atlas.Bootstrap.Platform
import Atlas.Lib.Protocol
import Atlas.Requests.Events
import Atlas.Requests.Forwarding
