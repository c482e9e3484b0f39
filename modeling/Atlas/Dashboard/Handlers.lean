import Atlas.Http.TenantContext

/-!
# Atlas.Dashboard.Handlers

The read models of the dashboard, which query the tables of other modules
without their repositories and filter by the tenant of the active context
themselves.
-/

namespace Atlas

open StoreKit

/-! ## GetDashboardMetrics -/

structure DashboardMetricsResult where
  totalEvents : Nat
  activeWorkflows : Nat
  failedExecutions : Nat
  tenantCount : Nat
  eventsTrend : Js.Number
  failedTrend : Js.Number
deriving DecidableEq

/-- `getCount()` of the rows of a tenant that meet a condition, which compares
dates with `instants`. -/
def getCount {ρ : Type} (rows : World → List ρ) (rowTenantId : ρ → String) (tenantId : String)
    (instants : List Js.Date) (condition : ρ → Bool) : App Nat := do
  let tenant ← uuidParameter tenantId
  let _ ← written (instants.mapM Pg.timestamptz)
  .gets fun w => (rows w).countP fun row => rowTenantId row = tenant && condition row

/-- `date >= from`, and `date < to` if there is one; a column without a value
does not compare. -/
def Js.Date.within (date : Option Js.Date) (start : Js.Date) (stop : Option Js.Date) : Bool :=
  date.any fun d => start ≤ d && stop.all fun stop => d < stop

namespace GetDashboardMetricsHandler

/-- The executions of a tenant with a status, created in a window. -/
def countFailed (tenantId : String) (start : Js.Date) (stop : Option Js.Date) : App Nat :=
  getCount (fun w => w.workflowExecutions.rows) WorkflowExecutionOrmEntity.tenantId tenantId
    (start :: stop.toList)
    (fun row => row.status = .failed && Js.Date.within row.createdAt start stop)

/-- The audit events of a tenant that occurred in a window. -/
def countEvents (tenantId : String) (start : Js.Date) (stop : Option Js.Date) : App Nat :=
  getCount (fun w => w.auditEvents.rows) AuditEventOrmEntity.tenantId tenantId
    (start :: stop.toList)
    (fun row => Js.Date.within (some row.occurredAt) start stop)

/-- `percentChange` is a calculation on floating-point numbers. -/
def execute (percentChange : (current previous : Nat) → Js.Number) (ctx : Option TenantContext)
    (now : Js.Date) : App DashboardMetricsResult := do
  let tenantId ← TenantContextService.tenantId ctx
  let last24hStart := now - Js.msPerDay
  let prev24hStart := now - 2 * Js.msPerDay
  let totalEvents ← getCount (fun w => w.auditEvents.rows) AuditEventOrmEntity.tenantId tenantId
    [] fun _ => true
  let activeWorkflows ← getCount (fun w => w.workflowExecutions.rows)
    WorkflowExecutionOrmEntity.tenantId tenantId []
    fun row => row.status = .running || row.status = .pending
  let failedExecutionsLast24h ← countFailed tenantId last24hStart none
  let failedExecutionsPrev24h ← countFailed tenantId prev24hStart (some last24hStart)
  let tenantCount ← .gets fun w => w.organizations.rows.length
  let eventsLast24h ← countEvents tenantId last24hStart none
  let eventsPrev24h ← countEvents tenantId prev24hStart (some last24hStart)
  return {
    totalEvents
    activeWorkflows
    failedExecutions := failedExecutionsLast24h
    tenantCount
    eventsTrend := percentChange eventsLast24h eventsPrev24h
    failedTrend := percentChange failedExecutionsLast24h failedExecutionsPrev24h }

end GetDashboardMetricsHandler

/-! ## GetEventSeries -/

structure EventSeriesPoint where
  time : String
  events : Nat
  failures : Nat
deriving DecidableEq

/-- The columns of a table, as its entity names them. -/
def AuditEventOrmEntity.columns : List String :=
  ["id", "tenantId", "actorId", "actorType", "action", "resource_type", "resource_id", "outcome",
    "metadata", "correlation_id", "ip_address", "user_agent", "occurred_at"]

def WorkflowExecutionOrmEntity.columns : List String :=
  ["id", "definitionId", "tenantId", "correlationId", "triggeredBy", "triggerType", "input",
    "status", "stepResults", "startedAt", "completedAt", "durationMs", "errorMessage",
    "created_at", "updated_at"]

namespace GetEventSeriesHandler

def SERIES_DAYS : Nat := 7

/-- Midnight of the day of an instant. -/
def startOfUtcDay (d : Js.Date) : Js.Date := d / Js.msPerDay * Js.msPerDay

/-- The day of an instant as `YYYY-MM-DD`, which is also what the server's
`to_char` makes of it. -/
def formatDay (d : Js.Date) : String :=
  let (year, month, day) := Js.civilFromDays (d / Js.msPerDay)
  s!"{Js.pad 4 year}-{Js.pad 2 month}-{Js.pad 2 day}"

/-- The days, as text, of the rows of a tenant from an instant on.  A column
that a raw fragment of the query names has to be one of the table. -/
def daysOf {ρ : Type} (columns : List String) (dayColumn : String) (rows : World → List ρ)
    (rowTenantId : ρ → String) (date : ρ → Option Js.Date) (condition : ρ → Bool)
    (tenantId : String) (start : Js.Date) : App (List String) := do
  let _ ← written (if dayColumn ∈ columns then some () else none)
  let tenant ← uuidParameter tenantId
  let start ← written (Pg.timestamptz start)
  .gets fun w => ((rows w).filter fun row =>
    rowTenantId row = tenant && condition row && Js.Date.within (date row) start none).filterMap
      fun row => (date row).map formatDay

/-- `execute`; the raw fragment over the audit events says `"occurredAt"`. -/
def execute (ctx : Option TenantContext) (now : Js.Date) : App (List EventSeriesPoint) := do
  let tenantId ← TenantContextService.tenantId ctx
  let todayStartUtc := startOfUtcDay now
  let windowStart := todayStartUtc - (SERIES_DAYS - 1 : Nat) * Js.msPerDay
  let eventRows ← daysOf AuditEventOrmEntity.columns "occurredAt"
    (fun w => w.auditEvents.rows) AuditEventOrmEntity.tenantId (fun row => some row.occurredAt)
    (fun _ => true) tenantId windowStart
  let failureRows ← daysOf WorkflowExecutionOrmEntity.columns "created_at"
    (fun w => w.workflowExecutions.rows) WorkflowExecutionOrmEntity.tenantId
    WorkflowExecutionOrmEntity.createdAt (fun row => row.status = .failed) tenantId windowStart
  return (List.range SERIES_DAYS).map fun (i : Nat) =>
    let day := windowStart + i * Js.msPerDay
    let key := formatDay day
    { time := key, events := eventRows.count key, failures := failureRows.count key }

end GetEventSeriesHandler

end Atlas
