import Atlas.Dashboard.Handlers
import Atlas.Schema.RoundTrip

/-!
# Atlas.Dashboard.EventSeries

The daily series of the dashboard against the rows it counts.

The raw fragment over the audit events names a column by its property,
`"occurredAt"`, which the entity maps to `occurred_at`.  No table has the column
the fragment names, so the query is refused whatever is stored.  With the
columns the entities declare (`executeWith`) every point counts its day.
-/

namespace Atlas

open StoreKit

namespace GetEventSeriesHandler

/-! ## Days -/

/-- The day an instant falls on: days since 1970-01-01. -/
def utcDay (d : Js.Date) : Int := d / Js.msPerDay

/-- The first day of March of the year 0; no year from then on is negative. -/
def firstDay : Int := -719468

/-- No day that the database stores is before the year 0. -/
theorem year_nonneg {days : Int} (h : firstDay ≤ days) : 0 ≤ (Js.civilFromDays days).1 := by
  have hera : 0 ≤ days + 719468 := by
    unfold firstDay at h
    omega
  unfold Js.civilFromDays
  dsimp only
  split <;> omega

/-- The text of a day, numeral by numeral. -/
theorem formatDay_toList (d : Js.Date) : (formatDay d).toList =
    (Js.pad 4 (Js.civilFromDays (utcDay d)).1).toList ++
      '-' :: ((Js.pad 2 (Js.civilFromDays (utcDay d)).2.1).toList ++
      '-' :: (Js.pad 2 (Js.civilFromDays (utcDay d)).2.2).toList) := by
  simp [formatDay, utcDay, ToString.toString]

/-- **Days are told apart by their texts.** -/
theorem formatDay_inj {d d' : Js.Date} (hd : firstDay ≤ utcDay d) (hd' : firstDay ≤ utcDay d') :
    formatDay d = formatDay d' ↔ utcDay d = utcDay d' := by
  constructor
  · intro h
    obtain ⟨hmonth, hday⟩ := Js.civilFromDays_range (utcDay d)
    obtain ⟨hmonth', hday'⟩ := Js.civilFromDays_range (utcDay d')
    have hlength : ∀ n : Int, 1 ≤ n ∧ n ≤ 31 → (Js.pad 2 n).toList.length = 2 := fun n hn =>
      (Js.numeral_pad (by decide) (by omega)).length
    have htext := congrArg String.toList h
    rw [formatDay_toList, formatDay_toList] at htext
    obtain ⟨hyear, hrest⟩ := List.append_inj' htext (by
      simp only [List.length_cons, List.length_append]
      rw [hlength _ (by omega), hlength _ (by omega), hlength _ (by omega), hlength _ (by omega)])
    have hyears := Js.pad_inj (year_nonneg hd) (year_nonneg hd') hyear
    obtain ⟨hmonths, hrest⟩ :=
      Js.pad_append_inj (by decide) (by omega) (by omega) (List.cons.inj hrest).2
    have hdays := Js.pad_inj (by omega) (by omega) (List.cons.inj hrest).2
    rw [← Js.daysFromCivil_civilFromDays (utcDay d), hyears, hmonths, hdays,
      Js.daysFromCivil_civilFromDays]
  · intro h
    have htext := formatDay_toList d
    rw [h, ← formatDay_toList] at htext
    exact String.toList_inj.mp htext

/-! ## What a series should be -/

/-- The number of rows of a tenant that meet a condition and whose date falls on
a day. -/
def countOn {ρ : Type} (rows : List ρ) (rowTenantId : ρ → String) (date : ρ → Option Js.Date)
    (condition : ρ → Bool) (tenant : String) (day : Int) : Nat :=
  rows.countP fun row =>
    rowTenantId row = tenant && condition row && (date row).any fun d => utcDay d = day

/-- The seven days that end with the day of `now`, and what the tenant has on
each. -/
structure CountsExactly (w : World) (tenant : String) (now : Js.Date)
    (points : List EventSeriesPoint) : Prop where
  length : points.length = 7
  point : ∀ i < 7, points[i]? = some {
    time := formatDay ((utcDay now - 6 + i) * Js.msPerDay)
    events := countOn w.auditEvents.rows AuditEventOrmEntity.tenantId
      (fun row => some row.occurredAt) (fun _ => true) tenant (utcDay now - 6 + i)
    failures := countOn w.workflowExecutions.rows WorkflowExecutionOrmEntity.tenantId
      WorkflowExecutionOrmEntity.createdAt (fun row => row.status = .failed) tenant
      (utcDay now - 6 + i) }

/-- A request is answered with the series of the tenant of its context. -/
def AnswersExactly (method : Option TenantContext → Js.Date → App (List EventSeriesPoint))
    (context : TenantContext) (now : Js.Date) (w : World) : Prop :=
  ∃ points tenant, ((method (some context) now).run w).1 = .ok points ∧
    Pg.uuid context.tenantId = some tenant ∧ CountsExactly w tenant now points

/-! ## What the queries return -/

/-- A series over a column that exists counts the rows of each day. -/
theorem daysOf_run {ρ : Type} {columns : List String} {dayColumn tenantId tenant : String}
    (rows : World → List ρ) (rowTenantId : ρ → String) (date : ρ → Option Js.Date)
    (condition : ρ → Bool) {start : Js.Date} (w : World) (hcolumn : dayColumn ∈ columns)
    (htenant : Pg.uuid tenantId = some tenant) (hstart : Pg.timestamptz start = some start) :
    (daysOf columns dayColumn rows rowTenantId date condition tenantId start).run w =
      (.ok (((rows w).filter fun row =>
        rowTenantId row = tenant && condition row && Js.Date.within (date row) start none).filterMap
          fun row => (date row).map formatDay), w) := by
  have hknown : (if dayColumn ∈ columns then some () else none) = some () := if_pos hcolumn
  rw [daysOf, hknown, hstart, Program.bind_run_ok (written_run _ w),
    Program.bind_run_ok (uuidParameter_run w htenant), Program.bind_run_ok (written_run _ w)]
  rfl

/-- A column that the table does not have. -/
theorem daysOf_run_unknown {ρ : Type} {columns : List String} {dayColumn : String}
    (rows : World → List ρ) (rowTenantId : ρ → String) (date : ρ → Option Js.Date)
    (condition : ρ → Bool) (tenantId : String) (start : Js.Date) (w : World)
    (hcolumn : dayColumn ∉ columns) :
    (daysOf columns dayColumn rows rowTenantId date condition tenantId start).run w =
      (.error .database, w) := by
  have hunknown : (if dayColumn ∈ columns then some () else none) = none := if_neg hcolumn
  rw [daysOf, hunknown, Program.bind_run_error (written_run _ w)]

/-- The texts of a day are as many as the rows of the day. -/
theorem count_formatDay {ρ : Type} (rows : List ρ) (rowTenantId : ρ → String)
    (date : ρ → Option Js.Date) (condition : ρ → Bool) (tenant : String) {first day : Int}
    (hfirst : firstDay ≤ first) (hday : first ≤ day) :
    ((rows.filter fun row => rowTenantId row = tenant && condition row &&
      Js.Date.within (date row) (first * Js.msPerDay) none).filterMap
        fun row => (date row).map formatDay).count (formatDay (day * Js.msPerDay)) =
      countOn rows rowTenantId date condition tenant day := by
  have hms : Js.msPerDay = 86400000 := rfl
  have hkey : utcDay (day * Js.msPerDay) = day := by
    rw [utcDay, hms]
    omega
  rw [List.count_filterMap, List.countP_filter, countOn]
  refine List.countP_congr fun row _ => ?_
  cases hdate : date row with
  | none => simp [Js.Date.within]
  | some d =>
      have hsame : (formatDay d = formatDay (day * Js.msPerDay) ∧ first * Js.msPerDay ≤ d) ↔
          utcDay d = day := by
        constructor
        · rintro ⟨htext, hle⟩
          have hlow : firstDay ≤ utcDay d := by
            rw [utcDay, hms] at *
            omega
          rw [formatDay_inj hlow (by omega), hkey] at htext
          exact htext
        · intro heq
          refine ⟨?_, ?_⟩
          · rw [formatDay_inj (by omega) (by omega), hkey]
            exact heq
          · rw [utcDay, hms] at heq
            rw [hms]
            omega
      simp only [Js.Date.within, Option.map_some, Option.any_some, Option.all_none, Bool.and_true,
        Bool.and_eq_true, decide_eq_true_eq, beq_iff_eq, Option.some.injEq, ← hsame]
      constructor
      · rintro ⟨htext, htenant, hle⟩
        exact ⟨htenant, htext, hle⟩
      · rintro ⟨htenant, htext, hle⟩
        exact ⟨htext, htenant, hle⟩

/-! ## The series -/

/-- `execute`, with other columns in its two raw fragments. -/
def executeWith (eventsColumn failuresColumn : String) (ctx : Option TenantContext)
    (now : Js.Date) : App (List EventSeriesPoint) := do
  let tenantId ← TenantContextService.tenantId ctx
  let todayStartUtc := startOfUtcDay now
  let windowStart := todayStartUtc - (SERIES_DAYS - 1 : Nat) * Js.msPerDay
  let eventRows ← daysOf AuditEventOrmEntity.columns eventsColumn
    (fun w => w.auditEvents.rows) AuditEventOrmEntity.tenantId (fun row => some row.occurredAt)
    (fun _ => true) tenantId windowStart
  let failureRows ← daysOf WorkflowExecutionOrmEntity.columns failuresColumn
    (fun w => w.workflowExecutions.rows) WorkflowExecutionOrmEntity.tenantId
    WorkflowExecutionOrmEntity.createdAt (fun row => row.status = .failed) tenantId windowStart
  return (List.range SERIES_DAYS).map fun (i : Nat) =>
    let day := windowStart + i * Js.msPerDay
    let key := formatDay day
    { time := key, events := eventRows.count key, failures := failureRows.count key }

/-- The handler is the one with the columns it names. -/
theorem execute_eq (ctx : Option TenantContext) (now : Js.Date) :
    execute ctx now = executeWith "occurredAt" "created_at" ctx now := rfl

/-- `tenantId` is the tenant of the context. -/
theorem tenantId_run (context : TenantContext) (w : World) :
    (TenantContextService.tenantId (some context)).run w =
      (.ok context.tenantId, w.noting (some context.tenantId)) := rfl

/-- **With columns of the tables the series counts exactly.** -/
theorem executeWith_exact {eventsColumn failuresColumn : String} {context : TenantContext}
    {tenant : String} {now : Js.Date} (w : World)
    (hevents : eventsColumn ∈ AuditEventOrmEntity.columns)
    (hfailures : failuresColumn ∈ WorkflowExecutionOrmEntity.columns)
    (htenant : Pg.uuid context.tenantId = some tenant) (hnow : firstDay ≤ utcDay now - 6) :
    AnswersExactly (executeWith eventsColumn failuresColumn) context now w := by
  have hms : Js.msPerDay = 86400000 := rfl
  have hwindow : startOfUtcDay now - (SERIES_DAYS - 1 : Nat) * Js.msPerDay =
      (utcDay now - 6) * Js.msPerDay := by
    have hseven : ((SERIES_DAYS - 1 : Nat) : Int) = 6 := rfl
    rw [startOfUtcDay, utcDay, hseven, Int.sub_mul]
  have hstart : Pg.timestamptz ((utcDay now - 6) * Js.msPerDay) =
      some ((utcDay now - 6) * Js.msPerDay) := by
    rw [firstDay] at hnow
    rw [Pg.timestamptz, hms]
    exact if_pos (show (-210866803200000 : Int) ≤ (utcDay now - 6) * 86400000 by omega)
  rw [AnswersExactly, executeWith, Program.bind_run_ok (tenantId_run context w)]
  simp only [hwindow]
  rw [Program.bind_run_ok (daysOf_run _ _ _ _ _ hevents htenant hstart),
    Program.bind_run_ok (daysOf_run _ _ _ _ _ hfailures htenant hstart)]
  refine ⟨_, tenant, rfl, htenant, rfl, fun i hi => ?_⟩
  have hday : (utcDay now - 6) * Js.msPerDay + (i : Int) * Js.msPerDay =
      (utcDay now - 6 + i) * Js.msPerDay := (Int.add_mul ..).symm
  have hi' : i < SERIES_DAYS := hi
  rw [List.getElem?_map, List.getElem?_range hi', Option.map_some]
  simp only [hday]
  rw [count_formatDay _ _ _ _ _ hnow (by omega), count_formatDay _ _ _ _ _ hnow (by omega)]
  rfl

/-- The columns the fragments are resolved against are those the entities
declare. -/
theorem columns_eq : AuditEventOrmEntity.columns = Schema.AuditEventOrmEntity.mapping.columns ∧
    WorkflowExecutionOrmEntity.columns = Schema.WorkflowExecutionOrmEntity.mapping.columns :=
  ⟨rfl, rfl⟩

/-- **The handler rejects**, whatever the tenant and the database. -/
theorem execute_run (context : TenantContext) (now : Js.Date) (w : World) :
    (execute (some context) now).run w =
      (.error .database, w.noting (some context.tenantId)) := by
  have hunknown : "occurredAt" ∉ AuditEventOrmEntity.columns := by decide
  rw [execute, Program.bind_run_ok (tenantId_run context w),
    Program.bind_run_error (daysOf_run_unknown _ _ _ _ _ _ _ hunknown)]

/-- A request on an empty database is refused like any other. -/
theorem empty_series_refused :
    ¬ AnswersExactly execute ⟨Pg.uuidOf 3, "c1"⟩ 1716500000000 emptyWorld := by
  rintro ⟨points, tenant, hrun, -⟩
  rw [execute_run] at hrun
  cases hrun

/-- **The series is never answered.** -/
theorem execute_never_answers (context : TenantContext) (now : Js.Date) (w : World) :
    ¬ AnswersExactly execute context now w := by
  rintro ⟨points, tenant, hrun, -⟩
  rw [execute_run] at hrun
  cases hrun

end GetEventSeriesHandler

end Atlas
