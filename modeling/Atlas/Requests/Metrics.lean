import Atlas.Dashboard.Trend
import Atlas.Requests.Interleaving
import Mathlib.Data.List.Perm.Subperm

/-!
# Atlas.Requests.Metrics

The metrics of the dashboard while other requests are served.

The seven queries of one dashboard need not see one database: other requests may
write between them.  Each number is the count of some database on the way
(`Seen`), so a count that only grows lies between those of the first and the
last database, and a count that no request changes is exact.
-/

namespace Atlas

open StoreKit StoreKit.Program

namespace GetDashboardMetricsHandler

/-! ## Counts -/

/-- The rows of a tenant, under any spelling of its id, that meet a condition. -/
def countOf {ρ : Type} (rows : World → List ρ) (rowTenantId : ρ → String) (tenantId : String)
    (condition : ρ → Bool) (w : World) : Nat :=
  (rows w).countP fun row => Pg.uuid tenantId = some (rowTenantId row) && condition row

def events (tenantId : String) (condition : AuditEventOrmEntity → Bool) : World → Nat :=
  countOf (fun w => w.auditEvents.rows) AuditEventOrmEntity.tenantId tenantId condition

def executions (tenantId : String) (condition : WorkflowExecutionOrmEntity → Bool) : World → Nat :=
  countOf (fun w => w.workflowExecutions.rows) WorkflowExecutionOrmEntity.tenantId tenantId
    condition

/-- Failed, and created in a window. -/
def failedWithin (start : Js.Date) (stop : Option Js.Date) (row : WorkflowExecutionOrmEntity) :
    Bool :=
  row.status = .failed && Js.Date.within row.createdAt start stop

/-- A count that is answered is the number of rows it looks for. -/
theorem getCount_ok {ρ : Type} {rows : World → List ρ} {rowTenantId : ρ → String}
    {tenantId : String} {instants : List Js.Date} {condition : ρ → Bool} {w w' : World} {n : Nat}
    (h : (getCount rows rowTenantId tenantId instants condition).run w = (.ok n, w')) :
    n = countOf rows rowTenantId tenantId condition w := by
  obtain ⟨tenant, w₁, hparameter, hrest⟩ := bind_run_eq_ok h
  obtain ⟨htenant, rfl⟩ := uuidParameter_ok hparameter
  obtain ⟨dates, w₂, hwritten, hgets⟩ := bind_run_eq_ok hrest
  obtain ⟨-, rfl⟩ := written_ok hwritten
  obtain ⟨hn, -⟩ := Prod.mk.inj hgets
  rw [← Except.ok.inj hn, countOf, htenant]
  refine List.countP_congr fun row _ => ?_
  simp only [Option.some.injEq, eq_comm]

variable {moving : String → Prop} {w w' : World}

/-- The audit log only grows. -/
theorem events_mono (tenantId : String) (condition : AuditEventOrmEntity → Bool)
    (h : w.Evolves moving w') : events tenantId condition w ≤ events tenantId condition w' :=
  h.auditEvents.sublist.countP_le

/-- No request deletes an organization. -/
theorem organizations_mono (h : w.Evolves moving w') :
    w.organizations.rows.length ≤ w'.organizations.rows.length := by
  have hkeys := List.Nodup.subperm w.organizations.nodup fun _ hk => h.organizations.keys hk
  simpa using hkeys.length_le

/-- No request fails an execution, and none changes one that has failed. -/
theorem mem_failed_iff (h : w.Evolves moving w') (row : WorkflowExecutionOrmEntity)
    (hfailed : row.status = .failed) :
    row ∈ w.workflowExecutions.rows ↔ row ∈ w'.workflowExecutions.rows := by
  constructor
  · intro hrow
    obtain ⟨row', hrow', hbecomes⟩ := h.workflowExecutions.kept row hrow
    rwa [hbecomes.finished (.inr hfailed)] at hrow'
  · intro hrow
    rcases h.workflowExecutions.origin row hrow with ⟨old, hold, hbecomes⟩ | ⟨hfresh, -⟩
    · rcases hbecomes.status with hsame | ⟨-, hcancelled⟩
      · rwa [hbecomes.finished (.inr (hsame.symm.trans hfailed))]
      · rw [hfailed] at hcancelled
        cases hcancelled
    · rcases hfresh with hpending | hcancelled
      · rw [hfailed] at hpending
        cases hpending
      · rw [hfailed] at hcancelled
        cases hcancelled

/-- The executions that failed within a period stay those. -/
theorem failed_eq (tenantId : String) (start : Js.Date) (stop : Option Js.Date)
    (h : w.Evolves moving w') :
    executions tenantId (failedWithin start stop) w' =
      executions tenantId (failedWithin start stop) w := by
  have hnodup : ∀ u : World, u.workflowExecutions.rows.Nodup :=
    fun u => List.Nodup.of_map _ u.workflowExecutions.nodup
  rw [executions, countOf, countOf, List.countP_eq_length_filter, List.countP_eq_length_filter]
  refine List.Perm.length_eq ((List.perm_ext_iff_of_nodup ((hnodup w').filter _)
    ((hnodup w).filter _)).mpr fun row => ?_)
  rw [List.mem_filter, List.mem_filter]
  refine and_congr_left fun hrow => (mem_failed_iff h row ?_).symm
  simp only [failedWithin, Bool.and_eq_true, decide_eq_true_eq] at hrow
  exact hrow.2.1

/-! ## Numbers from different databases -/

/-- The count of some database between the first and this one. -/
def Seen (moving : String → Prop) (w₀ : World) (count : World → Nat) (n : Nat) (w : World) :
    Prop :=
  ∃ w₁, w₀.Evolves moving w₁ ∧ w₁.Evolves moving w ∧ n = count w₁

variable {w₀ : World}

/-- A number seen once was seen. -/
theorem Seen.evolves {count : World → Nat} {n : Nat} (h : Seen moving w₀ count n w)
    (hw : w.Evolves moving w') : Seen moving w₀ count n w' := by
  obtain ⟨w₁, hfirst, hsecond, hn⟩ := h
  exact ⟨w₁, hfirst, hsecond.trans hw, hn⟩

/-- A count that only grows is between the two. -/
theorem Seen.bounds {count : World → Nat} {n : Nat} (h : Seen moving w₀ count n w)
    (hmono : ∀ {u v : World}, u.Evolves moving v → count u ≤ count v) :
    count w₀ ≤ n ∧ n ≤ count w := by
  obtain ⟨w₁, hfirst, hsecond, rfl⟩ := h
  exact ⟨hmono hfirst, hmono hsecond⟩

/-- A count that no request changes is exact. -/
theorem Seen.exact {count : World → Nat} {n : Nat} (h : Seen moving w₀ count n w)
    (hsame : ∀ {u v : World}, u.Evolves moving v → count v = count u) :
    n = count w₀ ∧ n = count w := by
  obtain ⟨w₁, hfirst, hsecond, rfl⟩ := h
  exact ⟨hsame hfirst, (hsame hsecond).symm⟩

/-- A query that counts, with more to come. -/
theorem sound_seen {id : String} {α : Type} {m : App Nat} {count : World → Nat}
    {f : Nat → Handler α} {Q : α → World → Prop} (hm : Reads m)
    (hcount : ∀ {w n w'}, m.run w = (.ok n, w') → n = count w) (hw : w₀.Evolves moving w)
    (hf : ∀ n w', w₀.Evolves moving w' → Sound moving id
      (fun a w => Seen moving w₀ count n w → Q a w) (fun _ _ => True) (f n) w') :
    Sound moving id Q (fun _ _ => True) (Thread.call m >>= f) w := by
  refine sound_read hm (fun n w₁ w₂ _ hspares hsame hrun => ?_) fun _ _ => trivial
  have hfirst := hw.trans hspares.evolves
  have hsecond := (hsame.takes moving id).evolves
  have hseen : Seen moving w₀ count n w₂ := ⟨w₁, hfirst, hsecond, hcount hrun⟩
  have hframe := Thread.Sound.frame
    (fun s u (hs : Seen moving w₀ count n s) hspares => hs.evolves hspares.evolves)
    (fun s u hs htakes => hs.evolves htakes.evolves) (hf n w₂ (hfirst.trans hsecond)) hseen
  exact hframe.weaken (fun _ _ h => h.1 h.2) fun _ _ _ => trivial

/-- Metrics of a tenant whose numbers were counted on the way from `w₀` to `w`. -/
structure SeenMetrics (moving : String → Prop) (w₀ : World)
    (percentChange : (current previous : Nat) → Js.Number) (tenantId : String) (now : Js.Date)
    (m : DashboardMetricsResult) (w : World) : Prop where
  totalEvents : Seen moving w₀ (events tenantId fun _ => true) m.totalEvents w
  activeWorkflows : Seen moving w₀
    (executions tenantId fun row => row.status = .running || row.status = .pending)
    m.activeWorkflows w
  tenantCount : Seen moving w₀ (fun w => w.organizations.rows.length) m.tenantCount w
  failedExecutions : Seen moving w₀ (executions tenantId (failedWithin (now - Js.msPerDay) none))
    m.failedExecutions w
  failedTrend : ∃ previous, m.failedTrend = percentChange m.failedExecutions previous ∧
    Seen moving w₀ (executions tenantId
      (failedWithin (now - 2 * Js.msPerDay) (some (now - Js.msPerDay)))) previous w
  eventsTrend : ∃ current previous, m.eventsTrend = percentChange current previous ∧
    Seen moving w₀ (events tenantId fun row =>
      Js.Date.within (some row.occurredAt) (now - Js.msPerDay) none) current w ∧
    Seen moving w₀ (events tenantId fun row => Js.Date.within (some row.occurredAt)
      (now - 2 * Js.msPerDay) (some (now - Js.msPerDay))) previous w

/-- Metrics answered once were seen. -/
theorem SeenMetrics.evolves {percentChange : (current previous : Nat) → Js.Number}
    {tenantId : String} {now : Js.Date} {m : DashboardMetricsResult}
    (h : SeenMetrics moving w₀ percentChange tenantId now m w) (hw : w.Evolves moving w') :
    SeenMetrics moving w₀ percentChange tenantId now m w' := by
  obtain ⟨previousFailed, hfailedTrend, hpreviousFailed⟩ := h.failedTrend
  obtain ⟨current, previous, heventsTrend, hcurrent, hprevious⟩ := h.eventsTrend
  exact ⟨h.totalEvents.evolves hw, h.activeWorkflows.evolves hw, h.tenantCount.evolves hw,
    h.failedExecutions.evolves hw, ⟨previousFailed, hfailedTrend, hpreviousFailed.evolves hw⟩,
    ⟨current, previous, heventsTrend, hcurrent.evolves hw, hprevious.evolves hw⟩⟩

/-- The tenant of the context is the one that is asked for. -/
theorem tenantId_ok {ctx : Option TenantContext} {tenantId : String} {w w' : World}
    (h : (TenantContextService.tenantId ctx).run w = (.ok tenantId, w')) :
    TenantContextService.tryGetTenantId ctx = some tenantId := by
  cases ctx with
  | none => cases h
  | some context =>
      cases h
      rfl

/-- **The handler answers numbers that were seen**, each at a step of its own. -/
theorem sound_execute {id : String} (percentChange : (current previous : Nat) → Js.Number)
    (ctx : Option TenantContext) (now : Js.Date) (hw : w₀.Evolves moving w) :
    Sound moving id (fun m w => ∃ tenantId,
        TenantContextService.tryGetTenantId ctx = some tenantId ∧
        SeenMetrics moving w₀ percentChange tenantId now m w) (fun _ _ => True)
      (steps percentChange ctx now) w := by
  unfold steps
  refine sound_read (reads_tenantId ctx) (fun tenantId w₁ w₂ _ hspares hsame hrun => ?_)
    fun _ _ => trivial
  have hstart : w₀.Evolves moving w₂ :=
    (hw.trans hspares.evolves).trans (hsame.takes moving id).evolves
  refine sound_seen (reads_getCount _ _ tenantId _ _) getCount_ok hstart fun _ _ h₁ => ?_
  refine sound_seen (reads_getCount _ _ tenantId _ _) getCount_ok h₁ fun _ _ h₂ => ?_
  refine sound_seen (reads_getCount _ _ tenantId _ _) getCount_ok h₂ fun _ _ h₃ => ?_
  refine sound_seen (reads_getCount _ _ tenantId _ _) getCount_ok h₃ fun _ _ h₄ => ?_
  refine sound_seen (.gets _) (fun h => (Except.ok.inj (Prod.mk.inj h).1).symm) h₄
    fun _ _ h₅ => ?_
  refine sound_seen (reads_getCount _ _ tenantId _ _) getCount_ok h₅ fun _ _ h₆ => ?_
  refine sound_seen (reads_getCount _ _ tenantId _ _) getCount_ok h₆ fun _ _ _ => ?_
  exact .pure fun hpreviousEvents hcurrentEvents hcount hpreviousFailed hfailed hactive htotal =>
    ⟨tenantId, tenantId_ok hrun, htotal, hactive, hcount, hfailed,
      ⟨_, rfl, hpreviousFailed⟩, ⟨_, _, rfl, hcurrentEvents, hpreviousEvents⟩⟩

end GetDashboardMetricsHandler

/-! ## Served among other requests -/

section Served

open GetDashboardMetricsHandler

variable {ι Token : Type}

/-- A request for the metrics is answered with such numbers. -/
theorem sound_metrics {moving : String → Prop} {w : World} (id : String) {api : ApiServer Token}
    {request : Request} (hroute : request.route = .metrics) :
    Sound moving id
      (fun answer w' => ∃ m tenantId, answer = .response (.guarded (.metrics m)) ∧
        request.headers.xTenantId = some tenantId ∧
        SeenMetrics moving w api.percentChange tenantId api.rt.now m w')
      (fun _ _ => True) (Job.serve api (.guarded request)).steps w := by
  unfold Job.steps ApiServer.steps
  refine Thread.Sound.map (sound_lift (fun _ _ => sound_lift (fun _ _ => ?_) fun _ _ => trivial)
    fun _ _ => trivial)
  refine sound_lift (fun user _ => ?_) fun _ _ => trivial
  rw [hroute]
  refine Thread.Sound.map (Thread.Sound.map ?_)
  refine sound_read (reads_query _) (fun _ w₁ w₂ _ hspares hsame _ => ?_) fun _ _ => trivial
  have hstart := hspares.evolves.trans (hsame.takes moving id).evolves
  refine (sound_execute api.percentChange _ api.rt.now hstart).weaken
    (fun m w' hseen => ?_) fun _ _ _ => trivial
  obtain ⟨tenantId, htenant, hmetrics⟩ := hseen
  rw [TenantContextMiddleware.tryGetTenantId_use] at htenant
  exact ⟨m, tenantId, rfl, htenant, hmetrics⟩

variable [DecidableEq ι]

/-- **A dashboard while other requests are served**: the numbers of events and
tenants lie between those of the first and the last database, and what it says
of failed executions is exact for both. -/
theorem metrics_among_requests {jobs : ι → Job Token} {w : World} (hready : Ready jobs w)
    {schedule : List ι} {s : Threads ι World Exception (JobAnswer Token)}
    (hrun : exec Threads.step (started jobs w) schedule = some s) {i : ι} {api : ApiServer Token}
    {request : Request} (hjob : jobs i = .serve api (.guarded request))
    (hroute : request.route = .metrics) {m : DashboardMetricsResult}
    (hanswer : (s.thread i).answer? = some (.response (.guarded (.metrics m)))) :
    ∃ tenantId, request.headers.xTenantId = some tenantId ∧
      (events tenantId (fun _ => true) w ≤ m.totalEvents ∧
        m.totalEvents ≤ events tenantId (fun _ => true) s.store) ∧
      (w.organizations.rows.length ≤ m.tenantCount ∧
        m.tenantCount ≤ s.store.organizations.rows.length) ∧
      ∀ u, u = w ∨ u = s.store →
        m.failedExecutions =
          executions tenantId (failedWithin (api.rt.now - Js.msPerDay) none) u ∧
        m.failedTrend = api.percentChange m.failedExecutions (executions tenantId
          (failedWithin (api.rt.now - 2 * Js.msPerDay) (some (api.rt.now - Js.msPerDay))) u) := by
  obtain ⟨-, -, hthreads⟩ := run_sound hready
    (fun j answer _ _ (h : j = i → ∃ m tenantId, answer = JobAnswer.response (.guarded (.metrics m))
      ∧ request.headers.xTenantId = some tenantId ∧
      SeenMetrics (Suspendable jobs w) w api.percentChange tenantId api.rt.now m _) hw hj => by
        obtain ⟨m, tenantId, hm, htenant, hseen⟩ := h hj
        exact ⟨m, tenantId, hm, htenant, hseen.evolves hw⟩)
    (fun _ _ _ _ _ _ => trivial)
    (fun j => by
      by_cases hj : j = i
      · subst hj
        rw [hjob]
        exact (sound_metrics _ hroute).weaken (fun _ _ h _ => h) fun _ _ h => h
      · exact ((jobs j).sound hready.intact (hready.unused j) (moves_suspendable jobs w j)
          fun _ horg => suspendable_active horg).weaken (fun _ _ _ h => absurd h hj)
          fun _ _ _ => trivial) hrun
  have hi := hthreads i
  rw [Thread.eq_answer hanswer] at hi
  obtain ⟨m', tenantId, hm, htenant, hseen⟩ := hi.of_answer rfl
  obtain rfl : m = m' := Response.metrics.inj (ApiResponse.guarded.inj (JobAnswer.response.inj hm))
  obtain ⟨previous, htrend, hprevious⟩ := hseen.failedTrend
  have hfailed := hseen.failedExecutions.exact (failed_eq tenantId _ _)
  have hbefore := hprevious.exact (failed_eq tenantId _ _)
  refine ⟨tenantId, htenant, hseen.totalEvents.bounds (events_mono tenantId _),
    hseen.tenantCount.bounds organizations_mono, fun u hu => ?_⟩
  rcases hu with rfl | rfl
  · exact ⟨hfailed.1, by rw [htrend, hbefore.1]⟩
  · exact ⟨hfailed.2, by rw [htrend, hbefore.2]⟩

/-- A dashboard of tenant 1, and another organization that is created. -/
def sampleDashboard : Fin 2 → Job String
  | 0 => .serve { sampleApi (Pg.uuidOf 4) with percentChange } (.guarded
      ⟨⟨some (Pg.uuidOf 1), none⟩, some ⟨Pg.uuidOf 2, none, Pg.uuidOf 1, some "owner", .access⟩,
        .metrics, none⟩)
  | 1 => .serve (sampleApi (Pg.uuidOf 5)) (.guarded
      ⟨⟨none, none⟩, some ⟨Pg.uuidOf 2, none, Pg.uuidOf 1, some "owner", .access⟩,
        .createOrganization ⟨"Initech", "initech", none⟩, none⟩)

theorem sampleDashboard_ready : Ready sampleDashboard sampleWorld := by
  have hid : ∀ i, (sampleDashboard i).generateId = (sampleJobs i.castSucc).generateId := by
    decide +kernel
  refine ⟨sampleWorld_intact, fun i => ?_, fun i j hij => ?_⟩
  · rw [hid]
    exact sampleJobs_ready.unused _
  · rw [hid, hid]
    exact sampleJobs_ready.apart _ _ fun heq => hij (Fin.castSucc_injective 2 heq)

/-- The metrics that an answer shows. -/
def JobAnswer.metrics? : JobAnswer Token → Option DashboardMetricsResult
  | .response (.guarded (.metrics m)) => some m
  | _ => none

theorem JobAnswer.eq_metrics {answer : JobAnswer Token} {m : DashboardMetricsResult}
    (h : answer.metrics? = some m) : answer = .response (.guarded (.metrics m)) := by
  unfold metrics? at h
  split at h
  · rw [Option.some.inj h]
  · cases h

theorem metrics_among_requests_sample : ∃ s m,
    exec Threads.step (started sampleDashboard sampleWorld) [0, 0, 0, 1, 0, 1, 0, 0, 0, 0, 0] =
      some s ∧
    (s.thread 0).answer? = some (.response (.guarded (.metrics m))) ∧
      sampleWorld.organizations.rows.length ≤ m.tenantCount ∧
      m.tenantCount ≤ s.store.organizations.rows.length := by
  have hshows : (exec Threads.step (started sampleDashboard sampleWorld)
      [0, 0, 0, 1, 0, 1, 0, 0, 0, 0, 0]).any
        (fun s => ((s.thread 0).answer?.bind JobAnswer.metrics?).isSome) = true := by
    decide +kernel
  obtain ⟨s, hrun, hs⟩ := (Option.any_eq_true _ _).mp hshows
  obtain ⟨m, hm⟩ := Option.isSome_iff_exists.mp hs
  obtain ⟨answer, hanswer, hshown⟩ := Option.bind_eq_some_iff.mp hm
  rw [JobAnswer.eq_metrics hshown] at hanswer
  obtain ⟨-, -, -, ⟨hlow, hhigh⟩, -⟩ :=
    metrics_among_requests sampleDashboard_ready hrun rfl rfl hanswer
  exact ⟨s, m, hrun, hanswer, hlow, hhigh⟩

end Served

end Atlas
