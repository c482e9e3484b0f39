import Atlas.Outbox.Delivery
import Atlas.Requests.Events

/-!
# Atlas.Requests.Forwarding

The requests and the processor of the outbox, side by side on one database.

The jobs publish and write, the processor fetches, sends and saves, in any
order; processes stop anywhere, and a job whose process has stopped takes no
further step.  What becomes of the events is a run of the pipeline
(`Linked.reached`): so nothing reaches Event Streaming that was not published,
and what a job answers for is delivered, or given up after five failed calls.
-/

namespace Atlas

open StoreKit OutboxEntryRepository

/-! ## The processor -/

/-- What the processor has in memory, and the calls it has made. -/
structure Processing where
  batches : List Batch
  calls : List IngestCall
  lost : List OutboxEntryEntity

namespace Processing

inductive Step where
  | process (a : OutboxSystem.Step)
  /-- The process that runs batch number `i` stops. -/
  | stopBatch (i : Nat)

def outbox (m : Processing) (w : World) : OutboxSystem := ⟨w.outboxEntries, m.batches, m.calls⟩

/-- One step.  The processor creates no entries. -/
def step (w : World) (m : Processing) : Step → Option (World × Processing)
  | .process (.append _ _ _) => none
  | .process a =>
      (OutboxSystem.step (m.outbox w) a).map fun s =>
        ({ w with outboxEntries := s.table },
          ⟨s.batches, s.calls, m.lost ++ EventPipeline.dropped (m.outbox w) a⟩)
  | .stopBatch i =>
      match m.batches[i]? with
      | some b => some (w, { m with
          batches := m.batches.set i ⟨none, []⟩
          lost := m.lost ++ b.current.toList })
      | none => none

variable {otherDates : String → Option Js.Date} {writers : List (List Publication)} {w w' : World}
  {m m' : Processing}

/-- A step is one of the processor, or ends the process: neither touches a table
but the outbox. -/
theorem step_cases {a : Step} (h : step w m a = some (w', m')) :
    (∃ a' s, a = .process a' ∧ (∀ generateId now params, a' ≠ .append generateId now params) ∧
      OutboxSystem.step (m.outbox w) a' = some s ∧ w' = { w with outboxEntries := s.table } ∧
      m' = ⟨s.batches, s.calls, m.lost ++ EventPipeline.dropped (m.outbox w) a'⟩) ∨
    ∃ i b, a = .stopBatch i ∧ m.batches[i]? = some b ∧ w' = w ∧
      m' = { m with
        batches := m.batches.set i ⟨none, []⟩
        lost := m.lost ++ b.current.toList } := by
  unfold step at h
  split at h
  · contradiction
  · next a hnew =>
      obtain ⟨s, hs, heq⟩ := Option.map_eq_some_iff.mp h
      cases heq
      exact .inl ⟨a, s, rfl, hnew, hs, rfl, rfl⟩
  · next i =>
      split at h
      · next b hb =>
          cases h
          exact .inr ⟨i, b, rfl, hb, rfl, rfl⟩
      · contradiction

/-- The pipeline that the database and the processor are part of. -/
def pipeline (writers : List (List Publication)) (w : World) (m : Processing) : EventPipeline where
  published := w.published
  writers
  outbox := m.outbox w
  lost := m.lost

def Step.inPipeline : Step → EventPipeline.Step
  | .process a => .process a
  | .stopBatch i => .stopBatch i

/-- The steps of the processor are steps of the pipeline. -/
theorem step_pipeline {a : Step} (h : step w m a = some (w', m')) :
    EventPipeline.step otherDates (pipeline writers w m) a.inPipeline =
      some (pipeline writers w' m') := by
  rcases step_cases h with ⟨a, s, rfl, hnew, hs, rfl, rfl⟩ | ⟨i, b, rfl, hb, rfl, rfl⟩
  · cases a with
    | append generateId now params => exact absurd rfl (hnew generateId now params)
    | fetch page => exact Option.map_eq_some_iff.mpr ⟨s, hs, rfl⟩
    | ingest i now error => exact Option.map_eq_some_iff.mpr ⟨s, hs, rfl⟩
    | save i ok => exact Option.map_eq_some_iff.mpr ⟨s, hs, rfl⟩
  · simp only [Step.inPipeline, EventPipeline.step, pipeline, outbox, hb]

end Processing

/-! ## The jobs in the pipeline -/

/- A job that publishes is a writer of the pipeline of `Outbox.Pipeline`: `Slotted` gives
every job between its publish and its write a call of its own, and `Reached` says that
calls and batches lead to the outbox as it is.  `linked_move` shows that a step of a job
is a step of the pipeline, or none. -/

/-- The event of a job that the inner bus has accepted. -/
def Progress.event? : Progress → Option TenantAwareEvent
  | .quiet => none
  | .accepted event => some event
  | .written event => some event

section Linked

open Processing

variable {ι Token : Type} {jobs : ι → Job Token} {otherDates : String → Option Js.Date}
  {writers : List (List Publication)} {w₀ w w' : World} {m m' : Processing}
  {progress : ι → Progress}

/-- Calls and batches lead to the database and the processor, with `writers`
still to be written. -/
def Reached (otherDates : String → Option Js.Date) (writers : List (List Publication)) (w : World)
    (m : Processing) : Prop :=
  ∃ steps, EventPipeline.run otherDates .init steps = some (pipeline writers w m)

/-- What the pipeline reaches with one more step it reaches. -/
theorem Reached.step {writers' : List (List Publication)} {a : EventPipeline.Step}
    (h : Reached otherDates writers w m)
    (hstep : EventPipeline.step otherDates (pipeline writers w m) a =
      some (pipeline writers' w' m')) : Reached otherDates writers' w' m' := by
  obtain ⟨steps, hsteps⟩ := h
  refine ⟨steps ++ [a], ?_⟩
  rw [EventPipeline.run] at hsteps ⊢
  rw [exec_append, hsteps, Option.bind_some, exec, hstep]
  rfl

/-- Every job that is about to write its event has a call of its own. -/
structure Slotted (jobs : ι → Job Token) (writers : List (List Publication)) (slot : ι → Nat)
    (progress : ι → Progress) : Prop where
  holds : ∀ i e, progress i = .accepted e → writers[slot i]? = some [⟨e, (jobs i).bus.attempt⟩]
  apart : ∀ i j e e', progress i = .accepted e → progress j = .accepted e' →
    slot i = slot j → i = j

/-- What holds of the database and the processor, whatever the jobs have done:
they are a state of the pipeline, and each job has published one event at most. -/
structure Linked (jobs : ι → Job Token) (otherDates : String → Option Js.Date) (w₀ w : World)
    (m : Processing) (progress : ι → Progress) : Prop where
  named : w.Named
  reached : ∃ writers slot, Reached otherDates writers w m ∧ Slotted jobs writers slot progress
  published : ∃ order : List ι, order.Nodup ∧ (∀ i ∈ order, progress i ≠ .quiet) ∧
    w.published = w₀.published ++ order.filterMap fun i => (progress i).event?
  publishes : ∀ i event, (progress i).event? = some event → (jobs i).Publishes event

/-- Before the first step no job has published anything. -/
theorem linked_start (hnamed : w.Named) (hreached : Reached otherDates writers w m) :
    Linked jobs otherDates w w m fun _ => .quiet := by
  have hnone : ∀ e, Progress.quiet ≠ .accepted e := fun e h => Progress.noConfusion h
  constructor
  · exact hnamed
  · exact ⟨writers, fun _ => 0, hreached, fun _ e h => absurd h (hnone e),
      fun _ _ e _ h => absurd h (hnone e)⟩
  · exact ⟨[], List.nodup_nil, fun _ h => absurd h List.not_mem_nil, (List.append_nil _).symm⟩
  · intro i e h
    cases h

/-- A step of the processor leaves the jobs where they are. -/
theorem linked_process {a : Processing.Step} (h : Linked jobs otherDates w₀ w m progress)
    (hstep : Processing.step w m a = some (w', m')) :
    Linked jobs otherDates w₀ w' m' progress := by
  obtain ⟨writers, slot, hreached, hslotted⟩ := h.reached
  have hworld : w'.published = w.published ∧ w'.workflowDefinitions = w.workflowDefinitions := by
    rcases step_cases hstep with ⟨a, s, -, -, -, rfl, -⟩ | ⟨i, b, -, -, rfl, -⟩
    · exact ⟨rfl, rfl⟩
    · exact ⟨rfl, rfl⟩
  constructor
  · intro row hrow
    exact h.named row (hworld.2 ▸ hrow)
  · exact ⟨writers, slot, hreached.step (step_pipeline hstep), hslotted⟩
  · rw [hworld.1]
    exact h.published
  · exact h.publishes

/-- What the pipeline says of the processor. -/
theorem authentic_of_linked (h : Linked jobs otherDates w₀ w m progress) :
    ∃ writers, EventPipeline.Authentic otherDates (pipeline writers w m) := by
  obtain ⟨writers, slot, ⟨steps, hsteps⟩, -⟩ := h.reached
  exact ⟨writers, exec_keeps EventPipeline.authentic_step EventPipeline.authentic_init hsteps⟩

variable [DecidableEq ι]

/-- A job whose event is accepted gets a writer of its own. -/
theorem Slotted.accepts {slot : ι → Nat} {i : ι} {event : TenantAwareEvent}
    (h : Slotted jobs writers slot progress) :
    Slotted jobs (writers ++ [[⟨event, (jobs i).bus.attempt⟩]])
      (Function.update slot i writers.length)
      (Function.update progress i (.accepted event)) := by
  have hlower : ∀ j e, progress j = .accepted e → slot j < writers.length :=
    fun j e hj => (List.getElem?_eq_some_iff.mp (h.holds j e hj)).1
  constructor
  · intro j e hj
    by_cases hji : j = i
    · subst hji
      rw [Function.update_self] at hj
      cases hj
      simp
    · rw [Function.update_of_ne hji] at hj
      rw [Function.update_of_ne hji, List.getElem?_append_left (hlower j e hj)]
      exact h.holds j e hj
  · intro j k e e' hj hk hsame
    by_cases hji : j = i
    · by_cases hki : k = i
      · rw [hji, hki]
      · rw [Function.update_of_ne hki] at hk hsame
        rw [hji, Function.update_self] at hsame
        exact absurd (hlower k e' hk) (by omega)
    · rw [Function.update_of_ne hji] at hj hsame
      by_cases hki : k = i
      · rw [hki, Function.update_self] at hsame
        exact absurd (hlower j e hj) (by omega)
      · rw [Function.update_of_ne hki] at hk hsame
        exact h.apart j k e e' hj hk hsame

/-- The writer of a job is done once the job has written its event. -/
theorem Slotted.writes {slot : ι → Nat} {i : ι} {event : TenantAwareEvent}
    (h : Slotted jobs writers slot progress) (hi : progress i = .accepted event) :
    Slotted jobs (writers.set (slot i) []) slot (Function.update progress i (.written event)) := by
  have hother : ∀ j e, Function.update progress i (.written event) j = .accepted e →
      j ≠ i ∧ progress j = .accepted e := by
    intro j e hj
    by_cases hji : j = i
    · rw [hji, Function.update_self] at hj
      cases hj
    · rw [Function.update_of_ne hji] at hj
      exact ⟨hji, hj⟩
  constructor
  · intro j e hj
    obtain ⟨hji, hj⟩ := hother j e hj
    have hslots : slot i ≠ slot j := fun hsame => hji (h.apart j i _ _ hj hi hsame.symm)
    rw [List.getElem?_set_ne hslots]
    exact h.holds j e hj
  · intro j k e e' hj hk hsame
    exact h.apart j k _ _ (hother j e hj).2 (hother k e' hk).2 hsame

/-- Events stay where they are when a job moves on that has published its own. -/
theorem event?_update {i : ι} {c : Progress} (h : c.event? = (progress i).event?) :
    (fun j => (Function.update progress i c j).event?) = fun j => (progress j).event? := by
  funext j
  by_cases hji : j = i
  · rw [hji, Function.update_self, h]
  · rw [Function.update_of_ne hji]

/-- A job that has published has, whatever another one does. -/
theorem started_update {i j : ι} {c : Progress} (hc : c ≠ .quiet)
    (hj : j ≠ i → progress j ≠ .quiet) : Function.update progress i c j ≠ .quiet := by
  by_cases hji : j = i
  · rw [hji, Function.update_self]
    exact hc
  · rw [Function.update_of_ne hji]
    exact hj hji

/-- **A step of a job is one of the pipeline**, or none. -/
theorem linked_move {i : ι} {c : Progress} (hdates : (jobs i).bus.otherDates = otherDates)
    (h : Linked jobs otherDates w₀ w m progress)
    (hmove : Progress.Move (jobs i).bus (jobs i).Publishes (progress i) w c w') :
    Linked jobs otherDates w₀ w' m (Function.update progress i c) := by
  obtain ⟨writers, slot, hreached, hslotted⟩ := h.reached
  obtain ⟨order, hnodup, hstarted, hpublished⟩ := h.published
  generalize hi : progress i = p at hmove
  cases hmove with
  | silent hsame =>
      obtain ⟨hevents, houtbox, hdefinitions⟩ := World.kept_of_backbone hsame
      rw [← hi, Function.update_eq_self]
      constructor
      · intro row hrow
        exact h.named row (hdefinitions ▸ hrow)
      · refine ⟨writers, slot, ?_, hslotted⟩
        have hpipeline : pipeline writers w' m = pipeline writers w m := by
          simp only [pipeline, outbox, hevents, houtbox]
        rw [Reached, hpipeline]
        exact hreached
      · exact ⟨order, hnodup, hstarted, hevents.trans hpublished⟩
      · exact h.publishes
  | @accepts event _ hevent =>
      have hfresh : i ∉ order := fun hmem => hstarted i hmem hi
      constructor
      · exact h.named
      · have haccepted : EventPipeline.step otherDates (pipeline writers w m)
            (.publish (.publish (.ok ()) ⟨event, (jobs i).bus.attempt⟩)) =
            some (pipeline (writers ++ [[⟨event, (jobs i).bus.attempt⟩]])
              { w with published := w.published ++ [event] } m) := rfl
        exact ⟨_, _, hreached.step haccepted, hslotted.accepts⟩
      · refine ⟨order ++ [i], ?_, ?_, ?_⟩
        · rw [← List.concat_eq_append]
          exact hnodup.concat hfresh
        · exact fun j hj => started_update (fun h => Progress.noConfusion h) fun hji =>
            hstarted j ((List.mem_append.mp hj).resolve_right (by simpa using hji))
        · have hothers : ∀ j ∈ order,
              (Function.update progress i (.accepted event) j).event? = (progress j).event? := by
            intro j hj
            have hji : j ≠ i := fun hji => hfresh (hji ▸ hj)
            rw [Function.update_of_ne hji]
          have hlast : (Function.update progress i (.accepted event) i).event? = some event := by
            rw [Function.update_self]
            rfl
          rw [List.filterMap_append, List.filterMap_congr hothers, List.filterMap_cons, hlast,
            ← List.append_assoc, ← hpublished]
          rfl
      · intro j e hj
        by_cases hji : j = i
        · subst hji
          rw [Function.update_self] at hj
          cases hj
          exact hevent
        · rw [Function.update_of_ne hji] at hj
          exact h.publishes j e hj
  | @writes event _ =>
      constructor
      · exact h.named
      · refine ⟨_, _, hreached.step (a := .write (slot i)) ?_, hslotted.writes hi⟩
        have hslot : (pipeline writers w m).writers[slot i]? =
            some [⟨event, (jobs i).bus.attempt⟩] := hslotted.holds i event hi
        simp only [EventPipeline.step, hslot, hdates]
        rfl
      · refine ⟨order, hnodup, ?_, ?_⟩
        · exact fun j hj => started_update (fun h => Progress.noConfusion h) fun _ => hstarted j hj
        · rw [event?_update (by rw [hi]; rfl)]
          exact hpublished
      · intro j e hj
        rw [congrFun (event?_update (c := .written event) (by rw [hi]; rfl)) j] at hj
        exact h.publishes j e hj

/-! ## What is sent -/

/- What holds of the pipeline in every run holds of the processor beside the jobs, and a
writer is traced back to its job by the slot it was given. -/

/-- The tenant that the job is for. -/
def Job.tenantId? : Job Token → Option String
  | .serve _ _ => none
  | .trigger _ _ _ command => some command.tenantId
  | .record _ _ _ _ command => some command.tenantId

/-- An event of a tenant is published for that tenant. -/
theorem Job.tenant_of_publishes {job : Job Token} {event : TenantAwareEvent}
    (h : job.Publishes event) (htenant : (Pg.uuid event.tenantId).isSome) :
    job.tenantId? = some event.tenantId := by
  cases job with
  | serve api request =>
      cases request with
      | register headers body invalid =>
          obtain ⟨user, rfl⟩ := h
          have hglobal : Pg.uuid "global" = none := by decide
          exact absurd htenant (by simp [userRegistered, hglobal])
      | login headers body invalid => cases h
      | guarded request => cases h
  | trigger bus ctx rt command =>
      obtain ⟨definition, saved, rfl, hsaved, -⟩ := h
      exact congrArg some hsaved.symm
  | record bus inet ctx rt command =>
      obtain ⟨rfl, -⟩ := h
      rfl

/-- The requests and the processor, before any has taken a step. -/
def startedBeside (jobs : ι → Job Token) (w : World) (m : Processing) :
    Beside ι World Exception (JobAnswer Token) Processing := ⟨started jobs w, m⟩

/-- After any run the database and the processor are a state of the pipeline. -/
theorem linked_run (hdates : ∀ i, (jobs i).bus.otherDates = otherDates) (hnamed : w.Named)
    (hreached : Reached otherDates writers w m)
    {labels : List (ι ⊕ Processing.Step)}
    {s : Beside ι World Exception (JobAnswer Token) Processing}
    (hrun : exec (Beside.step Processing.step) (startedBeside jobs w m) labels = some s) :
    ∃ progress, Linked jobs otherDates w s.threads.store s.memory progress := by
  obtain ⟨progress, hlinked, -⟩ := Beside.exec_follows
    (I := Linked jobs otherDates w) (fun _ _ _ h => h.named)
    (fun i _ _ _ _ _ h hmove => linked_move (hdates i) h hmove)
    (fun _ _ _ _ _ _ h hstep => linked_process h hstep) (linked_start hnamed hreached)
    (fun i => (jobs i).announcing) hrun
  exact ⟨progress, hlinked⟩

/-- Those of the jobs that have published, each with its event. -/
theorem forall₂_filterMap {α β : Type} {f : α → Option β} {l : List α}
    (h : ∀ a ∈ l, (f a).isSome) : List.Forall₂ (fun a b => f a = some b) l (l.filterMap f) := by
  induction l with
  | nil => exact .nil
  | cons a l ih =>
      obtain ⟨b, hb⟩ := Option.isSome_iff_exists.mp (h a List.mem_cons_self)
      rw [List.filterMap_cons, hb]
      exact .cons hb (ih fun a' ha' => h a' (List.mem_cons_of_mem a ha'))

/-- **What requests send to Event Streaming**: in every run of requests beside
the processor, whatever overlaps, fails or stops, each job publishes one event
at most, and each call of `ingest` carries a published event, one that was there
before or that a job has published for its own tenant, in the stream of that
tenant. -/
theorem sent_events_published (hdates : ∀ i, (jobs i).bus.otherDates = otherDates)
    (hnamed : w.Named) (hreached : Reached otherDates writers w m)
    {labels : List (ι ⊕ Processing.Step)}
    {s : Beside ι World Exception (JobAnswer Token) Processing}
    (hrun : exec (Beside.step Processing.step) (startedBeside jobs w m) labels = some s) :
    (∃ order events, order.Nodup ∧ s.threads.store.published = w.published ++ events ∧
      List.Forall₂ (fun i event => (jobs i).Publishes event) order events) ∧
    ∀ c ∈ s.memory.calls, ∃ event ∈ s.threads.store.published,
      EventPipeline.Conveys event c.command ∧ (event ∈ w.published ∨
        ∃ i, (jobs i).Publishes event ∧ (jobs i).tenantId? = some event.tenantId) := by
  obtain ⟨progress, hlinked⟩ := linked_run hdates hnamed hreached hrun
  obtain ⟨order, hnodup, hstarted, hpublished⟩ := hlinked.published
  constructor
  · refine ⟨order, _, hnodup, hpublished, ?_⟩
    have hsome : ∀ i ∈ order, ((progress i).event?).isSome := by
      intro i hi
      cases hprogress : progress i with
      | quiet => exact absurd hprogress (hstarted i hi)
      | accepted event => rfl
      | written event => rfl
    exact (forall₂_filterMap hsome).imp fun i event hevent => hlinked.publishes i event hevent
  · intro c hc
    obtain ⟨writers', inv⟩ := authentic_of_linked hlinked
    obtain ⟨row, hrow, -, hcommand⟩ := inv.calls c hc
    obtain ⟨event, hevent, hstored⟩ := inv.rows row hrow
    have hconveys : EventPipeline.Conveys event c.command :=
      hcommand ▸ EventPipeline.conveys_of_storedFor hstored
    have hmem : event ∈ s.threads.store.published := hevent
    refine ⟨event, hmem, hconveys, ?_⟩
    rw [hpublished] at hmem
    refine (List.mem_append.mp hmem).imp_right fun hnew => ?_
    obtain ⟨i, -, hi⟩ := List.mem_filterMap.mp hnew
    obtain ⟨eventId, tenantId, -, htenant, -⟩ := hconveys.ids
    have hpublishes := hlinked.publishes i event hi
    exact ⟨i, hpublishes, Job.tenant_of_publishes hpublishes (Option.isSome_of_mem htenant)⟩

/-- The bus of a job, with the id that its entry gets. -/
def sampleForwarding (entryId : Fin 16) : EventBus :=
  ⟨true, .ok (), ⟨Pg.uuidOf entryId, 1716500001000, true⟩, fun _ => none⟩

def paidInvoice : RecordAuditEventCommand :=
  ⟨Pg.uuidOf 3, Pg.uuidOf 4, some (Pg.uuidOf 2), .user, "invoice.paid", "invoice", "42", .success,
    [], none, none⟩

/-- An audit event, and a registration. -/
def forwardingJobs : Fin 2 → Job String
  | 0 => .record (sampleForwarding 7) some (some (Pg.uuidOf 3)) sampleRuntime paidInvoice
  | 1 => .serve { sampleApi (Pg.uuidOf 4) with eventBus := sampleForwarding 11 }
      (.register ⟨none, none⟩ ⟨"ada@acme.test", "correct horse", "Ada"⟩ none)

/-- The row of the audit event. -/
def paidEntry : List OutboxEntryOrmEntity :=
  (entryRow (fun _ => none)
    (auditEventRecorded (.create sampleRuntime.generateId sampleRuntime.occurredAt paidInvoice))
    (Pg.uuidOf 7) 1716500001000).toList

/-- Both jobs publish; the process that has sent the audit event stops before it
saves that. -/
def forwardingLabels : List (Fin 2 ⊕ Processing.Step) :=
  [.inl 0, .inl 1, .inl 1, .inl 0, .inl 1, .inl 0, .inl 1,
   .inr (.process (.fetch (some paidEntry))), .inr (.process (.ingest 0 1716500005000 none)),
   .inr (.stopBatch 0)]

/-- The empty database is reached by no step at all. -/
theorem reached_empty (otherDates : String → Option Js.Date) :
    Reached otherDates [] emptyWorld ⟨[], [], []⟩ := ⟨[], rfl⟩

theorem emptyWorld_named : emptyWorld.Named := fun _ h => absurd h List.not_mem_nil

theorem sent_events_published_sample : ∃ s,
    exec (Beside.step Processing.step) (startedBeside forwardingJobs emptyWorld ⟨[], [], []⟩)
      forwardingLabels = some s ∧ s.memory.calls.length = 1 ∧
    ∀ c ∈ s.memory.calls, ∃ event ∈ s.threads.store.published,
      EventPipeline.Conveys event c.command ∧ ∃ i, (forwardingJobs i).Publishes event ∧
        (forwardingJobs i).tenantId? = some event.tenantId := by
  have hshows : (exec (Beside.step Processing.step)
      (startedBeside forwardingJobs emptyWorld ⟨[], [], []⟩) forwardingLabels).any
      (fun s => s.memory.calls.length = 1) = true := by
    decide +kernel
  obtain ⟨s, hrun, hcalls⟩ := (Option.any_eq_true _ _).mp hshows
  have hdates : ∀ i, (forwardingJobs i).bus.otherDates = fun _ => none
    | 0 => rfl
    | 1 => rfl
  obtain ⟨-, hsent⟩ := sent_events_published hdates emptyWorld_named (reached_empty _) hrun
  refine ⟨s, hrun, of_decide_eq_true hcalls, fun c hc => ?_⟩
  obtain ⟨event, hevent, hconveys, hold | hnew⟩ := hsent c hc
  · exact absurd hold List.not_mem_nil
  · exact ⟨event, hevent, hconveys, hnew⟩

end Linked

/-! ## What is delivered -/

/- Here the jobs have to be promised more: that an insert is executed, and that the
columns hold what is inserted.  Then the row of an event that was answered for is in the
outbox for good, and the bound on the batches applies to it. -/

section Delivered

open Processing

variable {ι Token : Type} {jobs : ι → Job Token} {otherDates : String → Option Js.Date}
  {writers : List (List Publication)} {w₀ w w' : World} {m m' : Processing}
  {progress : ι → Progress}

/-- What the runtime and the server promise the events of the jobs: their
entries get identifiers of their own, the clocks show instants the columns hold,
and the statements are executed. -/
structure Provided (jobs : ι → Job Token) (otherDates : String → Option Js.Date) (w : World) :
    Prop where
  dates : ∀ i, (jobs i).bus.otherDates = otherDates
  executed : ∀ i, (jobs i).bus.attempt.executed = true
  ids : ∀ i, Pg.uuid (jobs i).bus.attempt.generateId = some (jobs i).bus.attempt.generateId
  apart : ∀ i j, (jobs i).bus.attempt.generateId = (jobs j).bus.attempt.generateId → i = j
  free : ∀ i, (jobs i).bus.attempt.generateId ∉ w.outboxEntries.rows.map OutboxEntryOrmEntity.id
  createdAt : ∀ i, Pg.timestamptz (jobs i).bus.attempt.now = some (jobs i).bus.attempt.now
  year : ∀ i, Js.HasFourDigitYear (jobs i).rt.occurredAt
  occurredAt : ∀ i, Pg.timestamptz (jobs i).rt.occurredAt = some (jobs i).rt.occurredAt

/-- The event of a job that is for a tenant has a row. -/
theorem row_of_publishes {w : World} {job : Job Token} {event : TenantAwareEvent}
    (hpromised : Promised job.bus.attempt ⟨id, some, none, job.rt⟩ w)
    (h : job.Publishes event) (htenant : job.tenantId?.isSome) :
    (Publication.row? otherDates ⟨event, job.bus.attempt⟩).isSome := by
  have hfits : FitsColumns event ∧ event.occurredAt = Js.toISOString job.rt.occurredAt := by
    cases job with
    | serve api request => cases htenant
    | trigger bus ctx rt command =>
        obtain ⟨definition, saved, rfl, -, hfits⟩ := h
        exact ⟨hfits, rfl⟩
    | record bus inet ctx rt command =>
        obtain ⟨rfl, hfits⟩ := h
        exact ⟨hfits, rfl⟩
  exact (hfits.1.enters hpromised hfits.2).accepted

/-- What was written is in the outbox, and what was not has its id to itself. -/
structure EventsStored (jobs : ι → Job Token) (otherDates : String → Option Js.Date) (w : World)
    (progress : ι → Progress) : Prop where
  free : ∀ i, (∀ event, progress i ≠ .written event) →
    (jobs i).bus.attempt.generateId ∉ w.outboxEntries.rows.map OutboxEntryOrmEntity.id
  rows : ∀ i event, progress i = .written event → (jobs i).tenantId?.isSome →
    ∃ row ∈ w.outboxEntries.rows, EventPipeline.StoredFor otherDates event row

/-- The processor keeps the rows of the events. -/
theorem stored_process {a : Processing.Step} (inv : OutboxSystem.Inv (m.outbox w))
    (h : EventsStored jobs otherDates w progress) (hstep : Processing.step w m a = some (w', m')) :
    EventsStored jobs otherDates w' progress := by
  rcases step_cases hstep with ⟨a, s, -, hnew, hs, rfl, -⟩ | ⟨i, b, -, -, rfl, -⟩
  · constructor
    · intro i hi hmem
      obtain ⟨row', hrow', hid⟩ := List.mem_map.mp hmem
      obtain ⟨row, hrow, hfrozen⟩ := EventPipeline.stems_of_step inv hnew hs row' hrow'
      exact h.free i hi (List.mem_map.mpr ⟨row, hrow, (frozen_id hfrozen).symm.trans hid⟩)
    · intro i event hi htenant
      exact EventPipeline.storedFor_kept (OutboxSystem.keeps_step inv hs)
        (h.rows i event hi htenant)
  · exact h

variable [DecidableEq ι]

/-- **A write leaves the event in the outbox**, where the insert is executed. -/
theorem stored_move {i : ι} {c : Progress} (hprovided : Provided jobs otherDates w₀)
    (hlinked : Linked jobs otherDates w₀ w m progress) (h : EventsStored jobs otherDates w progress)
    (hmove : Progress.Move (jobs i).bus (jobs i).Publishes (progress i) w c w') :
    EventsStored jobs otherDates w' (Function.update progress i c) := by
  generalize hi : progress i = p at hmove
  cases hmove with
  | silent hsame =>
      obtain ⟨-, houtbox, -⟩ := World.kept_of_backbone hsame
      rw [← hi, Function.update_eq_self]
      exact ⟨houtbox ▸ h.free, houtbox ▸ h.rows⟩
  | @accepts event _ hevent =>
      constructor
      · intro j hj
        refine h.free j fun e he => ?_
        by_cases hji : j = i
        · rw [hji, hi] at he
          cases he
        · exact hj e (by rw [Function.update_of_ne hji, he])
      · intro j e hj
        by_cases hji : j = i
        · rw [hji, Function.update_self] at hj
          cases hj
        · rw [Function.update_of_ne hji] at hj
          exact h.rows j e hj
  | @writes event _ =>
      have hfree : (jobs i).bus.attempt.generateId ∉
          w.outboxEntries.rows.map OutboxEntryOrmEntity.id :=
        h.free i fun e he => by rw [hi] at he; cases he
      have hrows := @rows_entryWritten (jobs i).bus.otherDates w.outboxEntries
        ⟨event, (jobs i).bus.attempt⟩ (hprovided.executed i) (hprovided.ids i) hfree
      constructor
      · intro j hj
        have hji : j ≠ i := by
          rintro rfl
          exact hj event (Function.update_self j _ progress)
        show _ ∉ (ForwardingEventBus.entryWritten _ _ _).rows.map OutboxEntryOrmEntity.id
        rw [hrows, List.map_append, List.mem_append, not_or]
        constructor
        · exact h.free j fun e he => hj e (by rw [Function.update_of_ne hji, he])
        · intro hmem
          obtain ⟨row, hrow, hid⟩ := List.mem_map.mp hmem
          have hkey := (entryRow_cases (Option.mem_toList.mp hrow)).2.1
          rw [hprovided.ids i] at hkey
          exact hji (hprovided.apart j i (hid.symm.trans (Option.some.inj hkey).symm))
      · intro j e hj htenant
        show ∃ row ∈ (ForwardingEventBus.entryWritten _ _ _).rows, _
        rw [hrows]
        by_cases hji : j = i
        · subst hji
          rw [Function.update_self] at hj
          cases hj
          have hpublishes : (jobs j).Publishes event := hlinked.publishes j event (by rw [hi]; rfl)
          have hpromised : Promised (jobs j).bus.attempt ⟨id, some, none, (jobs j).rt⟩ w :=
            ⟨Option.isSome_of_mem (hprovided.ids j), hprovided.createdAt j, hprovided.year j,
              hprovided.occurredAt j, hlinked.named⟩
          have hsome : (Publication.row? (jobs j).bus.otherDates
              ⟨event, (jobs j).bus.attempt⟩).isSome :=
            row_of_publishes hpromised hpublishes htenant
          obtain ⟨row, hrow⟩ := Option.isSome_iff_exists.mp hsome
          refine ⟨row, List.mem_append_right _ (Option.mem_toList.mpr hrow), ?_⟩
          exact ⟨_, _, row, hprovided.dates j ▸ hrow, rfl⟩
        · rw [Function.update_of_ne hji] at hj
          obtain ⟨row, hrow, hstored⟩ := h.rows j e hj htenant
          exact ⟨row, List.mem_append_left _ hrow, hstored⟩

/-- **What is answered for is delivered**: after any run of requests beside the
processor in which every outbox insert is executed (`Provided.executed`), the
event of a trigger or an audit record that was answered with success, by a server
that forwards, is stored.  From where no batch is under way, batches that follow
one another, while nothing is inserted and every fetch and every save succeeds
(`Undisturbed`), deliver it or give it up after five failed calls; every call made
for its entry carries it. -/
theorem answered_events_settle (hprovided : Provided jobs otherDates w) (hnamed : w.Named)
    (hreached : Reached otherDates writers w m) {labels : List (ι ⊕ Processing.Step)}
    {s : Beside ι World Exception (JobAnswer Token) Processing}
    (hrun : exec (Beside.step Processing.step) (startedBeside jobs w m) labels = some s)
    {i : ι} (hforwarding : (jobs i).bus.forwardingEnabled = true)
    (htenant : (jobs i).tenantId?.isSome) {answer : JobAnswer Token} {eventId : String}
    (hanswer : (s.threads.thread i).answer? = some answer)
    (heventId : answer.eventId? = some eventId) {later : List OutboxSystem.Step}
    {s' : OutboxSystem} (hidle : (s.memory.outbox s.threads.store).unsaved = [])
    (hok : Along OutboxSystem.step (fun s a => OutboxSystem.NonOverlapping s a ∧
      OutboxSystem.Undisturbed a) (s.memory.outbox s.threads.store) later)
    (hlater : OutboxSystem.run (s.memory.outbox s.threads.store) later = some s')
    (hdone : s'.unsaved = [])
    (hruns : OutboxSystem.attemptsLeft s.threads.store.outboxEntries / BATCH_SIZE + MAX_ATTEMPTS ≤
      OutboxSystem.started later) :
    ∃ event, (jobs i).Publishes event ∧ event.eventId = eventId ∧
      ∃ row ∈ s'.table.rows, EventPipeline.StoredFor otherDates event row ∧
        (∀ c ∈ s'.calls, c.entryId = row.id → EventPipeline.Conveys event c.command) ∧
        (row.status = .processed ∧ 1 ≤ OutboxSystem.accepted s'.calls row.id ∨
          row.status = .failed ∧ MAX_ATTEMPTS ≤ OutboxSystem.failures s'.calls row.id) := by
  obtain ⟨progress, ⟨hlinked, hstored⟩, hthreads⟩ := Beside.exec_follows
    (I := fun w' m' progress =>
      Linked jobs otherDates w w' m' progress ∧ EventsStored jobs otherDates w' progress)
    (fun _ _ _ h => h.1.named)
    (fun i _ _ _ _ _ h hmove =>
      ⟨linked_move (hprovided.dates i) h.1 hmove, stored_move hprovided h.1 h.2 hmove⟩)
    (fun _ _ _ _ _ _ h hstep =>
      ⟨linked_process h.1 hstep,
        stored_process (authentic_of_linked h.1).choose_spec.outbox h.2 hstep⟩)
    ⟨linked_start hnamed hreached, fun i _ => hprovided.free i, fun i event hi => by cases hi⟩
    (fun i => (jobs i).announcing) hrun
  have hi := hthreads i
  rw [Thread.eq_answer hanswer] at hi
  obtain ⟨event, hpublishes, hid, hprogress⟩ := hi.of_answer eventId heventId
  refine ⟨event, hpublishes, hid, ?_⟩
  obtain ⟨writers', inv⟩ := authentic_of_linked hlinked
  apply EventPipeline.settles inv.outbox inv.calls hidle hok hlater hdone hruns
  apply hstored.rows i event _ htenant
  rw [hprogress, EventBus.progress, if_pos hforwarding]

theorem forwardingJobs_provided : Provided forwardingJobs (fun _ => none) emptyWorld where
  dates
    | 0 => rfl
    | 1 => rfl
  executed
    | 0 => rfl
    | 1 => rfl
  ids := by decide +kernel
  apart := by decide +kernel
  free := fun _ => List.not_mem_nil
  createdAt := by decide +kernel
  year := by
    intro i
    have hyear : Js.HasFourDigitYear sampleRuntime.occurredAt := by
      show _ ∧ _
      decide +kernel
    match i with
    | 0 => exact hyear
    | 1 => exact hyear
  occurredAt := by decide +kernel

/-- Five more batches, the first of which sends the audit event again. -/
def forwardingLater : List OutboxSystem.Step :=
  [.fetch (some paidEntry), .ingest 1 1716500010000 none, .save 1 true, .fetch (some []),
   .fetch (some []), .fetch (some []), .fetch (some [])]

theorem answered_events_settle_sample : ∃ s s',
    exec (Beside.step Processing.step) (startedBeside forwardingJobs emptyWorld ⟨[], [], []⟩)
      forwardingLabels = some s ∧
    OutboxSystem.run (s.memory.outbox s.threads.store) forwardingLater = some s' ∧
    ∃ event, (forwardingJobs 0).Publishes event ∧ event.eventId = sampleRuntime.generateId ∧
      ∃ row ∈ s'.table.rows, EventPipeline.StoredFor (fun _ => none) event row ∧
        (∀ c ∈ s'.calls, c.entryId = row.id → EventPipeline.Conveys event c.command) ∧
        (row.status = .processed ∧ 1 ≤ OutboxSystem.accepted s'.calls row.id ∨
          row.status = .failed ∧ MAX_ATTEMPTS ≤ OutboxSystem.failures s'.calls row.id) := by
  have hshows : (exec (Beside.step Processing.step)
      (startedBeside forwardingJobs emptyWorld ⟨[], [], []⟩) forwardingLabels).any (fun s =>
        ((s.threads.thread 0).answer?.any fun answer =>
          answer.eventId? = some sampleRuntime.generateId) &&
        ((s.memory.outbox s.threads.store).unsaved = [] &&
        (Along OutboxSystem.step (fun s a => OutboxSystem.NonOverlapping s a ∧
          OutboxSystem.Undisturbed a) (s.memory.outbox s.threads.store) forwardingLater &&
        ((OutboxSystem.run (s.memory.outbox s.threads.store) forwardingLater).any
          (fun s' => s'.unsaved = []) &&
        OutboxSystem.attemptsLeft s.threads.store.outboxEntries / BATCH_SIZE + MAX_ATTEMPTS ≤
          OutboxSystem.started forwardingLater)))) = true := by
    decide +kernel
  obtain ⟨s, hrun, hs⟩ := (Option.any_eq_true _ _).mp hshows
  simp only [Bool.and_eq_true, decide_eq_true_eq] at hs
  obtain ⟨hanswered, hidle, hok, hsettled, hruns⟩ := hs
  obtain ⟨answer, hanswer, heventId⟩ := (Option.any_eq_true _ _).mp hanswered
  obtain ⟨s', hlater, hdone⟩ := (Option.any_eq_true _ _).mp hsettled
  exact ⟨s, s', hrun, hlater, answered_events_settle forwardingJobs_provided emptyWorld_named
    (reached_empty _) hrun rfl rfl hanswer (of_decide_eq_true heventId) hidle hok hlater
    (of_decide_eq_true hdone) hruns⟩

end Delivered

end Atlas
