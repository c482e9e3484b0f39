import Atlas.Outbox.Drain
import Atlas.PlatformEvents.Forwarding

/-!
# Atlas.Outbox.Pipeline

From `publish` to `ingest`: callers of `ForwardingEventBus` and batches of
`OutboxProcessorService`, any number of each, at work on one table.

A call that the inner bus has accepted writes its events to the outbox one
after the other, with everything else going on in between.  A process that
stops takes along what it has in memory: the events a call has still to write,
and the copies a batch has still to send or to save.  The copies whose call was
made and whose save was not are `lost`, which records and decides nothing, as
`published` does.

`calls_convey` is what no schedule and no failure can break: whatever reaches
Event Streaming was published, in the stream of its own tenant.
-/

namespace Atlas

open StoreKit OutboxEntryRepository

/-! ## The system -/

structure EventPipeline where
  /-- The events the inner bus has accepted. -/
  published : List TenantAwareEvent
  /-- What each of the calls has still to write to the outbox. -/
  writers : List (List Publication)
  outbox : OutboxSystem
  lost : List OutboxEntryEntity

namespace EventPipeline

/-- Before the first call, with nothing in the outbox. -/
def init : EventPipeline := ⟨[], [], .init .empty, []⟩

inductive Step where
  /-- The inner bus answers a call. -/
  | publish (call : ForwardingCall)
  /-- Call number `i` writes its next event to the outbox. -/
  | write (i : Nat)
  | process (a : OutboxSystem.Step)
  /-- The process that runs call number `i` stops. -/
  | stopCall (i : Nat)
  /-- The process that runs batch number `i` stops. -/
  | stopBatch (i : Nat)

/-- The copies that a step drops between their call and their save. -/
def dropped (s : OutboxSystem) : OutboxSystem.Step → List OutboxEntryEntity
  | .save i false => (s.batches[i]?.bind Batch.current).toList
  | _ => []

/-- One step.  Entries come from `write` alone. -/
def step (otherDates : String → Option Js.Date) (s : EventPipeline) : Step → Option EventPipeline
  | .publish call =>
      match call.inner with
      | .ok () => some { s with
          published := s.published ++ call.publications.map Publication.event
          writers := s.writers ++ [call.publications] }
      | .error _ => some s
  | .write i =>
      match s.writers[i]? with
      | some (publication :: rest) => some { s with
          writers := s.writers.set i rest
          outbox := { s.outbox with
            table := ForwardingEventBus.entryWritten otherDates s.outbox.table publication } }
      | _ => none
  | .process (.append _ _ _) => none
  | .process a =>
      (OutboxSystem.step s.outbox a).map fun outbox =>
        { s with outbox, lost := s.lost ++ dropped s.outbox a }
  | .stopCall i =>
      match s.writers[i]? with
      | some _ => some { s with writers := s.writers.set i [] }
      | none => none
  | .stopBatch i =>
      match s.outbox.batches[i]? with
      | some b => some { s with
          outbox := { s.outbox with batches := s.outbox.batches.set i ⟨none, []⟩ }
          lost := s.lost ++ b.current.toList }
      | none => none

/-- The state a list of steps leads to. -/
abbrev run (otherDates : String → Option Js.Date) (s : EventPipeline) (steps : List Step) :
    Option EventPipeline := exec (step otherDates) s steps

variable {otherDates : String → Option Js.Date}

/-! ## What a step does -/

/- `Transition` names what a step changes, with the writer or batch that moved taken out
of its list.  The invariants below split on it. -/

/-- A step, with the call or the batch that moved taken out of the list. -/
inductive Transition (otherDates : String → Option Js.Date) (s : EventPipeline) :
    Step → EventPipeline → Prop
  | accepted {call} (h : call.inner = .ok ()) :
      Transition otherDates s (.publish call)
        { s with
          published := s.published ++ call.publications.map Publication.event
          writers := s.writers ++ [call.publications] }
  | rejected {call} : Transition otherDates s (.publish call) s
  | wrote {publication rest} {before after : List (List Publication)}
      (h : s.writers = before ++ (publication :: rest) :: after) :
      Transition otherDates s (.write before.length)
        { s with
          writers := before ++ rest :: after
          outbox := { s.outbox with
            table := ForwardingEventBus.entryWritten otherDates s.outbox.table publication } }
  | processed {a outbox} (hnew : ∀ generateId now params, a ≠ .append generateId now params)
      (h : OutboxSystem.step s.outbox a = some outbox) :
      Transition otherDates s (.process a)
        { s with outbox, lost := s.lost ++ dropped s.outbox a }
  | callStopped {w} {before after : List (List Publication)}
      (h : s.writers = before ++ w :: after) :
      Transition otherDates s (.stopCall before.length)
        { s with writers := before ++ [] :: after }
  | batchStopped {b} {before after : List Batch} (h : s.outbox.batches = before ++ b :: after) :
      Transition otherDates s (.stopBatch before.length)
        { s with
          outbox := { s.outbox with batches := before ++ ⟨none, []⟩ :: after }
          lost := s.lost ++ b.current.toList }

theorem transition_of_step {s s' : EventPipeline} {a : Step} (h : step otherDates s a = some s') :
    Transition otherDates s a s' := by
  cases a with
  | publish call =>
      simp only [step] at h
      split at h
      · next hinner =>
          obtain rfl := Option.some.inj h
          exact .accepted hinner
      · obtain rfl := Option.some.inj h
        exact .rejected
  | write i =>
      simp only [step] at h
      split at h
      · next publication rest hw =>
          obtain ⟨before, after, hl, rfl, hset⟩ := slot_split hw
          rw [hset] at h
          obtain rfl := Option.some.inj h
          exact .wrote hl
      · contradiction
  | process a =>
      unfold step at h
      split at h
      · contradiction
      · contradiction
      · contradiction
      · next a' hnew heq =>
          obtain rfl := Step.process.inj heq
          obtain ⟨outbox, houtbox, rfl⟩ := Option.map_eq_some_iff.mp h
          refine .processed (fun generateId now params heq => ?_) houtbox
          exact hnew generateId now params (by rw [heq])
      · contradiction
      · contradiction
  | stopCall i =>
      simp only [step] at h
      split at h
      · next w hw =>
          obtain ⟨before, after, hl, rfl, hset⟩ := slot_split hw
          rw [hset] at h
          obtain rfl := Option.some.inj h
          exact .callStopped hl
      · contradiction
  | stopBatch i =>
      simp only [step] at h
      split at h
      · next b hb =>
          obtain ⟨before, after, hl, rfl, hset⟩ := slot_split hb
          rw [hset] at h
          obtain rfl := Option.some.inj h
          exact .batchStopped hl
      · contradiction

/-- An entry is inserted, or nothing changes. -/
theorem entryWritten_cases (table : OutboxTable) (publication : Publication) :
    ForwardingEventBus.entryWritten otherDates table publication = table ∨
      ∃ row generateId now params, publication.row? otherDates = some row ∧
        (toOrm (.create generateId now params)).stored = some row ∧
        append table (.create generateId now params) =
          some (ForwardingEventBus.entryWritten otherDates table publication) := by
  unfold ForwardingEventBus.entryWritten
  split
  · unfold ForwardingEventBus.writeToOutbox
    cases hdate : Js.newDate otherDates publication.event.occurredAt with
    | none => exact .inl rfl
    | some occurredAt =>
        dsimp only
        cases happend : append table (.create publication.attempt.generateId
            publication.attempt.now
            (ForwardingEventBus.outboxParams publication.event occurredAt)) with
        | none => exact .inl rfl
        | some table' =>
            right
            obtain ⟨row, hrow, -, -⟩ := append_cases happend
            refine ⟨row, _, _, _, ?_, hrow, happend⟩
            rw [Publication.row?, entryRow, hdate]
            exact hrow
  · exact .inl rfl

/-- The outbox after an attempt to write an entry. -/
abbrev written (otherDates : String → Option Js.Date) (s : OutboxSystem)
    (publication : Publication) : OutboxSystem :=
  { s with table := ForwardingEventBus.entryWritten otherDates s.table publication }

/-- Writing an entry is a step of the outbox, or none. -/
theorem written_cases (s : OutboxSystem) (publication : Publication) :
    written otherDates s publication = s ∨
      ∃ row, publication.row? otherDates = some row ∧
        (written otherDates s publication).table.rows = s.table.rows ++ [row] ∧
        row.attempts = 0 ∧ row.status = .pending ∧
        row.id ∉ s.table.rows.map OutboxEntryOrmEntity.id ∧
        ∃ generateId now params, OutboxSystem.step s (.append generateId now params) =
          some (written otherDates s publication) := by
  rcases @entryWritten_cases otherDates s.table publication with
    hsame | ⟨row, generateId, now, params, hrow, hstored, happend⟩
  · left
    rw [written, hsame]
  · right
    obtain ⟨row', hstored', hrows, hid⟩ := append_cases happend
    obtain rfl : row' = row := Option.some.inj (hstored'.symm.trans hstored)
    have hcolumns := storedAs_of_stored hstored
    refine ⟨row', hrow, hrows, hcolumns.attempts, hcolumns.status, hid, generateId, now, params, ?_⟩
    simp only [OutboxSystem.step, happend]

/-- A call that nothing interrupts does what `publish` and `publishBatch` do. -/
theorem run_call {call : ForwardingCall} (hcall : call.inner = .ok ()) (s : EventPipeline)
    {w : World} (hpublished : w.published = s.published)
    (htable : w.outboxEntries = s.outbox.table) :
    ∃ s', run otherDates s (.publish call ::
        List.replicate call.publications.length (.write s.writers.length)) = some s' ∧
      ((call.run otherDates).run w).1 = .ok () ∧
      ((call.run otherDates).run w).2.published = s'.published ∧
      ((call.run otherDates).run w).2.outboxEntries = s'.outbox.table := by
  have hwrites : ∀ (publications : List Publication) (t : EventPipeline),
      t.writers = s.writers ++ [publications] →
      run otherDates t (List.replicate publications.length (.write s.writers.length)) =
        some { t with
          writers := s.writers ++ [[]]
          outbox := { t.outbox with
            table := publications.foldl (ForwardingEventBus.entryWritten otherDates)
              t.outbox.table } } := by
    intro publications
    induction publications with
    | nil =>
        intro t ht
        rw [← ht]
        rfl
    | cons publication publications ih =>
        intro t ht
        have hslot : t.writers[s.writers.length]? = some (publication :: publications) := by
          rw [ht, List.getElem?_append_right (Nat.le_refl _), Nat.sub_self]
          rfl
        rw [List.length_cons, List.replicate_succ, run, exec]
        simp only [step, hslot]
        apply (ih _ _).trans
        · rfl
        · show t.writers.set s.writers.length publications = _
          rw [ht, List.set_append_right _ _ (Nat.le_refl _), Nat.sub_self]
          rfl
  have hstep : step otherDates s (.publish call) = some { s with
      published := s.published ++ call.publications.map Publication.event
      writers := s.writers ++ [call.publications] } := by
    simp only [step, hcall]
  have hrun := @call_run otherDates call w
  rw [hcall] at hrun
  have hall := hwrites call.publications { s with
    published := s.published ++ call.publications.map Publication.event
    writers := s.writers ++ [call.publications] } rfl
  rw [hrun]
  refine ⟨_, Eq.trans ?_ hall, rfl, ?_, ?_⟩
  · rw [run, exec, hstep]
  · simp only [hpublished]
  · simp only [htable]

/-! ## The way of an event -/

/-- The row holds the event, as it was stored when it was written. -/
def StoredFor (otherDates : String → Option Js.Date) (event : TenantAwareEvent)
    (row : OutboxEntryOrmEntity) : Prop :=
  ∃ generateId now row₀, entryRow otherDates event generateId now = some row₀ ∧
    row₀.frozen = row.frozen

/-- The command carries the event: its envelope as the columns give it back, in the
stream of its tenant. -/
structure Conveys (event : TenantAwareEvent) (command : IngestCommand) : Prop where
  type : Pg.varchar 150 event.eventType = some command.type
  source : command.source = event.sourceService
  payload : Pg.jsonObject event.payload = some command.payload
  correlationId : Pg.uuid event.correlationId = some command.correlationId
  actorId : command.actorId = event.actorId
  causationId : command.causationId = event.causationId
  traceId : command.traceId = event.traceId
  sourceVersion : command.sourceVersion = event.sourceVersion
  eventVersion : command.eventVersion = some event.eventVersion
  ids : ∃ eventId tenantId, Pg.uuid event.eventId = some eventId ∧
    Pg.uuid event.tenantId = some tenantId ∧
    command.metadata = some [("event_id", eventId), ("tenant_id", tenantId)] ∧
    command.streamId = s!"platform.{tenantId}.{command.type}"

/-- What is sent for a row is in its frozen part. -/
theorem ingestCommand_of_frozen {row row' : OutboxEntryOrmEntity} (h : row.frozen = row'.frozen) :
    ingestCommand (toDomain row) = ingestCommand (toDomain row') := by
  have hcommand : ∀ r : OutboxEntryOrmEntity, ingestCommand (toDomain r) =
      { streamId := s!"platform.{r.frozen.tenantId}.{r.frozen.eventType}"
        type := r.frozen.eventType
        source := r.frozen.sourceService
        payload := r.frozen.payload
        metadata := some [("event_id", r.frozen.eventId), ("tenant_id", r.frozen.tenantId)]
        correlationId := r.frozen.correlationId
        actorId := r.frozen.actorId
        causationId := r.frozen.causationId
        traceId := r.frozen.traceId
        sourceVersion := r.frozen.sourceVersion
        eventVersion := some r.frozen.eventVersion } := fun _ => rfl
  rw [hcommand, hcommand, h]

/-- The columns keep what the command carries. -/
theorem conveys_of_storedFor {event : TenantAwareEvent} {row : OutboxEntryOrmEntity}
    (h : StoredFor otherDates event row) : Conveys event (ingestCommand (toDomain row)) := by
  obtain ⟨generateId, now, row₀, hrow₀, hfrozen⟩ := h
  rw [← ingestCommand_of_frozen hfrozen]
  obtain ⟨occurredAt, -, hstored⟩ := Option.bind_eq_some_iff.mp hrow₀
  have hcolumns := storedAs_of_stored hstored
  exact
    { type := hcolumns.eventType
      source := Pg.text_eq hcolumns.sourceService
      payload := hcolumns.payload
      correlationId := hcolumns.correlationId
      actorId := nullable_text_eq hcolumns.actorId
      causationId := nullable_text_eq hcolumns.causationId
      traceId := nullable_text_eq hcolumns.traceId
      sourceVersion := nullable_text_eq hcolumns.sourceVersion
      eventVersion := congrArg some (Pg.int4OfNumber_eq hcolumns.eventVersion)
      ids := ⟨row₀.eventId, row₀.tenantId, hcolumns.eventId, hcolumns.tenantId, rfl, rfl⟩ }

/-! ## In every run -/

/- The invariant follows an event from the call that published it, over the row it was
written to and the copies of that row, to the command that was sent. -/

/-- What holds of every state, however calls and batches overlap and whatever
fails or stops. -/
structure Authentic (otherDates : String → Option Js.Date) (s : EventPipeline) : Prop where
  outbox : OutboxSystem.Inv s.outbox
  writers : ∀ w ∈ s.writers, ∀ p ∈ w, p.event ∈ s.published
  rows : ∀ row ∈ s.outbox.table.rows, ∃ event ∈ s.published, StoredFor otherDates event row
  calls : ∀ c ∈ s.outbox.calls, ∃ row ∈ s.outbox.table.rows, row.id = c.entryId ∧
    c.command = ingestCommand (toDomain row)

theorem authentic_init : Authentic otherDates init where
  outbox := OutboxSystem.inv_init
  writers w hw := by simp [init] at hw
  rows row hrow := by simp [init, OutboxSystem.init] at hrow
  calls c hc := by simp [init, OutboxSystem.init] at hc

/-- A row that holds an event still holds it with another status. -/
theorem StoredFor.kept {event : TenantAwareEvent} {row row' : OutboxEntryOrmEntity}
    (h : StoredFor otherDates event row) (hfrozen : row'.frozen = row.frozen) :
    StoredFor otherDates event row' := by
  obtain ⟨generateId, now, row₀, hrow₀, hsame⟩ := h
  exact ⟨generateId, now, row₀, hrow₀, hsame.trans hfrozen.symm⟩

/-- Calls stay the calls of a row as long as rows stay. -/
theorem calls_kept {table table' : OutboxTable} {calls : List IngestCall}
    (hkeeps : OutboxSystem.Keeps table table')
    (h : ∀ c ∈ calls, ∃ row ∈ table.rows, row.id = c.entryId ∧
      c.command = ingestCommand (toDomain row)) :
    ∀ c ∈ calls, ∃ row ∈ table'.rows, row.id = c.entryId ∧
      c.command = ingestCommand (toDomain row) := by
  intro c hc
  obtain ⟨row, hrow, hid, hcommand⟩ := h c hc
  obtain ⟨row', hrow', hfrozen⟩ := hkeeps row hrow
  exact ⟨row', hrow', (frozen_id hfrozen).trans hid,
    hcommand.trans (ingestCommand_of_frozen hfrozen).symm⟩

/-- A step of the processor adds no row. -/
theorem stems_of_step {s s' : OutboxSystem} {a : OutboxSystem.Step} (inv : OutboxSystem.Inv s)
    (hnew : ∀ generateId now params, a ≠ .append generateId now params)
    (h : OutboxSystem.step s a = some s') :
    ∀ row' ∈ s'.table.rows, ∃ row ∈ s.table.rows, row'.frozen = row.frozen := by
  cases OutboxSystem.transition_of_step h with
  | appended ht => exact absurd rfl (hnew _ _ _)
  | saved hl =>
      intro row' hrow'
      have hbatch := inv.batches _ (hl ▸ List.mem_append_cons_self)
      rcases (s.table.mem_put_iff _ _).mp hrow' with rfl | ⟨hrow', -⟩
      · obtain ⟨row, hrow, hfrozen⟩ := (hbatch.current _ rfl).stored
        exact ⟨row, hrow, hfrozen.symm⟩
      · exact ⟨row', hrow', rfl⟩
  | _ => exact fun row' hrow' => ⟨row', hrow', rfl⟩

/-- Every call a step of the processor makes is the call of a row. -/
theorem calls_of_step {s s' : OutboxSystem} {a : OutboxSystem.Step} (inv : OutboxSystem.Inv s)
    (h : OutboxSystem.step s a = some s')
    (hcalls : ∀ c ∈ s.calls, ∃ row ∈ s.table.rows, row.id = c.entryId ∧
      c.command = ingestCommand (toDomain row)) :
    ∀ c ∈ s'.calls, ∃ row ∈ s'.table.rows, row.id = c.entryId ∧
      c.command = ingestCommand (toDomain row) := by
  have hkeeps := OutboxSystem.keeps_step inv h
  have hkept := calls_kept hkeeps hcalls
  cases OutboxSystem.transition_of_step h with
  | @sent now error entry rest before after hl =>
      refine forall_joined.mpr ⟨hkept, ?_⟩
      have hbatch := inv.batches _ (hl ▸ List.mem_append_cons_self)
      obtain ⟨row, hrow, hfrozen⟩ := (hbatch.rest entry List.mem_cons_self).1.stored
      exact ⟨row, hrow, frozen_id hfrozen, (ingestCommand_of_frozen hfrozen).symm⟩
  | _ => exact hkept

theorem authentic_step (s : EventPipeline) (a : Step) (s' : EventPipeline)
    (inv : Authentic otherDates s) (h : step otherDates s a = some s') :
    Authentic otherDates s' := by
  cases transition_of_step h with
  | @accepted call hcall =>
      constructor
      · exact inv.outbox
      · refine forall_joined.mpr ⟨fun w hw p hp => ?_, fun p hp => ?_⟩
        · exact List.mem_append_left _ (inv.writers w hw p hp)
        · exact List.mem_append_right _ (List.mem_map_of_mem hp)
      · intro row hrow
        obtain ⟨event, hevent, hstored⟩ := inv.rows row hrow
        exact ⟨event, List.mem_append_left _ hevent, hstored⟩
      · exact inv.calls
  | rejected => exact inv
  | @wrote publication rest before after hl =>
      obtain ⟨hwriter, hwriters⟩ := forall_slots.mp (hl ▸ inv.writers)
      have hrest : ∀ w ∈ before ++ rest :: after, ∀ p ∈ w, p.event ∈ s.published :=
        forall_slots.mpr ⟨fun p hp => hwriter p (List.mem_cons_of_mem _ hp), hwriters⟩
      rcases @written_cases otherDates s.outbox publication with
        hsame | ⟨row, hrow, hrows, -, -, -, generateId, now, params, hstep⟩
      · have hsame' : ForwardingEventBus.entryWritten otherDates s.outbox.table publication =
            s.outbox.table := congrArg OutboxSystem.table hsame
        simp only [hsame']
        exact ⟨inv.outbox, hrest, inv.rows, inv.calls⟩
      · have hkeeps := OutboxSystem.keeps_step inv.outbox hstep
        constructor
        · exact OutboxSystem.inv_step _ _ _ inv.outbox hstep
        · exact hrest
        · intro r hr
          rcases List.mem_append.mp (hrows ▸ hr) with hr | hr
          · exact inv.rows r hr
          · obtain rfl := List.mem_singleton.mp hr
            exact ⟨publication.event, hwriter publication List.mem_cons_self, _, _, r, hrow, rfl⟩
        · exact calls_kept hkeeps inv.calls
  | processed hnew hstep =>
      constructor
      · exact OutboxSystem.inv_step _ _ _ inv.outbox hstep
      · exact inv.writers
      · intro row' hrow'
        obtain ⟨row, hrow, hfrozen⟩ := stems_of_step inv.outbox hnew hstep row' hrow'
        obtain ⟨event, hevent, hstored⟩ := inv.rows row hrow
        exact ⟨event, hevent, hstored.kept hfrozen⟩
      · exact calls_of_step inv.outbox hstep inv.calls
  | callStopped hl =>
      obtain ⟨-, hwriters⟩ := forall_slots.mp (hl ▸ inv.writers)
      refine ⟨inv.outbox, forall_slots.mpr ⟨fun p hp => ?_, hwriters⟩, inv.rows, inv.calls⟩
      contradiction
  | batchStopped hl =>
      obtain ⟨-, hbatches⟩ := forall_slots.mp (hl ▸ inv.outbox.batches)
      have hnone : OutboxSystem.BatchInv s.outbox.table s.outbox.calls ⟨none, []⟩ :=
        ⟨fun e he => by contradiction, fun e he => by contradiction⟩
      exact ⟨⟨inv.outbox.rows, forall_slots.mpr ⟨hnone, hbatches⟩⟩, inv.writers, inv.rows,
        inv.calls⟩

/-- **Nothing is sent that was not published**: in every run of calls and
batches, whatever overlaps, fails or stops, each call of `ingest` carries an
event that the inner bus has accepted, in the stream of the event's tenant, and
all calls made for one entry carry the same. -/
theorem calls_convey {steps : List Step} {s : EventPipeline}
    (h : run otherDates init steps = some s) :
    (∀ c ∈ s.outbox.calls, ∃ event ∈ s.published, Conveys event c.command) ∧
      ∀ c ∈ s.outbox.calls, ∀ c' ∈ s.outbox.calls, c.entryId = c'.entryId →
        c.command = c'.command := by
  have inv : Authentic otherDates s := exec_keeps authentic_step authentic_init h
  constructor
  · intro c hc
    obtain ⟨row, hrow, -, hcommand⟩ := inv.calls c hc
    obtain ⟨event, hevent, hstored⟩ := inv.rows row hrow
    exact ⟨event, hevent, hcommand ▸ conveys_of_storedFor hstored⟩
  · intro c hc c' hc' hsame
    obtain ⟨row, hrow, hid, hcommand⟩ := inv.calls c hc
    obtain ⟨row', hrow', hid', hcommand'⟩ := inv.calls c' hc'
    have hrows : row = row' :=
      s.outbox.table.eq_of_key_eq hrow hrow' (hid.trans (hsame.trans hid'.symm))
    rw [hcommand, hcommand', hrows]

/-- The row of the sample event under id `7`. -/
def sampleEntry : List OutboxEntryOrmEntity :=
  ((samplePublication 1 7).row? fun _ => none).toList

/-- An event that is sent twice, because the first batch stops before its save. -/
def stoppedRun : List Step :=
  [.publish (.publish (.ok ()) (samplePublication 1 7)), .write 0,
   .process (.fetch (some sampleEntry)), .process (.ingest 0 1716500005000 none), .stopBatch 0,
   .process (.fetch (some sampleEntry)), .process (.ingest 1 1716500010000 none),
   .process (.save 1 true)]

theorem calls_convey_sample :
    ∃ s, run (fun _ => none) init stoppedRun = some s ∧ s.outbox.calls.length = 2 ∧
      (∀ c ∈ s.outbox.calls, ∃ event ∈ s.published, Conveys event c.command) ∧
      ∀ c ∈ s.outbox.calls, ∀ c' ∈ s.outbox.calls, c.entryId = c'.entryId →
        c.command = c'.command := by
  have hlength : (run (fun _ => none) init stoppedRun).map (fun s => s.outbox.calls.length) =
      some 2 := by decide +kernel
  obtain ⟨s, hs, hcalls⟩ := Option.map_eq_some_iff.mp hlength
  exact ⟨s, hs, hcalls, calls_convey hs⟩

end EventPipeline

end Atlas
