import Atlas.Outbox.Processor

/-!
# Atlas.Outbox.Invariant

What holds of every row of the outbox in every state, however batches overlap
and whatever fails.

The status of a row was decided on some in-memory copy, which may have been
stale.  So the invariant speaks of copies as much as of rows: `StatusInv` holds
of both, a copy not sent yet is pending, and the frozen part of a copy is the
frozen part of a stored row.
-/

namespace Atlas.OutboxSystem

open StoreKit OutboxEntryRepository

/-- What the status and the attempts of a row say about the calls made. -/
structure StatusInv (calls : List IngestCall) (row : OutboxEntryOrmEntity) : Prop where
  attempts : row.attempts ≤ failures calls row.id
  pending : row.status = .pending → row.attempts ≤ 4
  failed : row.status = .failed → row.attempts = 5
  processed : row.status = .processed → row.attempts ≤ 4 ∧ 0 < accepted calls row.id

/-- Calls made later take nothing back. -/
theorem StatusInv.later {calls : List IngestCall} {row : OutboxEntryOrmEntity}
    (h : StatusInv calls row) (c : IngestCall) : StatusInv (calls ++ [c]) row where
  attempts := by
    rw [failures_append]
    have hattempts := h.attempts
    omega
  pending := h.pending
  failed := h.failed
  processed hs := by
    rw [accepted_append]
    have hprocessed := h.processed hs
    omega

/-- Settling a pending copy, with its call recorded. -/
theorem StatusInv.settle {calls : List IngestCall} {entry : OutboxEntryEntity}
    (h : StatusInv calls (toOrm entry)) (hp : entry.status = .pending) (now : Js.Date)
    (command : IngestCommand) (error : Option String) :
    StatusInv (calls ++ [⟨entry.outboxEntryId, command, error⟩])
      (toOrm (settle entry now error)) := by
  have hattempts : entry.attempts ≤ failures calls entry.outboxEntryId := h.attempts
  have hfour : entry.attempts ≤ 4 := h.pending hp
  cases error with
  | none =>
      exact
        { attempts := by
            rw [failures_append]
            exact Nat.le_add_right_of_le hattempts
          pending := fun hs => by contradiction
          failed := fun hs => by contradiction
          processed := fun _ => by
            rw [accepted_append]
            exact ⟨hfour, by simp [Atlas.settle, OutboxEntryEntity.markProcessed, toOrm]⟩ }
  | some message =>
      have hfailures : entry.attempts + 1 ≤
          failures (calls ++ [⟨entry.outboxEntryId, command, some message⟩])
            entry.outboxEntryId := by
        rw [failures_append]
        simpa using hattempts
      by_cases hlast : entry.attempts + 1 ≥ MAX_ATTEMPTS
      · have hfive : entry.attempts + 1 = 5 := by
          have : MAX_ATTEMPTS = 5 := rfl
          omega
        have hstatus : (Atlas.settle entry now (some message)).status = .failed := by
          simp [Atlas.settle, OutboxEntryEntity.recordAttemptFailure, hlast]
        exact
          { attempts := hfailures
            pending := fun hs => by simp [toOrm, hstatus] at hs
            failed := fun _ => hfive
            processed := fun hs => by simp [toOrm, hstatus] at hs }
      · have hstatus : (Atlas.settle entry now (some message)).status = .pending := by
          simp [Atlas.settle, OutboxEntryEntity.recordAttemptFailure, hlast, hp]
        exact
          { attempts := hfailures
            pending := fun _ => by
              have : MAX_ATTEMPTS = 5 := rfl
              change entry.attempts + 1 ≤ 4
              omega
            failed := fun hs => by simp [toOrm, hstatus] at hs
            processed := fun hs => by simp [toOrm, hstatus] at hs }

@[simp] theorem frozen_settle (entry : OutboxEntryEntity) (now : Js.Date)
    (error : Option String) :
    (toOrm (settle entry now error)).frozen = (toOrm entry).frozen := by
  cases error <;> rfl

/-- A copy agrees with the calls made, and stems from a stored row. -/
structure CopyInv (table : OutboxTable) (calls : List IngestCall) (e : OutboxEntryEntity) :
    Prop where
  status : StatusInv calls (toOrm e)
  stored : ∃ row ∈ table.rows, row.frozen = (toOrm e).frozen

structure BatchInv (table : OutboxTable) (calls : List IngestCall) (b : Batch) : Prop where
  current : ∀ e ∈ b.current, CopyInv table calls e
  rest : ∀ e ∈ b.rest, CopyInv table calls e ∧ e.status = .pending

structure Inv (s : OutboxSystem) : Prop where
  rows : ∀ row ∈ s.table.rows, StatusInv s.calls row
  batches : ∀ b ∈ s.batches, BatchInv s.table s.calls b

/-- The invariant holds of an empty outbox. -/
theorem inv_init : Inv (init .empty) where
  rows row h := by simp [init] at h
  batches b h := by simp [init] at h

/-! ## Rows stay -/

/-- Every row is still there, with its frozen part. -/
def Keeps (table table' : OutboxTable) : Prop :=
  ∀ row ∈ table.rows, ∃ row' ∈ table'.rows, row'.frozen = row.frozen

theorem keeps_refl (table : OutboxTable) : Keeps table table := fun row h => ⟨row, h, rfl⟩

/-- What is kept twice is kept. -/
theorem keeps_trans {t t' t'' : OutboxTable} (h : Keeps t t') (h' : Keeps t' t'') :
    Keeps t t'' := by
  intro row hrow
  obtain ⟨row', hrow', hfrozen⟩ := h row hrow
  obtain ⟨row'', hrow'', hfrozen'⟩ := h' row' hrow'
  exact ⟨row'', hrow'', hfrozen'.trans hfrozen⟩

/-- An insert keeps every row. -/
theorem keeps_append {table table' : OutboxTable} {entry : OutboxEntryEntity}
    (h : append table entry = some table') : Keeps table table' := by
  obtain ⟨row, -, hrows, -⟩ := append_cases h
  intro r hr
  exact ⟨r, by simp [hrows, hr], rfl⟩

/-- Saving a copy of a stored row keeps every row's frozen part. -/
theorem keeps_save {table : OutboxTable} {entry : OutboxEntryEntity}
    (h : ∃ row ∈ table.rows, row.frozen = (toOrm entry).frozen) :
    Keeps table (save table entry) := by
  intro row hrow
  obtain ⟨row₀, hrow₀, hfrozen⟩ := h
  by_cases hid : row.id = (toOrm entry).id
  · have hsame : row = row₀ := table.eq_of_key_eq hrow hrow₀ (hid.trans (frozen_id hfrozen).symm)
    have hsaved : toOrm entry ∈ (save table entry).rows := (table.mem_put_iff _ _).mpr (.inl rfl)
    exact ⟨toOrm entry, hsaved, by rw [hsame, hfrozen]⟩
  · exact ⟨row, (table.mem_put_iff _ _).mpr (.inr ⟨hrow, hid⟩), rfl⟩

/-! ## Copies stay valid -/

variable {table table' : OutboxTable} {calls calls' : List IngestCall}

/-- A copy in memory outlives the steps of others: its row keeps what never
changes. -/
theorem CopyInv.kept {e : OutboxEntryEntity} (h : CopyInv table calls e)
    (hkeeps : Keeps table table') (hcalls : ∀ row, StatusInv calls row → StatusInv calls' row) :
    CopyInv table' calls' e where
  status := hcalls _ h.status
  stored := by
    obtain ⟨row, hrow, hfrozen⟩ := h.stored
    obtain ⟨row', hrow', hfrozen'⟩ := hkeeps row hrow
    exact ⟨row', hrow', hfrozen'.trans hfrozen⟩

/-- The copies of a batch outlive the steps of others. -/
theorem BatchInv.kept {b : Batch} (h : BatchInv table calls b)
    (hkeeps : Keeps table table') (hcalls : ∀ row, StatusInv calls row → StatusInv calls' row) :
    BatchInv table' calls' b where
  current e he := (h.current e he).kept hkeeps hcalls
  rest e he := ⟨(h.rest e he).1.kept hkeeps hcalls, (h.rest e he).2⟩

/-- A new batch holds copies of stored pending rows. -/
theorem batchInv_fetched {page : List OutboxEntryOrmEntity}
    (hrows : ∀ row ∈ table.rows, StatusInv calls row)
    (hpage : ∀ r ∈ page, r ∈ table.rows ∧ r.status = .pending) :
    BatchInv table calls ⟨none, page.map toDomain⟩ where
  current e he := by contradiction
  rest e he := by
    obtain ⟨row, hrow, rfl⟩ := List.mem_map.mp he
    obtain ⟨hmem, hp⟩ := hpage row hrow
    exact ⟨⟨hrows row hmem, row, hmem, rfl⟩, hp⟩

/-- The batch that sent its next entry. -/
theorem batchInv_sent {entry : OutboxEntryEntity} {rest : List OutboxEntryEntity}
    (h : BatchInv table calls ⟨none, entry :: rest⟩) (now : Js.Date) (command : IngestCommand)
    (error : Option String) :
    BatchInv table (calls ++ [⟨entry.outboxEntryId, command, error⟩])
      ⟨some (settle entry now error), rest⟩ where
  current e he := by
    obtain rfl := Option.mem_some_iff.mp he
    obtain ⟨hcopy, hp⟩ := h.rest entry List.mem_cons_self
    exact ⟨hcopy.status.settle hp now command error, by simpa using hcopy.stored⟩
  rest e he := by
    obtain ⟨hcopy, hp⟩ := h.rest e (List.mem_cons_of_mem _ he)
    exact ⟨hcopy.kept (keeps_refl table) fun row hrow => hrow.later _, hp⟩

/-- The batch that is done with its current entry. -/
theorem batchInv_done {entry : OutboxEntryEntity} {rest : List OutboxEntryEntity}
    (h : BatchInv table calls ⟨some entry, rest⟩) : BatchInv table calls ⟨none, rest⟩ where
  current e he := by contradiction
  rest := h.rest

/-! ## Runs -/

/-- No step takes a row away, or changes what is frozen of it. -/
theorem keeps_step {s s' : OutboxSystem} {a : Step} (inv : Inv s) (h : step s a = some s') :
    Keeps s.table s'.table := by
  cases transition_of_step h with
  | appended ht => exact keeps_append ht
  | saved hl =>
      have hbatch := inv.batches _ (hl ▸ List.mem_append_cons_self)
      exact keeps_save (hbatch.current _ rfl).stored
  | _ => exact keeps_refl _

/-- **One step**, in any order and with any outcome. -/
theorem inv_step (s : OutboxSystem) (a : Step) (s' : OutboxSystem) (inv : Inv s)
    (h : step s a = some s') : Inv s' := by
  have hkeeps : Keeps s.table s'.table := keeps_step inv h
  cases transition_of_step h with
  | appended ht =>
      obtain ⟨row, hstored, hrows, -⟩ := append_cases ht
      have hnew : StatusInv s.calls row := by
        have hpending : row.status = .pending := (storedAs_of_stored hstored).status
        have hzero : row.attempts = 0 := (storedAs_of_stored hstored).attempts
        constructor <;> simp [hpending, hzero]
      constructor
      · intro r hr
        rw [hrows, List.mem_append, List.mem_singleton] at hr
        rcases hr with hr | rfl
        · exact inv.rows r hr
        · exact hnew
      · exact fun b hb => (inv.batches b hb).kept hkeeps fun _ => id
  | refused => exact inv
  | fetched hp =>
      have hnew := batchInv_fetched inv.rows hp.pending
      exact ⟨inv.rows, forall_joined.mpr ⟨inv.batches, hnew⟩⟩
  | unfetched =>
      have hnone : ∀ r ∈ ([] : List OutboxEntryOrmEntity), r ∈ s.table.rows ∧ r.status = .pending :=
        fun r hr => absurd hr List.not_mem_nil
      have hnew := batchInv_fetched inv.rows hnone
      exact ⟨inv.rows, forall_joined.mpr ⟨inv.batches, hnew⟩⟩
  | @sent now error entry rest before after hl =>
      obtain ⟨hbatch, hothers⟩ := forall_slots.mp (hl ▸ inv.batches)
      have hsent := batchInv_sent hbatch now (ingestCommand entry) error
      exact ⟨fun row hrow => (inv.rows row hrow).later _, forall_slots.mpr
        ⟨hsent, fun b hb => (hothers b hb).kept hkeeps fun _ h => h.later _⟩⟩
  | @saved entry rest before after hl =>
      obtain ⟨hbatch, hothers⟩ := forall_slots.mp (hl ▸ inv.batches)
      have hdone := (batchInv_done hbatch).kept hkeeps fun _ => id
      have hrows : ∀ row ∈ (save s.table entry).rows, StatusInv s.calls row := by
        intro row hrow
        rcases (s.table.mem_put_iff _ _).mp hrow with rfl | ⟨hrow, -⟩
        · exact (hbatch.current entry rfl).status
        · exact inv.rows row hrow
      exact ⟨hrows, forall_slots.mpr
        ⟨hdone, fun b hb => (hothers b hb).kept hkeeps fun _ => id⟩⟩
  | @dropped entry rest before after hl =>
      obtain ⟨hbatch, hothers⟩ := forall_slots.mp (hl ▸ inv.batches)
      exact ⟨inv.rows, forall_slots.mpr ⟨batchInv_done hbatch, hothers⟩⟩

/-- **The invariant holds after every run**, whatever overlaps. -/
theorem inv_run {steps : List Step} {s : OutboxSystem} (h : run (init .empty) steps = some s) :
    Inv s := exec_keeps inv_step inv_init h

/-- No run takes a row away. -/
theorem keeps_run {steps : List Step} {s s' : OutboxSystem} (inv : Inv s)
    (h : run s steps = some s') : Keeps s.table s'.table :=
  @exec_rel _ _ step Inv (fun s s' => Keeps s.table s'.table) (fun s => keeps_refl s.table)
    (fun _ _ _ => keeps_trans) inv_step (fun _ _ _ => keeps_step) s s' steps inv h

/-- **The outbox row invariant**: in every state that appends and overlapping
batches can reach, the status of a row agrees with its attempts and with the
calls made for it; and no later step removes a row or changes its frozen
part. -/
theorem outbox_row_invariant {steps : List Step} {s : OutboxSystem}
    (h : run (init .empty) steps = some s) :
    (∀ row ∈ s.table.rows,
      (row.status = .pending → row.attempts ≤ 4) ∧
      (row.status = .failed → row.attempts = 5) ∧
      (row.status = .processed → row.attempts ≤ 4 ∧ 1 ≤ accepted s.calls row.id) ∧
      row.attempts ≤ failures s.calls row.id) ∧
    ∀ later s', run s later = some s' →
      ∀ row ∈ s.table.rows, ∃ row' ∈ s'.table.rows, row'.frozen = row.frozen := by
  have inv : Inv s := inv_run h
  constructor
  · intro row hrow
    have hstatus := inv.rows row hrow
    exact ⟨hstatus.pending, hstatus.failed, hstatus.processed, hstatus.attempts⟩
  · exact fun later s' h' => keeps_run inv h'

/-- An event of tenant `3`, as it enters the outbox. -/
def sampleParams : OutboxEntryParams where
  eventId := Pg.uuidOf 1
  eventType := TENANT_CREATED
  eventVersion := 1
  tenantId := Pg.uuidOf 3
  correlationId := Pg.uuidOf 4
  actorId := none
  causationId := none
  traceId := none
  sourceService := "atlas-saas-platform"
  sourceVersion := none
  payload := []
  occurredAt := 1716500000000

/-- The row `sampleParams` is stored as, under id `2`. -/
def sampleRow : OutboxEntryOrmEntity :=
  toOrm (.create (Pg.uuidOf 2) 1716500000100 sampleParams)

/-- An entry that fails once, is fetched again and is forwarded. -/
def retriedRun : List Step :=
  [.append (Pg.uuidOf 2) 1716500000100 sampleParams, .fetch (some [sampleRow]),
   .ingest 0 1716500005000 (some "fetch failed"), .save 0 true,
   .fetch (some [{ sampleRow with attempts := 1, lastError := some "fetch failed" }]),
   .ingest 1 1716500010000 none, .save 1 true]

theorem outbox_row_invariant_retried :
    ∃ s, run (init .empty) retriedRun = some s ∧
      ∀ row ∈ s.table.rows, row.attempts ≤ failures s.calls row.id := by
  obtain ⟨s, hs⟩ : ∃ s, run (init .empty) retriedRun = some s :=
    Option.isSome_iff_exists.mp (by decide +kernel)
  exact ⟨s, hs, fun row hrow => ((outbox_row_invariant hs).1 row hrow).2.2.2⟩

end Atlas.OutboxSystem
