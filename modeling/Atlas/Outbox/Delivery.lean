import Atlas.Outbox.Pipeline
import Atlas.Outbox.Settle

/-!
# Atlas.Outbox.Delivery

What becomes of a published event.

An entry is sent again when the copy that was sent is lost: its save is
rejected, or the process stops first.  As long as no batch fetches what another
one holds nothing else repeats a call, and `calls_accounted` gives the exact
numbers.  `published_events_settle` is the way of an event from end to end:
once it is stored, batches that do not overlap deliver it or give it up after
five failed calls, whatever happened before them.
-/

namespace Atlas.EventPipeline

open StoreKit OutboxEntryRepository OutboxSystem

variable {otherDates : String → Option Js.Date}

/-! ## Lost copies -/

/- A copy is lost when its save is rejected or its process stops after the call.  Then the
call shows in the calls made but not in the row, and the two functions below count these. -/

/-- The copies of an entry that were accepted and lost. -/
def lostAcks (lost : List OutboxEntryEntity) (id : String) : Nat :=
  lost.countP fun e => e.outboxEntryId = id ∧ e.status = .processed

/-- The copies of an entry whose call failed and that were lost. -/
def lostFailures (lost : List OutboxEntryEntity) (id : String) : Nat :=
  lost.countP fun e => e.outboxEntryId = id ∧ e.status ≠ .processed

/-- One more lost copy counts where it was accepted, for its own entry. -/
theorem lostAcks_append (lost : List OutboxEntryEntity) (e : OutboxEntryEntity) (id : String) :
    lostAcks (lost ++ [e]) id =
      lostAcks lost id + if e.outboxEntryId = id ∧ e.status = .processed then 1 else 0 := by
  simp [lostAcks, List.countP_append, List.countP_cons]

/-- One more lost copy counts where it failed, for its own entry. -/
theorem lostFailures_append (lost : List OutboxEntryEntity) (e : OutboxEntryEntity)
    (id : String) :
    lostFailures (lost ++ [e]) id =
      lostFailures lost id + if e.outboxEntryId = id ∧ e.status ≠ .processed then 1 else 0 := by
  simp [lostFailures, List.countP_append, List.countP_cons]

/-- Every call for a row shows in the row, or its copy was lost. -/
structure Balanced (calls : List IngestCall) (lost : List OutboxEntryEntity)
    (row : OutboxEntryOrmEntity) : Prop where
  acks : accepted calls row.id =
    lostAcks lost row.id + if row.status = .processed then 1 else 0
  failed : failures calls row.id = lostFailures lost row.id + row.attempts

variable {calls : List IngestCall} {lost : List OutboxEntryEntity} {row : OutboxEntryOrmEntity}

/-- A call for another entry changes nothing. -/
theorem Balanced.called (h : Balanced calls lost row) {c : IngestCall} (hc : c.entryId ≠ row.id) :
    Balanced (calls ++ [c]) lost row where
  acks := by
    rw [accepted_append, if_neg (fun hboth => hc hboth.1)]
    exact h.acks
  failed := by
    rw [failures_append, if_neg (fun hboth => hc hboth.1)]
    exact h.failed

/-- The loss of another entry's copy changes nothing. -/
theorem Balanced.dropped (h : Balanced calls lost row) {e : OutboxEntryEntity}
    (he : e.outboxEntryId ≠ row.id) : Balanced calls (lost ++ [e]) row where
  acks := by
    rw [lostAcks_append, if_neg (fun hboth => he hboth.1)]
    exact h.acks
  failed := by
    rw [lostFailures_append, if_neg (fun hboth => he hboth.1)]
    exact h.failed

/-- In what order copies were lost does not matter. -/
theorem Balanced.perm (h : Balanced calls lost row) {lost' : List OutboxEntryEntity}
    (hperm : lost.Perm lost') : Balanced calls lost' row where
  acks := by
    rw [lostAcks, ← hperm.countP_eq]
    exact h.acks
  failed := by
    rw [lostFailures, ← hperm.countP_eq]
    exact h.failed

/-- The call for a pending entry shows in the copy, and in the row once the
copy is lost. -/
theorem Balanced.sent {entry : OutboxEntryEntity} (h : Balanced calls lost (toOrm entry))
    (hp : entry.status = .pending) (now : Js.Date) (command : IngestCommand)
    (error : Option String) :
    Balanced (calls ++ [⟨entry.outboxEntryId, command, error⟩]) lost
        (toOrm (settle entry now error)) ∧
      Balanced (calls ++ [⟨entry.outboxEntryId, command, error⟩])
        (lost ++ [settle entry now error]) (toOrm entry) := by
  have haccepted : accepted calls entry.outboxEntryId = lostAcks lost entry.outboxEntryId := by
    have hbalance := h.acks
    simpa [toOrm, hp] using hbalance
  have hfailures : failures calls entry.outboxEntryId =
      lostFailures lost entry.outboxEntryId + entry.attempts := h.failed
  have hpending : (toOrm entry).status ≠ .processed := by simp [toOrm, hp]
  cases error with
  | none =>
      have hdone : (settle entry now none).status = .processed := rfl
      refine ⟨⟨?_, ?_⟩, ⟨?_, ?_⟩⟩
      · rw [accepted_append]
        simp [hdone, haccepted, toOrm]
      · rw [failures_append]
        have hattempts : (toOrm (settle entry now none)).attempts = entry.attempts := rfl
        simpa [hattempts] using hfailures
      · rw [accepted_append, lostAcks_append, if_neg hpending]
        simp [hdone, haccepted]
      · rw [failures_append, lostFailures_append]
        have hattempts : (toOrm entry).attempts = entry.attempts := rfl
        simpa [hdone, hattempts] using hfailures
  | some message =>
      have hopen : (settle entry now (some message)).status ≠ .processed := by
        simp only [Atlas.settle, OutboxEntryEntity.recordAttemptFailure]
        split
        · simp
        · simp [hp]
      have hopen' : (toOrm (settle entry now (some message))).status ≠ .processed := hopen
      refine ⟨⟨?_, ?_⟩, ⟨?_, ?_⟩⟩
      · rw [accepted_append, if_neg hopen']
        simpa using haccepted
      · rw [failures_append]
        have hattempts : (toOrm (settle entry now (some message))).attempts =
            entry.attempts + 1 := rfl
        simp [hattempts, hfailures]
        omega
      · rw [accepted_append, lostAcks_append, if_neg hpending]
        simpa [hopen] using haccepted
      · rw [failures_append, lostFailures_append]
        have hattempts : (toOrm entry).attempts = entry.attempts := rfl
        simp [hopen, hattempts, hfailures]
        omega

/-! ## The accounts of a run -/

/- The calls for a row are balanced against its attempts and the copies that were lost.  A
row that a batch is at balances once the copy of the batch is counted as lost, and the
copy balances by itself: its save or its loss settles which of the two remains. -/

/-- No batch fetches what another one holds. -/
def Exclusive (s : EventPipeline) : Step → Prop
  | .process a => ExclusiveFetch s.outbox a
  | _ => True

instance (s : EventPipeline) : (a : Step) → Decidable (Exclusive s a)
  | .process a => inferInstanceAs (Decidable (ExclusiveFetch s.outbox a))
  | .publish _ => .isTrue trivial
  | .write _ => .isTrue trivial
  | .stopCall _ => .isTrue trivial
  | .stopBatch _ => .isTrue trivial

/-- The accounts of every row that no batch is at, and of every copy that a
batch is at, whether it will be saved or lost. -/
structure Accounted (outbox : OutboxSystem) (lost : List OutboxEntryEntity) : Prop where
  exclusive : ExclusiveInv outbox
  rows : ∀ row ∈ outbox.table.rows,
    (∀ b ∈ outbox.batches, ∀ e ∈ b.current, e.outboxEntryId ≠ row.id) →
      Balanced outbox.calls lost row
  current : ∀ b ∈ outbox.batches, ∀ e ∈ b.current, Balanced outbox.calls lost (toOrm e) ∧
    ∀ row ∈ outbox.table.rows, row.id = e.outboxEntryId →
      Balanced outbox.calls (lost ++ [e]) row
  called : ∀ c ∈ outbox.calls, c.entryId ∈ outbox.table.rows.map OutboxEntryOrmEntity.id
  dropped : ∀ e ∈ lost, e.outboxEntryId ∈ outbox.table.rows.map OutboxEntryOrmEntity.id

/-- In the beginning there is nothing to account for. -/
theorem accounted_init : Accounted (.init .empty) [] where
  exclusive := exclusiveInv_init .empty
  rows row hrow := by simp [OutboxSystem.init] at hrow
  current b hb := by simp [OutboxSystem.init] at hb
  called c hc := by simp [OutboxSystem.init] at hc
  dropped e he := by contradiction

/-- Nothing was ever called or lost for an id that no row has. -/
theorem Accounted.balanced_new {s : OutboxSystem} (acc : Accounted s lost)
    {row : OutboxEntryOrmEntity} (hid : row.id ∉ s.table.rows.map OutboxEntryOrmEntity.id)
    (hattempts : row.attempts = 0) (hstatus : row.status = .pending) :
    Balanced s.calls lost row := by
  obtain ⟨hacc, hfail⟩ : accepted s.calls row.id = 0 ∧ failures s.calls row.id = 0 :=
    no_calls fun c hc heq => hid (heq ▸ acc.called c hc)
  have hne : ∀ e ∈ lost, e.outboxEntryId ≠ row.id := fun e he heq =>
    hid (heq ▸ acc.dropped e he)
  have hacks : lostAcks lost row.id = 0 := by
    simp only [lostAcks, List.countP_eq_zero]
    exact fun e he => by simp [hne e he]
  have hfailures : lostFailures lost row.id = 0 := by
    simp only [lostFailures, List.countP_eq_zero]
    exact fun e he => by simp [hne e he]
  constructor
  · simp [hacc, hacks, hstatus]
  · rw [hfail, hfailures, hattempts]

/-- A new entry has no calls. -/
theorem accounted_written {s : OutboxSystem} {publication : Publication} (acc : Accounted s lost) :
    Accounted (written otherDates s publication) lost := by
  rcases @written_cases otherDates s publication with
    hsame | ⟨row, -, hrows, hattempts, hstatus, hid, generateId, now, params, hstep⟩
  · rw [hsame]
    exact acc
  · have hkeys : ∀ id ∈ s.table.rows.map OutboxEntryOrmEntity.id,
        id ∈ (written otherDates s publication).table.rows.map OutboxEntryOrmEntity.id := by
      intro id hmem
      rw [hrows, List.map_append]
      exact List.mem_append_left _ hmem
    constructor
    · have hok : ExclusiveFetch s (.append generateId now params) := trivial
      exact exclusiveInv_step _ _ _ acc.exclusive hok hstep
    · intro r hr hfree
      rw [hrows, List.mem_append, List.mem_singleton] at hr
      rcases hr with hr | rfl
      · exact acc.rows r hr hfree
      · exact acc.balanced_new hid hattempts hstatus
    · intro b hb e he
      refine ⟨(acc.current b hb e he).1, fun r hr hsame => ?_⟩
      rw [hrows, List.mem_append, List.mem_singleton] at hr
      rcases hr with hr | rfl
      · exact (acc.current b hb e he).2 r hr hsame
      · obtain ⟨held, hheld, hid', -⟩ := (acc.exclusive.held b hb).current e he
        rw [hsame, ← hid'] at hid
        exact absurd (List.mem_map_of_mem hheld) hid
    · exact fun c hc => hkeys _ (acc.called c hc)
    · exact fun e he => hkeys _ (acc.dropped e he)

/-- A new batch is at nothing yet. -/
theorem accounted_fetched {s : OutboxSystem} {rest : List OutboxEntryEntity}
    (acc : Accounted s lost)
    (hexclusive : ExclusiveInv { s with batches := s.batches ++ [⟨none, rest⟩] }) :
    Accounted { s with batches := s.batches ++ [⟨none, rest⟩] } lost where
  exclusive := hexclusive
  rows row hrow hfree := acc.rows row hrow fun b hb => hfree b (List.mem_append_left _ hb)
  current := forall_joined.mpr ⟨acc.current, fun e he => by contradiction⟩
  called := acc.called
  dropped := acc.dropped

section Slot

variable {s : OutboxSystem} {entry : OutboxEntryEntity} {rest rest' : List OutboxEntryEntity}
  {before after : List Batch}

/-- A call is in the copy until it is saved or lost. -/
theorem accounted_sent {now : Js.Date} {error : Option String} (acc : Accounted s lost)
    (hl : s.batches = before ++ ⟨none, entry :: rest⟩ :: after)
    (hexclusive : ExclusiveInv { s with
      batches := before ++ ⟨some (settle entry now error), rest⟩ :: after
      calls := s.calls ++ [⟨entry.outboxEntryId, ingestCommand entry, error⟩] }) :
    Accounted { s with
      batches := before ++ ⟨some (settle entry now error), rest⟩ :: after
      calls := s.calls ++ [⟨entry.outboxEntryId, ingestCommand entry, error⟩] } lost := by
  obtain ⟨hbatch, -⟩ := forall_slots.mp (hl ▸ acc.exclusive.held)
  obtain ⟨hrow, hp⟩ := hbatch.rest entry List.mem_cons_self
  obtain ⟨-, hother⟩ := ids_ne acc.exclusive hl rfl
  have hne : ∀ b ∈ before ++ after, ∀ e ∈ b.current, e.outboxEntryId ≠ entry.outboxEntryId :=
    fun b hb e he => hother b hb e (by simp [Batch.unsaved, Option.mem_def.mp he])
  have hfree : ∀ b ∈ s.batches, ∀ e ∈ b.current, e.outboxEntryId ≠ entry.outboxEntryId := by
    rw [hl]
    exact forall_slots.mpr ⟨fun e he => by contradiction, hne⟩
  obtain ⟨hsettled, hopen⟩ := (acc.rows _ hrow hfree).sent hp now (ingestCommand entry) error
  obtain ⟨-, hcurrents⟩ := forall_slots.mp (hl ▸ acc.current)
  constructor
  · exact hexclusive
  · intro row hmem hfree'
    obtain ⟨hself, hothers⟩ := forall_slots.mp hfree'
    have hid : entry.outboxEntryId ≠ row.id := by
      simpa using hself _ rfl
    apply Balanced.called _ hid
    apply acc.rows row hmem
    rw [hl]
    exact forall_slots.mpr ⟨fun e he => by contradiction, hothers⟩
  · refine forall_slots.mpr ⟨fun e he => ?_, fun b hb e he => ?_⟩
    · obtain rfl := Option.mem_some_iff.mp he
      refine ⟨hsettled, fun row hmem hid => ?_⟩
      rw [settle_outboxEntryId] at hid
      obtain rfl : row = toOrm entry := s.table.eq_of_key_eq hmem hrow hid
      exact hopen
    · obtain ⟨hcopy, hrows⟩ := hcurrents b hb e he
      have hid := Ne.symm (hne b hb e he)
      exact ⟨hcopy.called hid, fun row hmem hsame =>
        (hrows row hmem hsame).called (hsame ▸ hid)⟩
  · refine forall_joined.mpr ⟨acc.called, ?_⟩
    exact List.mem_map_of_mem (f := OutboxEntryOrmEntity.id) hrow
  · exact acc.dropped

/-- A save moves the call from the copy to the row. -/
theorem accounted_saved (acc : Accounted s lost)
    (hl : s.batches = before ++ ⟨some entry, rest⟩ :: after)
    (hexclusive : ExclusiveInv { s with
      table := save s.table entry, batches := before ++ ⟨none, rest⟩ :: after }) :
    Accounted { s with
      table := save s.table entry, batches := before ++ ⟨none, rest⟩ :: after } lost := by
  obtain ⟨hcurrent, hcurrents⟩ := forall_slots.mp (hl ▸ acc.current)
  obtain ⟨-, hother⟩ := ids_ne acc.exclusive hl rfl
  have hkeys : ∀ id ∈ s.table.rows.map OutboxEntryOrmEntity.id,
      id ∈ (save s.table entry).rows.map OutboxEntryOrmEntity.id :=
    fun id hmem => (s.table.mem_keys_put _ _).mpr (.inr hmem)
  constructor
  · exact hexclusive
  · intro row hmem hfree
    obtain ⟨-, hothers⟩ := forall_slots.mp hfree
    rcases (s.table.mem_put_iff _ _).mp hmem with rfl | ⟨hrow, hid⟩
    · exact (hcurrent entry rfl).1
    · apply acc.rows row hrow
      rw [hl]
      exact forall_slots.mpr ⟨fun e he => Option.mem_some_iff.mp he ▸ Ne.symm hid, hothers⟩
  · refine forall_slots.mpr ⟨fun e he => by contradiction, fun b hb e he => ?_⟩
    obtain ⟨hcopy, hrows⟩ := hcurrents b hb e he
    refine ⟨hcopy, fun row hmem hid => ?_⟩
    rcases (s.table.mem_put_iff _ _).mp hmem with rfl | ⟨hrow, -⟩
    · exact absurd hid.symm (hother b hb e (by simp [Batch.unsaved, Option.mem_def.mp he]))
    · exact hrows row hrow hid
  · exact fun c hc => hkeys _ (acc.called c hc)
  · exact fun e he => hkeys _ (acc.dropped e he)

/-- A copy is lost: its save is rejected, or its batch stops. -/
theorem accounted_lost (acc : Accounted s lost)
    (hl : s.batches = before ++ ⟨some entry, rest⟩ :: after)
    (hexclusive : ExclusiveInv { s with batches := before ++ ⟨none, rest'⟩ :: after }) :
    Accounted { s with batches := before ++ ⟨none, rest'⟩ :: after } (lost ++ [entry]) := by
  obtain ⟨hcurrent, hcurrents⟩ := forall_slots.mp (hl ▸ acc.current)
  obtain ⟨hbatch, -⟩ := forall_slots.mp (hl ▸ acc.exclusive.held)
  obtain ⟨-, hother⟩ := ids_ne acc.exclusive hl rfl
  constructor
  · exact hexclusive
  · intro row hmem hfree
    obtain ⟨-, hothers⟩ := forall_slots.mp hfree
    by_cases hid : entry.outboxEntryId = row.id
    · exact (hcurrent entry rfl).2 row hmem hid.symm
    · apply Balanced.dropped _ hid
      apply acc.rows row hmem
      rw [hl]
      exact forall_slots.mpr ⟨fun e he => Option.mem_some_iff.mp he ▸ hid, hothers⟩
  · refine forall_slots.mpr ⟨fun e he => by contradiction, fun b hb e he => ?_⟩
    have hid : entry.outboxEntryId ≠ e.outboxEntryId :=
      Ne.symm (hother b hb e (by simp [Batch.unsaved, Option.mem_def.mp he]))
    obtain ⟨hcopy, hrows⟩ := hcurrents b hb e he
    refine ⟨hcopy.dropped hid, fun row hmem hsame => ?_⟩
    have hboth : Balanced s.calls ((lost ++ [e]) ++ [entry]) row :=
      (hrows row hmem hsame).dropped (hsame ▸ hid)
    apply hboth.perm
    rw [List.append_assoc, List.append_assoc]
    exact (List.Perm.swap entry e []).append_left lost
  · exact acc.called
  · refine forall_joined.mpr ⟨acc.dropped, ?_⟩
    obtain ⟨row, hrow, hid, -⟩ := hbatch.current entry rfl
    exact hid ▸ List.mem_map_of_mem hrow

end Slot

/-- Batches stay exclusive when one of them stops. -/
theorem exclusiveInv_stopped {s : OutboxSystem} {b : Batch} {before after : List Batch}
    (inv : ExclusiveInv s) (hl : s.batches = before ++ b :: after) :
    ExclusiveInv { s with batches := before ++ ⟨none, []⟩ :: after } where
  distinct := by
    apply held_nodup_of_sublist (hl ▸ inv.distinct)
    simp [Batch.unsavedIds, Batch.unsaved]
  held := by
    obtain ⟨-, hothers⟩ := forall_slots.mp (hl ▸ inv.held)
    exact forall_slots.mpr ⟨⟨fun e he => by contradiction, fun e he => by contradiction⟩, hothers⟩

/-- A step of the processor keeps the accounts. -/
theorem accounted_process {s s' : OutboxSystem} {a : OutboxSystem.Step} (acc : Accounted s lost)
    (hnew : ∀ generateId now params, a ≠ .append generateId now params)
    (hok : ExclusiveFetch s a) (h : OutboxSystem.step s a = some s') :
    Accounted s' (lost ++ EventPipeline.dropped s a) := by
  have hexclusive : ExclusiveInv s' := exclusiveInv_step s a s' acc.exclusive hok h
  have hnone : ∀ {t : OutboxSystem}, Accounted t lost → Accounted t (lost ++ []) := by
    intro t ht
    rwa [List.append_nil]
  cases OutboxSystem.transition_of_step h with
  | appended ht => exact absurd rfl (hnew _ _ _)
  | refused => exact absurd rfl (hnew _ _ _)
  | fetched hp => exact hnone (accounted_fetched acc hexclusive)
  | unfetched => exact hnone (accounted_fetched acc hexclusive)
  | sent hl => exact hnone (accounted_sent acc hl hexclusive)
  | saved hl => exact hnone (accounted_saved acc hl hexclusive)
  | @dropped entry rest before after hl =>
      have hdropped : EventPipeline.dropped s (.save before.length false) = [entry] := by
        simp [EventPipeline.dropped, hl]
      rw [hdropped]
      exact accounted_lost acc hl hexclusive

/-- **A step keeps the accounts**, a loss included. -/
theorem accounted_step (s : EventPipeline) (a : Step) (s' : EventPipeline)
    (acc : Accounted s.outbox s.lost) (hok : Exclusive s a)
    (h : step otherDates s a = some s') : Accounted s'.outbox s'.lost := by
  cases transition_of_step h with
  | accepted hcall => exact acc
  | rejected => exact acc
  | wrote hl => exact accounted_written acc
  | processed hnew hstep => exact accounted_process acc hnew hok hstep
  | callStopped hl => exact acc
  | @batchStopped b before after hl =>
      have hexclusive := exclusiveInv_stopped acc.exclusive hl
      obtain ⟨current, rest⟩ := b
      cases current with
      | some entry => exact accounted_lost acc hl hexclusive
      | none =>
          obtain ⟨-, hcurrents⟩ := forall_slots.mp (hl ▸ acc.current)
          rw [Option.toList_none, List.append_nil]
          constructor
          · exact hexclusive
          · intro row hrow hfree
            apply acc.rows row hrow
            rw [hl]
            exact forall_slots.mpr
              ⟨fun e he => by contradiction, (forall_slots.mp hfree).2⟩
          · exact forall_slots.mpr ⟨fun e he => by contradiction, hcurrents⟩
          · exact acc.called
          · exact acc.dropped

/-- **Every call is accounted for**: in every run in which no batch fetches what
another one holds, with rejected saves and processes that stop anywhere, and for
every entry that no batch is between the call and the save of.  The accepted calls
for it are the copies lost after they were accepted, and one more if the entry is
processed; the failed calls are the copies lost after they failed, and the
attempts. -/
theorem calls_accounted {steps : List Step} {s : EventPipeline}
    (hok : Along (step otherDates) Exclusive init steps) (h : run otherDates init steps = some s) :
    ∀ row ∈ s.outbox.table.rows,
      (∀ b ∈ s.outbox.batches, ∀ e ∈ b.current, e.outboxEntryId ≠ row.id) →
        accepted s.outbox.calls row.id =
            lostAcks s.lost row.id + (if row.status = .processed then 1 else 0) ∧
          failures s.outbox.calls row.id = lostFailures s.lost row.id + row.attempts := by
  have acc : Accounted s.outbox s.lost :=
    @exec_invariant _ _ (step otherDates) Exclusive (fun s => Accounted s.outbox s.lost)
      accounted_step init s steps accounted_init hok h
  intro row hrow hfree
  have hbalance := acc.rows row hrow hfree
  exact ⟨hbalance.acks, hbalance.failed⟩

/-- The first copy is lost after it was accepted, the second one is saved. -/
theorem calls_accounted_stopped :
    ∃ s, run (fun _ => none) init stoppedRun = some s ∧ ∀ row ∈ s.outbox.table.rows,
      (∀ b ∈ s.outbox.batches, ∀ e ∈ b.current, e.outboxEntryId ≠ row.id) →
        accepted s.outbox.calls row.id =
            lostAcks s.lost row.id + (if row.status = .processed then 1 else 0) ∧
          failures s.outbox.calls row.id = lostFailures s.lost row.id + row.attempts := by
  obtain ⟨s, hs⟩ : ∃ s, run (fun _ => none) init stoppedRun = some s :=
    Option.isSome_iff_exists.mp (by decide +kernel)
  exact ⟨s, hs, calls_accounted (by decide +kernel) hs⟩

/-! ## From end to end -/

/- An event that was accepted and stored is a row, and by `outbox_drains` the rows are
settled after enough batches.  What a settled row says of its calls is in the accounts. -/

/-- The server executes the insert and takes the row, under an id of its own. -/
structure Stores (otherDates : String → Option Js.Date) (table : OutboxTable)
    (publication : Publication) : Prop where
  executed : publication.attempt.executed = true
  id : Pg.uuid publication.attempt.generateId = some publication.attempt.generateId
  row : (publication.row? otherDates).isSome
  free : publication.attempt.generateId ∉ table.rows.map OutboxEntryOrmEntity.id

instance (otherDates : String → Option Js.Date) (table : OutboxTable) (publication : Publication) :
    Decidable (Stores otherDates table publication) :=
  decidable_of_iff
    (publication.attempt.executed = true ∧
      Pg.uuid publication.attempt.generateId = some publication.attempt.generateId ∧
      (publication.row? otherDates).isSome ∧
      publication.attempt.generateId ∉ table.rows.map OutboxEntryOrmEntity.id)
    ⟨fun ⟨h₁, h₂, h₃, h₄⟩ => ⟨h₁, h₂, h₃, h₄⟩, fun h => ⟨h.executed, h.id, h.row, h.free⟩⟩

/-- Every event that is written is stored, and no call stops before it has
written its events. -/
def StoresEvents (otherDates : String → Option Js.Date) (s : EventPipeline) : Step → Prop
  | .write i => ∀ w ∈ s.writers[i]?, ∀ p ∈ w.head?, Stores otherDates s.outbox.table p
  | .stopCall i => s.writers[i]? = some []
  | _ => True

instance (otherDates : String → Option Js.Date) (s : EventPipeline) :
    (a : Step) → Decidable (StoresEvents otherDates s a)
  | .write i =>
      inferInstanceAs (Decidable (∀ w ∈ s.writers[i]?, ∀ p ∈ w.head?,
        Stores otherDates s.outbox.table p))
  | .stopCall i => inferInstanceAs (Decidable (s.writers[i]? = some []))
  | .publish _ => .isTrue trivial
  | .process _ => .isTrue trivial
  | .stopBatch _ => .isTrue trivial

/-- A published event is still to be written, or has its row. -/
def Remembered (otherDates : String → Option Js.Date) (s : EventPipeline) : Prop :=
  ∀ event ∈ s.published, (∃ w ∈ s.writers, ∃ p ∈ w, p.event = event) ∨
    ∃ row ∈ s.outbox.table.rows, StoredFor otherDates event row

/-- Rows that are kept still hold their events. -/
theorem storedFor_kept {table table' : OutboxTable} (hkeeps : Keeps table table')
    {event : TenantAwareEvent} (h : ∃ row ∈ table.rows, StoredFor otherDates event row) :
    ∃ row ∈ table'.rows, StoredFor otherDates event row := by
  obtain ⟨row, hrow, hstored⟩ := h
  obtain ⟨row', hrow', hfrozen⟩ := hkeeps row hrow
  exact ⟨row', hrow', hstored.kept hfrozen⟩

/-- Every published event has its row, or a writer that is about to write it. -/
theorem remembered_step (s : EventPipeline) (a : Step) (s' : EventPipeline)
    (inv : Authentic otherDates s ∧ Remembered otherDates s)
    (hok : StoresEvents otherDates s a) (h : step otherDates s a = some s') :
    Authentic otherDates s' ∧ Remembered otherDates s' := by
  refine ⟨authentic_step s a s' inv.1 h, ?_⟩
  obtain ⟨inv, hkept⟩ := inv
  cases transition_of_step h with
  | @accepted call hcall =>
      intro event hevent
      rcases List.mem_append.mp hevent with hevent | hevent
      · apply (hkept event hevent).imp_left
        rintro ⟨w, hw, p, hp, heq⟩
        exact ⟨w, List.mem_append_left _ hw, p, hp, heq⟩
      · obtain ⟨p, hp, heq⟩ := List.mem_map.mp hevent
        exact .inl ⟨call.publications, List.mem_append_right _ List.mem_cons_self, p, hp, heq⟩
  | rejected => exact hkept
  | @wrote publication rest before after hl =>
      have hslot : s.writers[before.length]? = some (publication :: rest) := by simp [hl]
      have hstores : Stores otherDates s.outbox.table publication := hok _ hslot _ rfl
      have hrows :=
        @rows_entryWritten otherDates _ _ hstores.executed hstores.id hstores.free
      obtain ⟨row, hrow⟩ := Option.isSome_iff_exists.mp hstores.row
      rw [hrow] at hrows
      intro event hevent
      rcases hkept event hevent with ⟨w, hw, p, hp, heq⟩ | ⟨r, hr, hstored⟩
      · rw [hl, List.mem_append, List.mem_cons] at hw
        rcases hw with hw | rfl | hw
        · exact .inl ⟨w, List.mem_append_left _ hw, p, hp, heq⟩
        · rcases List.mem_cons.mp hp with rfl | hp
          · right
            refine ⟨row, ?_, p.attempt.generateId, p.attempt.now, row, heq ▸ hrow, rfl⟩
            rw [hrows]
            exact List.mem_append_right _ List.mem_cons_self
          · exact .inl ⟨rest, List.mem_append_cons_self, p, hp, heq⟩
        · exact .inl ⟨w, List.mem_append_right _ (List.mem_cons_of_mem _ hw), p, hp, heq⟩
      · refine .inr ⟨r, ?_, hstored⟩
        rw [hrows]
        exact List.mem_append_left _ hr
  | processed hnew hstep =>
      exact fun event hevent =>
        (hkept event hevent).imp_right (storedFor_kept (keeps_step inv.outbox hstep))
  | @callStopped w before after hl =>
      have hslot : s.writers[before.length]? = some w := by simp [hl]
      obtain rfl : w = [] := Option.some.inj (hslot.symm.trans hok)
      rw [Remembered, hl] at hkept
      exact hkept
  | batchStopped hl => exact hkept

/-- What the calls of a processor say holds at the end of its runs. -/
theorem calls_of_run {s s' : OutboxSystem} {steps : List OutboxSystem.Step} (inv : Inv s)
    (hcalls : ∀ c ∈ s.calls, ∃ row ∈ s.table.rows, row.id = c.entryId ∧
      c.command = ingestCommand (toDomain row))
    (h : OutboxSystem.run s steps = some s') :
    Inv s' ∧ ∀ c ∈ s'.calls, ∃ row ∈ s'.table.rows, row.id = c.entryId ∧
      c.command = ingestCommand (toDomain row) :=
  @exec_keeps _ _ OutboxSystem.step
    (fun t => Inv t ∧ ∀ c ∈ t.calls, ∃ row ∈ t.table.rows, row.id = c.entryId ∧
      c.command = ingestCommand (toDomain row))
    (fun t a t' ht hstep => ⟨inv_step t a t' ht.1 hstep, calls_of_step ht.1 hstep ht.2⟩)
    s s' steps ⟨inv, hcalls⟩ h

/-- What is stored when the batches begin is delivered by them, or given up. -/
theorem settles {s s' : OutboxSystem} {later : List OutboxSystem.Step} (inv : Inv s)
    (hcalls : ∀ c ∈ s.calls, ∃ row ∈ s.table.rows, row.id = c.entryId ∧
      c.command = ingestCommand (toDomain row)) (hidle : s.unsaved = [])
    (hok : Along OutboxSystem.step (fun s a => NonOverlapping s a ∧ Undisturbed a) s later)
    (h : OutboxSystem.run s later = some s') (hdone : s'.unsaved = [])
    (hruns : attemptsLeft s.table / BATCH_SIZE + MAX_ATTEMPTS ≤ started later)
    {event : TenantAwareEvent} (hrow : ∃ row ∈ s.table.rows, StoredFor otherDates event row) :
    ∃ row ∈ s'.table.rows, StoredFor otherDates event row ∧
      (∀ c ∈ s'.calls, c.entryId = row.id → Conveys event c.command) ∧
      (row.status = .processed ∧ 1 ≤ accepted s'.calls row.id ∨
        row.status = .failed ∧ MAX_ATTEMPTS ≤ failures s'.calls row.id) := by
  obtain ⟨inv', hcalls'⟩ := calls_of_run inv hcalls h
  have hfew : ∀ row ∈ s.table.rows, row.status = .pending → row.attempts < MAX_ATTEMPTS :=
    fun row hrow hpending => Nat.lt_succ_of_le ((inv.rows row hrow).pending hpending)
  have hsettled := settled_of_run hidle hfew hok h hdone hruns
  obtain ⟨row, hrow, hstored⟩ := storedFor_kept (keeps_run inv h) hrow
  refine ⟨row, hrow, hstored, ?_, ?_⟩
  · intro c hc hid
    obtain ⟨row', hrow', hid', hcommand⟩ := hcalls' c hc
    obtain rfl : row' = row := s'.table.eq_of_key_eq hrow' hrow (hid'.trans hid)
    exact hcommand ▸ conveys_of_storedFor hstored
  · have hstatus := inv'.rows row hrow
    cases hs : row.status with
    | pending => exact absurd hs (hsettled row hrow)
    | processed => exact .inl ⟨rfl, (hstatus.processed hs).2⟩
    | failed =>
        have hattempts := hstatus.attempts
        rw [hstatus.failed hs] at hattempts
        exact .inr ⟨rfl, hattempts⟩

/-- **Published events settle**: after any run that stores what it publishes,
whatever overlapped, was lost or stopped in it, and that has left nothing to write
and no batch under way.  Batches that follow one another, while nothing is
inserted and every fetch and every save succeeds (`Undisturbed`), deliver every
event or give it up after five failed calls: one for every 50 attempts left and
five more are enough.  Every call made for the event's entry carries the event. -/
theorem published_events_settle {steps : List Step} {later : List OutboxSystem.Step}
    {s : EventPipeline} {s' : OutboxSystem}
    (hstores : Along (step otherDates) (StoresEvents otherDates) init steps)
    (h : run otherDates init steps = some s) (hwritten : ∀ w ∈ s.writers, w = [])
    (hidle : s.outbox.unsaved = [])
    (hok : Along OutboxSystem.step (fun s a => NonOverlapping s a ∧ Undisturbed a) s.outbox later)
    (h' : OutboxSystem.run s.outbox later = some s') (hdone : s'.unsaved = [])
    (hruns : attemptsLeft s.outbox.table / BATCH_SIZE + MAX_ATTEMPTS ≤ started later) :
    ∀ event ∈ s.published, ∃ row ∈ s'.table.rows, StoredFor otherDates event row ∧
      (∀ c ∈ s'.calls, c.entryId = row.id → Conveys event c.command) ∧
      (row.status = .processed ∧ 1 ≤ accepted s'.calls row.id ∨
        row.status = .failed ∧ MAX_ATTEMPTS ≤ failures s'.calls row.id) := by
  obtain ⟨inv, hkept⟩ : Authentic otherDates s ∧ Remembered otherDates s :=
    exec_invariant remembered_step
      ⟨authentic_init, fun event hevent => by contradiction⟩ hstores h
  intro event hevent
  apply settles inv.outbox inv.calls hidle hok h' hdone hruns
  rcases hkept event hevent with ⟨w, hw, p, hp, -⟩ | hrow
  · rw [hwritten w hw] at hp
    contradiction
  · exact hrow

/-- The batch that accepted the event stops before its save. -/
def interruptedRun : List Step :=
  [.publish (.publish (.ok ()) (samplePublication 1 7)), .write 0,
   .process (.fetch (some sampleEntry)), .process (.ingest 0 1716500005000 none), .stopBatch 0]

/-- Five more batches, the first of which sends it again. -/
def recoveringRun : List OutboxSystem.Step :=
  [.fetch (some sampleEntry), .ingest 1 1716500010000 none, .save 1 true, .fetch (some []),
   .fetch (some []), .fetch (some []), .fetch (some [])]

/-- A process stops between the call and the save, and the next batches deliver
the event. -/
theorem published_events_settle_recovering :
    ∃ s s', run (fun _ => none) init interruptedRun = some s ∧
      OutboxSystem.run s.outbox recoveringRun = some s' ∧
      ∀ event ∈ s.published, ∃ row ∈ s'.table.rows, StoredFor (fun _ => none) event row ∧
        (∀ c ∈ s'.calls, c.entryId = row.id → Conveys event c.command) ∧
        (row.status = .processed ∧ 1 ≤ accepted s'.calls row.id ∨
          row.status = .failed ∧ MAX_ATTEMPTS ≤ failures s'.calls row.id) := by
  obtain ⟨s, hs⟩ : ∃ s, run (fun _ => none) init interruptedRun = some s :=
    Option.isSome_iff_exists.mp (by decide +kernel)
  have hsame : s = (run (fun _ => none) init interruptedRun).getD init := by rw [hs]; rfl
  obtain ⟨s', hs'⟩ : ∃ s', OutboxSystem.run s.outbox recoveringRun = some s' := by
    rw [hsame]
    exact Option.isSome_iff_exists.mp (by decide +kernel)
  have hsame' : s' = (OutboxSystem.run s.outbox recoveringRun).getD s.outbox := by rw [hs']; rfl
  refine ⟨s, s', hs, hs', published_events_settle (by decide +kernel) hs ?_ ?_ ?_ hs' ?_ ?_⟩
  · rw [hsame]
    decide +kernel
  · rw [hsame]
    decide +kernel
  · rw [hsame]
    decide +kernel
  · rw [hsame', hsame]
    decide +kernel
  · rw [hsame]
    decide +kernel

end Atlas.EventPipeline
