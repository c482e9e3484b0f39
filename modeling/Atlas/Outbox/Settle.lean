import Atlas.Outbox.Drain

/-!
# Atlas.Outbox.Settle

How many batches settle whatever is pending, with nothing assumed of the dates.

Rows created at one instant come in any order, so a row may be passed over
again and again in favour of others of its date.  What bounds the batches then
is the work: `attemptsLeft` goes down with every copy that is saved.  A batch
with a full page takes 50 of it, and a batch whose page is not full has every
pending row on it.
-/

namespace Atlas.OutboxSystem

open StoreKit OutboxEntryRepository

/-- The calls a row may still take. -/
def attemptsLeftFor (row : OutboxEntryOrmEntity) : Nat :=
  if row.status = .pending then MAX_ATTEMPTS - row.attempts else 0

/-- The calls the rows of a table may still take. -/
def attemptsLeft (table : OutboxTable) : Nat := table.total attemptsLeftFor

/-- A pending row has been called for in each of the batches whose page was not
full. -/
def Tried (s : OutboxSystem) (short : Nat) (row : OutboxEntryOrmEntity) : Prop :=
  short ≤ row.attempts ∨
    short ≤ row.attempts + 1 ∧ row.id ∈ s.unsaved.map OutboxEntryEntity.outboxEntryId

/-- What a run that began with `work` attempts left and `given` batches keeps;
`full` and `short` count the batches since by their pages. -/
structure Working (work given full short : Nat) (s : OutboxSystem) : Prop where
  exclusive : ExclusiveInv s
  few : ∀ row ∈ s.table.rows, row.status = .pending → row.attempts < MAX_ATTEMPTS
  current : ∀ b ∈ s.batches, ∀ e ∈ b.current, ∀ row ∈ s.table.rows, row.id = e.outboxEntryId →
    e.status = .pending → e.attempts = row.attempts + 1 ∧ e.attempts < MAX_ATTEMPTS
  batches : s.batches.length = given + full + short
  work : BATCH_SIZE * full + attemptsLeft s.table ≤ work + s.unsaved.length
  tried : ∀ row ∈ s.table.rows, row.status = .pending → Tried s short row

/-- The invariant holds where every batch is done. -/
theorem working_init {s : OutboxSystem} (hidle : s.unsaved = [])
    (hfew : ∀ row ∈ s.table.rows, row.status = .pending → row.attempts < MAX_ATTEMPTS) :
    Working (attemptsLeft s.table) s.batches.length 0 0 s := by
  have hnone : ∀ b ∈ s.batches, b.unsaved = [] := List.flatMap_eq_nil_iff.mp hidle
  have hcurrent : ∀ b ∈ s.batches, b.current = none := by
    intro b hb
    have hboth := List.append_eq_nil_iff.mp (hnone b hb)
    exact Option.toList_eq_nil_iff.mp hboth.1
  have hrest : ∀ b ∈ s.batches, b.rest = [] := fun b hb =>
    (List.append_eq_nil_iff.mp (hnone b hb)).2
  constructor
  · constructor
    · have hids : s.batches.flatMap Batch.unsavedIds = [] := by
        apply List.flatMap_eq_nil_iff.mpr
        intro b hb
        rw [Batch.unsavedIds, hnone b hb, List.map_nil]
      rw [hids]
      exact List.nodup_nil
    · intro b hb
      constructor
      · intro e he
        rw [hcurrent b hb] at he
        contradiction
      · intro e he
        rw [hrest b hb] at he
        contradiction
  · exact hfew
  · intro b hb e he
    rw [hcurrent b hb] at he
    contradiction
  · rfl
  · omega
  · intro row _ _
    exact .inl (Nat.zero_le _)

/-! ## One step -/

section Step

variable {work given full short : Nat} {s : OutboxSystem}

/-- A page of 50 is counted in `full`; on a shorter one are all pending rows. -/
theorem working_fetched {page : List OutboxEntryOrmEntity}
    (inv : Working work given full short s) (hidle : s.unsaved = [])
    (hp : FindPending s.table BATCH_SIZE page)
    (hexclusive : ExclusiveInv { s with batches := s.batches ++ [⟨none, page.map toDomain⟩] }) :
    ∃ full' short', Working work given full' short'
      { s with batches := s.batches ++ [⟨none, page.map toDomain⟩] } := by
  have hcurrent : ∀ b ∈ s.batches ++ [⟨none, page.map toDomain⟩], ∀ e ∈ b.current,
      ∀ row ∈ s.table.rows, row.id = e.outboxEntryId →
        e.status = .pending → e.attempts = row.attempts + 1 ∧ e.attempts < MAX_ATTEMPTS :=
    forall_joined.mpr ⟨inv.current, fun e he => by contradiction⟩
  have hunsaved : unsaved { s with batches := s.batches ++ [⟨none, page.map toDomain⟩] } =
      page.map toDomain := by
    have hidle' : s.batches.flatMap Batch.unsaved = [] := hidle
    simp [unsaved, Batch.unsaved, List.flatMap_append, hidle']
  have hwork := inv.work
  rw [hidle, List.length_nil] at hwork
  have hbefore : ∀ row ∈ s.table.rows, row.status = .pending → short ≤ row.attempts := by
    intro row hrow hpending
    rcases inv.tried row hrow hpending with hdone | ⟨-, hheld⟩
    · exact hdone
    · rw [hidle] at hheld
      contradiction
  have hlength := inv.batches
  by_cases hfull : page.length = BATCH_SIZE
  · refine ⟨full + 1, short, hexclusive, inv.few, hcurrent, ?_, ?_, ?_⟩
    · rw [List.length_append, List.length_singleton]
      omega
    · rw [hunsaved, List.length_map, hfull, Nat.mul_succ]
      show BATCH_SIZE * full + BATCH_SIZE + attemptsLeft s.table ≤ work + BATCH_SIZE
      omega
    · exact fun row hrow hpending => .inl (hbefore row hrow hpending)
  · refine ⟨full, short + 1, hexclusive, inv.few, hcurrent, ?_, ?_, ?_⟩
    · rw [List.length_append, List.length_singleton]
      omega
    · exact Nat.le_trans hwork (Nat.le_add_right _ _)
    · intro row hrow hpending
      have hpage : row ∈ page := by
        by_contra hout
        exact hfull (length_page hp hrow hpending hout)
      refine .inr ⟨Nat.add_le_add_right (hbefore row hrow hpending) 1, ?_⟩
      rw [hunsaved, List.map_map]
      exact List.mem_map.mpr ⟨row, hpage, rfl⟩

/-- The copy that was sent has one more attempt than its row, or is settled. -/
theorem working_sent {now : Js.Date} {error : Option String} {entry : OutboxEntryEntity}
    {rest : List OutboxEntryEntity} {before after : List Batch}
    (inv : Working work given full short s)
    (hl : s.batches = before ++ ⟨none, entry :: rest⟩ :: after)
    (hexclusive : ExclusiveInv { s with
      batches := before ++ ⟨some (settle entry now error), rest⟩ :: after
      calls := s.calls ++ [⟨entry.outboxEntryId, ingestCommand entry, error⟩] }) :
    Working work given full short { s with
      batches := before ++ ⟨some (settle entry now error), rest⟩ :: after
      calls := s.calls ++ [⟨entry.outboxEntryId, ingestCommand entry, error⟩] } := by
  obtain ⟨hbatch, -⟩ := forall_slots.mp (hl ▸ inv.exclusive.held)
  obtain ⟨hrow, hp⟩ := hbatch.rest entry List.mem_cons_self
  obtain ⟨-, hcurrents⟩ := forall_slots.mp (hl ▸ inv.current)
  have hheld : (before ++ ⟨some (settle entry now error), rest⟩ :: after).length =
      s.batches.length := by simp [hl]
  have hids : ((before ++ ⟨some (settle entry now error), rest⟩ :: after).flatMap
      Batch.unsaved).map OutboxEntryEntity.outboxEntryId =
      s.unsaved.map OutboxEntryEntity.outboxEntryId := by
    simp [unsaved, Batch.unsaved, hl]
  constructor
  · exact hexclusive
  · exact inv.few
  · refine forall_slots.mpr ⟨?_, hcurrents⟩
    intro e he row hmem hid hpending
    obtain rfl := Option.mem_some_iff.mp he
    rw [settle_outboxEntryId] at hid
    obtain rfl : row = toOrm entry := s.table.eq_of_key_eq hmem hrow hid
    cases error with
    | none => contradiction
    | some message =>
        refine ⟨rfl, Nat.lt_of_not_le fun hlast => ?_⟩
        have hlast' : entry.attempts + 1 ≥ MAX_ATTEMPTS := hlast
        simp [Atlas.settle, OutboxEntryEntity.recordAttemptFailure, hlast'] at hpending
  · rw [hheld, inv.batches]
  · have hlength := congrArg List.length hids
    rw [List.length_map, List.length_map] at hlength
    exact hlength ▸ inv.work
  · intro row hmem hpending
    have htried := inv.tried row hmem hpending
    rw [Tried, unsaved, hids]
    exact htried

/-- Saving the copy takes at least one attempt from the work. -/
theorem attemptsLeft_save {table : OutboxTable} {entry : OutboxEntryEntity}
    {row : OutboxEntryOrmEntity} (hrow : row ∈ table.rows) (hid : row.id = entry.outboxEntryId)
    (hp : row.status = .pending) (hfew : row.attempts < MAX_ATTEMPTS)
    (hretry : entry.status = .pending → entry.attempts = row.attempts + 1) :
    attemptsLeft (save table entry) + 1 ≤ attemptsLeft table := by
  have hput := Table.total_put (w := attemptsLeftFor) (r := toOrm entry) hrow hid
  have hold : attemptsLeftFor row = MAX_ATTEMPTS - row.attempts := if_pos hp
  have hnew : attemptsLeftFor (toOrm entry) + 1 ≤ attemptsLeftFor row := by
    rw [hold]
    by_cases hpending : entry.status = .pending
    · have hleft : attemptsLeftFor (toOrm entry) = MAX_ATTEMPTS - entry.attempts := if_pos hpending
      have hattempts := hretry hpending
      omega
    · have hleft : attemptsLeftFor (toOrm entry) = 0 := if_neg hpending
      omega
  unfold attemptsLeft save
  omega

theorem working_saved {entry : OutboxEntryEntity} {rest : List OutboxEntryEntity}
    {before after : List Batch} (inv : Working work given full short s)
    (hl : s.batches = before ++ ⟨some entry, rest⟩ :: after)
    (hexclusive : ExclusiveInv { s with
      table := save s.table entry, batches := before ++ ⟨none, rest⟩ :: after }) :
    Working work given full short { s with
      table := save s.table entry, batches := before ++ ⟨none, rest⟩ :: after } := by
  obtain ⟨hbatch, -⟩ := forall_slots.mp (hl ▸ inv.exclusive.held)
  obtain ⟨row₀, hrow₀, hid₀, hp₀⟩ := hbatch.current entry rfl
  obtain ⟨hcurrent, hcurrents⟩ := forall_slots.mp (hl ▸ inv.current)
  have hretry := hcurrent entry rfl row₀ hrow₀ hid₀
  obtain ⟨-, hother⟩ := ids_ne inv.exclusive hl rfl
  constructor
  · exact hexclusive
  · intro row hmem hpending
    rcases (s.table.mem_put_iff _ _).mp hmem with rfl | ⟨hmem, -⟩
    · exact (hretry hpending).2
    · exact inv.few row hmem hpending
  · refine forall_slots.mpr ⟨fun e he => by contradiction, ?_⟩
    intro b hb e he row hmem hid
    rcases (s.table.mem_put_iff _ _).mp hmem with rfl | ⟨hmem, -⟩
    · exact absurd hid.symm (hother b hb e (by simp [Batch.unsaved, Option.mem_def.mp he]))
    · exact hcurrents b hb e he row hmem hid
  · have hlength : (before ++ ⟨none, rest⟩ :: after).length = s.batches.length := by simp [hl]
    rw [hlength, inv.batches]
  · have hsaved := attemptsLeft_save hrow₀ hid₀ hp₀ (inv.few row₀ hrow₀ hp₀)
      fun hpending => (hretry hpending).1
    have hwork := inv.work
    have hunsaved : s.unsaved.length =
        ((before ++ ⟨none, rest⟩ :: after).flatMap Batch.unsaved).length + 1 := by
      simp [unsaved, Batch.unsaved, hl]
      omega
    rw [hunsaved] at hwork
    show BATCH_SIZE * full + attemptsLeft (save s.table entry) ≤
      work + ((before ++ ⟨none, rest⟩ :: after).flatMap Batch.unsaved).length
    omega
  · intro row hmem hpending
    rcases (s.table.mem_put_iff _ _).mp hmem with rfl | ⟨hmem, hne⟩
    · have hattempts : entry.attempts = row₀.attempts + 1 := (hretry hpending).1
      left
      rw [show (toOrm entry).attempts = entry.attempts from rfl, hattempts]
      rcases inv.tried row₀ hrow₀ hp₀ with hdone | ⟨hdone, -⟩
      · omega
      · exact hdone
    · have htried := inv.tried row hmem hpending
      have hne' : ¬ row.id = entry.outboxEntryId := hne
      simpa [Tried, unsaved, Batch.unsaved, hl, hne'] using htried

theorem working_step (s : OutboxSystem) (a : Step) (s' : OutboxSystem)
    (inv : ∃ full short, Working work given full short s)
    (hok : NonOverlapping s a ∧ Undisturbed a) (h : step s a = some s') :
    ∃ full short, Working work given full short s' := by
  obtain ⟨full, short, inv⟩ := inv
  have hexclusive : ExclusiveInv s' := exclusiveInv_step s a s' inv.exclusive hok.1.exclusive h
  cases transition_of_step h with
  | appended ht => exact absurd hok.2 id
  | refused => exact ⟨full, short, inv⟩
  | fetched hp => exact working_fetched inv hok.1 hp hexclusive
  | unfetched => exact absurd rfl hok.2
  | sent hl => exact ⟨full, short, working_sent inv hl hexclusive⟩
  | saved hl => exact ⟨full, short, working_saved inv hl hexclusive⟩
  | dropped hl => exact absurd hok.2 (by simp [Undisturbed])

end Step

/-! ## Runs -/

/-- One batch for every 50 attempts left, and five more, leave no row pending. -/
theorem settled_of_run {s s' : OutboxSystem} {steps : List Step} (hidle : s.unsaved = [])
    (hfew : ∀ row ∈ s.table.rows, row.status = .pending → row.attempts < MAX_ATTEMPTS)
    (hok : Along step (fun s a => NonOverlapping s a ∧ Undisturbed a) s steps)
    (h : run s steps = some s') (hdone : s'.unsaved = [])
    (hruns : attemptsLeft s.table / BATCH_SIZE + MAX_ATTEMPTS ≤ started steps) :
    ∀ row ∈ s'.table.rows, row.status ≠ .pending := by
  obtain ⟨full, short, inv⟩ : ∃ full short,
      Working (attemptsLeft s.table) s.batches.length full short s' :=
    exec_invariant working_step ⟨0, 0, working_init hidle hfew⟩ hok h
  intro row hrow hpending
  have hfew' := inv.few row hrow hpending
  have hshort : short ≤ row.attempts := by
    rcases inv.tried row hrow hpending with hshort | ⟨-, hheld⟩
    · exact hshort
    · rw [hdone] at hheld
      contradiction
  have hfull : full ≤ attemptsLeft s.table / BATCH_SIZE := by
    have hwork := inv.work
    rw [hdone, List.length_nil] at hwork
    apply (Nat.le_div_iff_mul_le (by decide)).mpr
    rw [Nat.mul_comm]
    omega
  have hbatches := inv.batches
  rw [length_batches_of_run h] at hbatches
  omega

end Atlas.OutboxSystem
