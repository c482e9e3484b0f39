import Atlas.Outbox.Invariant

/-!
# Atlas.Outbox.Exclusive

What overlapping batches do to delivery, and what they do not do as long as no
two of them hold the same entry.

`findPending` claims nothing: a row it has returned stays pending, so the next
batch fetches it again while the first one is still sending.  Both then send
the entry, and the later of the two saves wins.  `ExclusiveFetch` is the
condition that this does not happen.  Under it every row a batch still holds is
pending, so a save never overwrites anything but a pending row
(`processed_step`), and each row counts its own failures
(`outbox_accounts_exact`).
-/

namespace Atlas.OutboxSystem

open StoreKit OutboxEntryRepository

/-- The rows a fetch returns are held by no unfinished batch. -/
def ExclusiveFetch (s : OutboxSystem) : Step → Prop
  | .fetch (some page) => ∀ row ∈ page, ∀ e ∈ s.unsaved, e.outboxEntryId ≠ row.id
  | _ => True

/-- A save is not rejected. -/
def SaveSucceeds : Step → Prop
  | .save _ ok => ok = true
  | _ => True

instance (s : OutboxSystem) : (a : Step) → Decidable (ExclusiveFetch s a)
  | .fetch (some page) =>
      inferInstanceAs (Decidable (∀ row ∈ page, ∀ e ∈ s.unsaved, e.outboxEntryId ≠ row.id))
  | .fetch none => .isTrue trivial
  | .append _ _ _ => .isTrue trivial
  | .ingest _ _ _ => .isTrue trivial
  | .save _ _ => .isTrue trivial

instance : (a : Step) → Decidable (SaveSucceeds a)
  | .save _ ok => inferInstanceAs (Decidable (ok = true))
  | .append _ _ _ => .isTrue trivial
  | .fetch _ => .isTrue trivial
  | .ingest _ _ _ => .isTrue trivial

/-! ## Who holds what -/

/- If no two batches hold one row, a copy that was not sent yet is the row itself, and a
save writes what the row would have become. -/

/-- Every row a batch holds a copy of is pending, and a copy not sent yet is
the row itself. -/
structure Held (table : OutboxTable) (b : Batch) : Prop where
  current : ∀ e ∈ b.current, ∃ row ∈ table.rows, row.id = e.outboxEntryId ∧ row.status = .pending
  rest : ∀ e ∈ b.rest, toOrm e ∈ table.rows ∧ e.status = .pending

structure ExclusiveInv (s : OutboxSystem) : Prop where
  distinct : (s.batches.flatMap Batch.unsavedIds).Nodup
  held : ∀ b ∈ s.batches, Held s.table b

theorem exclusiveInv_init (table : OutboxTable) : ExclusiveInv (init table) where
  distinct := List.nodup_nil
  held b hb := by simp [init] at hb

@[simp] theorem settle_outboxEntryId (entry : OutboxEntryEntity) (now : Js.Date)
    (error : Option String) : (settle entry now error).outboxEntryId = entry.outboxEntryId := by
  cases error <;> rfl

/-- No other copy under way has the id of the copy a batch is at. -/
theorem ids_ne {s : OutboxSystem} {before after : List Batch} {b : Batch}
    {entry : OutboxEntryEntity} {rest : List OutboxEntryEntity} (inv : ExclusiveInv s)
    (hl : s.batches = before ++ b :: after) (hb : b.unsaved = entry :: rest) :
    (∀ e ∈ rest, e.outboxEntryId ≠ entry.outboxEntryId) ∧
      ∀ b' ∈ before ++ after, ∀ e ∈ b'.unsaved, e.outboxEntryId ≠ entry.outboxEntryId := by
  obtain ⟨hself, hothers⟩ := held_disjoint (hl ▸ inv.distinct)
  rw [Batch.unsavedIds, hb, List.map_cons] at hself hothers
  constructor
  · intro e he hid
    exact (List.nodup_cons.mp hself).1 (hid ▸ List.mem_map_of_mem he)
  · intro b' hb' e he hid
    exact hothers _ List.mem_cons_self b' hb' (hid ▸ List.mem_map_of_mem he)

/-- A batch that holds no copy of the row written still holds what it held. -/
theorem Held.save {table : OutboxTable} {b : Batch} {entry : OutboxEntryEntity}
    (h : Held table b) (hne : ∀ e ∈ b.unsaved, e.outboxEntryId ≠ entry.outboxEntryId) :
    Held (save table entry) b where
  current e he := by
    obtain ⟨row, hrow, hid, hp⟩ := h.current e he
    have hother : row.id ≠ entry.outboxEntryId := by
      rw [hid]
      exact hne e (by simp [Batch.unsaved, Option.mem_def.mp he])
    exact ⟨row, (table.mem_put_iff _ _).mpr (.inr ⟨hrow, hother⟩), hid, hp⟩
  rest e he := by
    obtain ⟨hrow, hp⟩ := h.rest e he
    have hother : e.outboxEntryId ≠ entry.outboxEntryId := hne e (by simp [Batch.unsaved, he])
    exact ⟨(table.mem_put_iff _ _).mpr (.inr ⟨hrow, hother⟩), hp⟩

/-- More rows take nothing away from a batch. -/
theorem Held.mono {table table' : OutboxTable} {b : Batch} (h : Held table b)
    (hrows : ∀ row ∈ table.rows, row ∈ table'.rows) : Held table' b where
  current e he := by
    obtain ⟨row, hrow, hid, hp⟩ := h.current e he
    exact ⟨row, hrows row hrow, hid, hp⟩
  rest e he := (h.rest e he).imp_left (hrows _)

/-! ## One step -/

theorem exclusiveInv_fetched {s : OutboxSystem} {page : List OutboxEntryOrmEntity}
    (inv : ExclusiveInv s) (hpage : ∀ r ∈ page, r ∈ s.table.rows ∧ r.status = .pending)
    (hdistinct : (page.map OutboxEntryOrmEntity.id).Nodup)
    (hfree : ∀ row ∈ page, ∀ e ∈ s.unsaved, e.outboxEntryId ≠ row.id) :
    ExclusiveInv { s with batches := s.batches ++ [⟨none, page.map toDomain⟩] } where
  distinct := by
    have hids : Batch.unsavedIds ⟨none, page.map toDomain⟩ =
        page.map OutboxEntryOrmEntity.id := by
      simp [Batch.unsavedIds, Batch.unsaved, Function.comp_def]
    show ((s.batches ++ (⟨none, page.map toDomain⟩ : Batch) :: []).flatMap
      Batch.unsavedIds).Nodup
    apply (held_nodup_iff Batch.unsavedIds).mpr
    rw [hids, List.append_nil]
    apply List.nodup_append.mpr
    refine ⟨hdistinct, inv.distinct, ?_⟩
    intro id hid id' hid' heq
    obtain ⟨row, hrow, rfl⟩ := List.mem_map.mp hid
    obtain ⟨b, hb, hid'⟩ := List.mem_flatMap.mp hid'
    obtain ⟨e, he, rfl⟩ := List.mem_map.mp hid'
    exact hfree row hrow e (List.mem_flatMap.mpr ⟨b, hb, he⟩) heq.symm
  held := by
    have hnew : Held s.table ⟨none, page.map toDomain⟩ :=
      { current := fun e he => by contradiction
        rest := fun e he => by
          obtain ⟨row, hrow, rfl⟩ := List.mem_map.mp he
          exact hpage row hrow }
    exact forall_joined.mpr ⟨inv.held, hnew⟩

theorem exclusiveInv_step (s : OutboxSystem) (a : Step) (s' : OutboxSystem)
    (inv : ExclusiveInv s) (hok : ExclusiveFetch s a) (h : step s a = some s') :
    ExclusiveInv s' := by
  cases transition_of_step h with
  | appended ht =>
      obtain ⟨row, -, hrows, -⟩ := append_cases ht
      exact ⟨inv.distinct, fun b hb => (inv.held b hb).mono fun r hr => by simp [hrows, hr]⟩
  | refused => exact inv
  | fetched hp => exact exclusiveInv_fetched inv hp.pending hp.distinct hok
  | unfetched =>
      have hnone : ∀ r ∈ ([] : List OutboxEntryOrmEntity), r ∈ s.table.rows ∧ r.status = .pending :=
        fun r hr => absurd hr List.not_mem_nil
      exact exclusiveInv_fetched inv hnone List.nodup_nil
        fun r hr => absurd hr List.not_mem_nil
  | @sent now error entry rest before after hl =>
      obtain ⟨hbatch, hothers⟩ := forall_slots.mp (hl ▸ inv.held)
      obtain ⟨hrow, hp⟩ := hbatch.rest entry List.mem_cons_self
      have hsent : Held s.table ⟨some (settle entry now error), rest⟩ :=
        { current := fun e he => ⟨toOrm entry, hrow, by
            simpa using congrArg OutboxEntryEntity.outboxEntryId (Option.mem_some_iff.mp he), hp⟩
          rest := fun e he => hbatch.rest e (List.mem_cons_of_mem _ he) }
      constructor
      · apply held_nodup_of_sublist (hl ▸ inv.distinct)
        simp [Batch.unsavedIds, Batch.unsaved]
      · exact forall_slots.mpr ⟨hsent, hothers⟩
  | @saved entry rest before after hl =>
      obtain ⟨hbatch, hothers⟩ := forall_slots.mp (hl ▸ inv.held)
      obtain ⟨hrest, hother⟩ := ids_ne inv hl rfl
      have hdone : Held s.table ⟨none, rest⟩ := ⟨fun e he => by contradiction, hbatch.rest⟩
      constructor
      · apply held_nodup_of_sublist (hl ▸ inv.distinct)
        simp [Batch.unsavedIds, Batch.unsaved]
      · exact forall_slots.mpr
          ⟨hdone.save hrest, fun b hb => (hothers b hb).save (hother b hb)⟩
  | @dropped entry rest before after hl =>
      obtain ⟨hbatch, hothers⟩ := forall_slots.mp (hl ▸ inv.held)
      have hdone : Held s.table ⟨none, rest⟩ := ⟨fun e he => by contradiction, hbatch.rest⟩
      constructor
      · apply held_nodup_of_sublist (hl ▸ inv.distinct)
        simp [Batch.unsavedIds, Batch.unsaved]
      · exact forall_slots.mpr ⟨hdone, hothers⟩

/-! ## Delivered entries stay delivered -/

/- A processed row is never on a page again, so only a copy fetched before can write over
it, and exclusive fetches leave no such copy. -/

/-- A save only ever overwrites a pending row. -/
theorem processed_step (s : OutboxSystem) (a : Step) (s' : OutboxSystem)
    (inv : ExclusiveInv s) (h : step s a = some s') :
    ∀ row ∈ s.table.rows, row.status ≠ .pending → row ∈ s'.table.rows := by
  cases transition_of_step h with
  | appended ht =>
      obtain ⟨row, -, hrows, -⟩ := append_cases ht
      exact fun r hr _ => by simp [hrows, hr]
  | saved hl =>
      intro row hrow hstatus
      have hbatch := inv.held _ (hl ▸ List.mem_append_cons_self)
      obtain ⟨row₀, hrow₀, hid, hp⟩ := hbatch.current _ rfl
      apply (s.table.mem_put_iff _ _).mpr
      refine .inr ⟨hrow, fun hsame => hstatus ?_⟩
      rw [s.table.eq_of_key_eq hrow hrow₀ (hsame.trans hid.symm), hp]
  | _ => exact fun r hr _ => hr

/-- **Delivered entries stay delivered** in every run whose fetches are
exclusive: a processed row is never written again. -/
theorem delivered_stays_delivered {table : OutboxTable} {steps later : List Step}
    {s s' : OutboxSystem} (hok : Along step ExclusiveFetch (init table) (steps ++ later))
    (h : run (init table) steps = some s) (h' : run s later = some s') :
    ∀ row ∈ s.table.rows, row.status = .processed → row ∈ s'.table.rows := by
  obtain ⟨hsteps, hlater⟩ := along_append hok h
  have inv : ExclusiveInv s := exec_invariant exclusiveInv_step (exclusiveInv_init table) hsteps h
  intro row hrow hstatus
  have hdone : row.status ≠ .pending := by simp [hstatus]
  have hboth : ExclusiveInv s' ∧ row ∈ s'.table.rows :=
    @exec_invariant _ _ step ExclusiveFetch (fun t => ExclusiveInv t ∧ row ∈ t.table.rows)
      (fun t a t' ht ha hstep => ⟨exclusiveInv_step t a t' ht.1 ha hstep,
        processed_step t a t' ht.1 hstep row ht.2 hdone⟩) s s' later ⟨inv, hrow⟩ hlater h'
  exact hboth.2

/-- The table that holds `sampleRow` alone. -/
def sampleTable : OutboxTable := ⟨[sampleRow], List.nodup_singleton _⟩

/-- A second batch starts after the first one has finished with the entry. -/
theorem delivered_stays_delivered_sample :
    ∃ s s', run (init sampleTable) [.fetch (some [sampleRow]), .ingest 0 1716500005000 none,
        .save 0 true] = some s ∧ run s [.fetch (some [])] = some s' ∧
      ∀ row ∈ s.table.rows, row.status = .processed → row ∈ s'.table.rows := by
  obtain ⟨s, hs⟩ : ∃ s, run (init sampleTable) [.fetch (some [sampleRow]),
      .ingest 0 1716500005000 none, .save 0 true] = some s :=
    Option.isSome_iff_exists.mp (by decide +kernel)
  obtain ⟨s', hs'⟩ : ∃ s', run s [.fetch (some [])] = some s' :=
    Option.isSome_iff_exists.mp (by
      obtain rfl := (Option.some.inj hs).symm
      decide +kernel)
  exact ⟨s, s', hs, hs', delivered_stays_delivered (by decide +kernel) hs hs'⟩

/-- Two batches fetch the entry and the first one forwards it. -/
def overlapping : List Step :=
  [.fetch (some [sampleRow]), .fetch (some [sampleRow]), .ingest 0 1716500005000 none,
   .save 0 true]

/-- The second one times out and saves its copy. -/
def staleSave : List Step :=
  [.ingest 1 1716500010000 (some "Event Streaming ingest timed out after 5000ms"), .save 1 true]

/-- Without the condition a stale copy makes a processed row pending again. -/
theorem stale_save_undoes_delivery :
    ¬ ∀ (table : OutboxTable) (steps later : List Step) (s s' : OutboxSystem),
      run (init table) steps = some s → run s later = some s' →
      ∀ row ∈ s.table.rows, row.status = .processed →
        ∀ row' ∈ s'.table.rows, row'.id = row.id → row'.status = .processed := by
  intro hclaim
  let s := (run (init sampleTable) overlapping).getD (init sampleTable)
  let s' := (run s staleSave).getD (init sampleTable)
  have hs : run (init sampleTable) overlapping = some s := by decide +kernel
  have hs' : run s staleSave = some s' := by decide +kernel
  have hstays := hclaim sampleTable overlapping staleSave s s' hs hs'
  exact absurd hstays (by decide +kernel)

/-! ## Calls and attempts -/

/- With saves that succeed every call is recorded by the save that follows it, up to the
copies that were sent and not yet saved. -/

/-- The attempts an entry had behind it when the run began. -/
def attemptsBefore (table : OutboxTable) (id : String) : Nat :=
  ((table.find? id).map OutboxEntryOrmEntity.attempts).getD 0

/-- The newest version of an entry against the calls made for it. -/
structure Settled (table₀ : OutboxTable) (calls : List IngestCall) (v : OutboxEntryOrmEntity) :
    Prop where
  attempts : v.attempts = attemptsBefore table₀ v.id + failures calls v.id
  once : accepted calls v.id ≤ 1
  unsent : v.status ≠ .processed → accepted calls v.id = 0
  pending : v.status = .pending → failures calls v.id = 0 ∨ v.attempts ≤ 4
  bound : accepted calls v.id + failures calls v.id ≤ 5

/-- A call for another entry changes nothing. -/
theorem Settled.other {table₀ : OutboxTable} {calls : List IngestCall} {v : OutboxEntryOrmEntity}
    (h : Settled table₀ calls v) {c : IngestCall} (hc : c.entryId ≠ v.id) :
    Settled table₀ (calls ++ [c]) v := by
  obtain ⟨hattempts, honce, hunsent, hpending, hbound⟩ := h
  constructor <;> simp only [accepted_append, failures_append, hc, false_and, if_false, Nat.add_zero]
  all_goals assumption

/-- The call for a pending entry, and what the entry becomes. -/
theorem Settled.settle {table₀ : OutboxTable} {calls : List IngestCall}
    {entry : OutboxEntryEntity} (h : Settled table₀ calls (toOrm entry))
    (hp : entry.status = .pending) (now : Js.Date) (command : IngestCommand)
    (error : Option String) :
    Settled table₀ (calls ++ [⟨entry.outboxEntryId, command, error⟩])
      (toOrm (settle entry now error)) := by
  have hattempts : entry.attempts = attemptsBefore table₀ entry.outboxEntryId +
      failures calls entry.outboxEntryId := h.attempts
  have hunsent : accepted calls entry.outboxEntryId = 0 := h.unsent (by simp [toOrm, hp])
  have hpending : failures calls entry.outboxEntryId = 0 ∨ entry.attempts ≤ 4 := h.pending hp
  have hfew : failures calls entry.outboxEntryId ≤ 4 := by omega
  cases error with
  | none =>
      constructor
      · rw [failures_append]
        change entry.attempts = attemptsBefore table₀ entry.outboxEntryId + _
        simpa using hattempts
      · rw [accepted_append]
        simp [hunsent]
      · exact fun hs => absurd rfl hs
      · exact fun hs => by contradiction
      · rw [accepted_append, failures_append]
        simp [hunsent]
        omega
  | some message =>
      have hmax : MAX_ATTEMPTS = 5 := rfl
      constructor
      · rw [failures_append]
        simp only [toOrm, Atlas.settle, OutboxEntryEntity.recordAttemptFailure]
        simp
        omega
      · rw [accepted_append]
        simp [hunsent]
      · rw [accepted_append]
        simp [hunsent]
      · intro hstatus
        right
        by_cases hlast : entry.attempts + 1 ≥ MAX_ATTEMPTS
        · simp [toOrm, Atlas.settle, OutboxEntryEntity.recordAttemptFailure, hlast] at hstatus
        · change entry.attempts + 1 ≤ 4
          omega
      · rw [accepted_append, failures_append]
        simp [hunsent]
        omega

/-- The accounts of a run that began with `table₀`. -/
structure Accounts (table₀ : OutboxTable) (s : OutboxSystem) : Prop where
  exclusive : ExclusiveInv s
  rows : ∀ row ∈ s.table.rows, (∀ b ∈ s.batches, ∀ e ∈ b.current, e.outboxEntryId ≠ row.id) →
    Settled table₀ s.calls row
  current : ∀ b ∈ s.batches, ∀ e ∈ b.current, Settled table₀ s.calls (toOrm e)
  known : ∀ c ∈ s.calls, c.entryId ∈ s.table.rows.map OutboxEntryOrmEntity.id
  kept : ∀ id ∈ table₀.rows.map OutboxEntryOrmEntity.id,
    id ∈ s.table.rows.map OutboxEntryOrmEntity.id

theorem no_calls {calls : List IngestCall} {id : String} (h : ∀ c ∈ calls, c.entryId ≠ id) :
    accepted calls id = 0 ∧ failures calls id = 0 := by
  simp only [accepted, failures, List.countP_eq_zero]
  exact ⟨fun c hc => by simp [h c hc], fun c hc => by simp [h c hc]⟩

theorem accounts_init (table : OutboxTable) : Accounts table (init table) where
  exclusive := exclusiveInv_init table
  rows row hrow _ := by
    have hbefore : attemptsBefore table row.id = row.attempts := by
      rw [attemptsBefore, table.find?_key hrow]
      rfl
    have hnone : accepted [] row.id = 0 ∧ failures [] row.id = 0 := no_calls (by simp)
    constructor <;> simp [init, hbefore, hnone]
  current b hb := by simp [init] at hb
  known c hc := by simp [init] at hc
  kept id hid := hid

/-- A new row has no attempts behind it, and no calls. -/
theorem settled_new {table₀ : OutboxTable} {s : OutboxSystem} (acc : Accounts table₀ s)
    {row : OutboxEntryOrmEntity} (hzero : row.attempts = 0)
    (hid : row.id ∉ s.table.rows.map OutboxEntryOrmEntity.id) : Settled table₀ s.calls row := by
  have hbefore : attemptsBefore table₀ row.id = 0 := by
    have hnone : table₀.find? row.id = none :=
      (table₀.find?_eq_none_iff row.id).mpr fun hmem => hid (acc.kept row.id hmem)
    rw [attemptsBefore, hnone]
    rfl
  obtain ⟨hacc, hfail⟩ : accepted s.calls row.id = 0 ∧ failures s.calls row.id = 0 :=
    no_calls fun c hc heq => hid (heq ▸ acc.known c hc)
  constructor <;> simp [hbefore, hzero, hacc, hfail]

/-- A new batch has sent nothing yet. -/
theorem accounts_fetched {table₀ : OutboxTable} {s : OutboxSystem} (acc : Accounts table₀ s)
    {rest : List OutboxEntryEntity}
    (hexclusive : ExclusiveInv { s with batches := s.batches ++ [⟨none, rest⟩] }) :
    Accounts table₀ { s with batches := s.batches ++ [⟨none, rest⟩] } where
  exclusive := hexclusive
  rows row hrow hfree :=
    acc.rows row hrow fun b hb => hfree b (List.mem_append_left _ hb)
  current b hb e he := by
    rcases List.mem_append.mp hb with hb | hb
    · exact acc.current b hb e he
    · obtain rfl := List.mem_singleton.mp hb
      contradiction
  known := acc.known
  kept := acc.kept

/-- The copy a batch sends next has its accounts on the row. -/
theorem Accounts.next {table₀ : OutboxTable} {s : OutboxSystem} {entry : OutboxEntryEntity}
    {rest : List OutboxEntryEntity} {before after : List Batch} (acc : Accounts table₀ s)
    (hl : s.batches = before ++ ⟨none, entry :: rest⟩ :: after) :
    (∀ b ∈ before ++ after, ∀ e ∈ b.current, e.outboxEntryId ≠ entry.outboxEntryId) ∧
      Settled table₀ s.calls (toOrm entry) := by
  obtain ⟨hbatch, -⟩ := forall_slots.mp (hl ▸ acc.exclusive.held)
  obtain ⟨hrow, -⟩ := hbatch.rest entry List.mem_cons_self
  obtain ⟨-, hother⟩ := ids_ne acc.exclusive hl rfl
  have hne : ∀ b ∈ before ++ after, ∀ e ∈ b.current, e.outboxEntryId ≠ entry.outboxEntryId :=
    fun b hb e he => hother b hb e (by simp [Batch.unsaved, Option.mem_def.mp he])
  constructor
  · exact hne
  · apply acc.rows _ hrow
    rw [hl]
    exact forall_slots.mpr ⟨fun e he => by contradiction, hne⟩

/-- A row that is inserted has nothing on its account. -/
theorem accounts_appended {table₀ table : OutboxTable} {s : OutboxSystem} (acc : Accounts table₀ s)
    {entry : OutboxEntryEntity} (hexclusive : ExclusiveInv { s with table })
    (h : OutboxEntryRepository.append s.table entry = some table) (hzero : entry.attempts = 0) :
    Accounts table₀ { s with table } := by
  obtain ⟨row, hstored, hrows, hid⟩ := append_cases h
  have hattempts : row.attempts = 0 := (storedAs_of_stored hstored).attempts.trans hzero
  have hkeys : ∀ id ∈ s.table.rows.map OutboxEntryOrmEntity.id,
      id ∈ table.rows.map OutboxEntryOrmEntity.id := by
    intro id hmem
    rw [hrows, List.map_append]
    exact List.mem_append_left _ hmem
  constructor
  · exact hexclusive
  · intro r hr hfree
    rw [hrows, List.mem_append, List.mem_singleton] at hr
    rcases hr with hr | rfl
    · exact acc.rows r hr hfree
    · exact settled_new acc hattempts hid
  · exact acc.current
  · exact fun c hc => hkeys _ (acc.known c hc)
  · exact fun id hmem => hkeys _ (acc.kept id hmem)

/-- A call is on the account of the copy that is sent, and of no other. -/
theorem accounts_sent {table₀ : OutboxTable} {s : OutboxSystem} (acc : Accounts table₀ s)
    {now : Js.Date} {error : Option String} {entry : OutboxEntryEntity}
    {rest : List OutboxEntryEntity} {before after : List Batch}
    (hl : s.batches = before ++ ⟨none, entry :: rest⟩ :: after)
    (hexclusive : ExclusiveInv { s with
      batches := before ++ ⟨some (settle entry now error), rest⟩ :: after
      calls := s.calls ++ [⟨entry.outboxEntryId, ingestCommand entry, error⟩] }) :
    Accounts table₀ { s with
      batches := before ++ ⟨some (settle entry now error), rest⟩ :: after
      calls := s.calls ++ [⟨entry.outboxEntryId, ingestCommand entry, error⟩] } := by
  obtain ⟨hbatch, -⟩ := forall_slots.mp (hl ▸ acc.exclusive.held)
  obtain ⟨hrow, hp⟩ := hbatch.rest entry List.mem_cons_self
  obtain ⟨-, hcurrent⟩ := forall_slots.mp (hl ▸ acc.current)
  obtain ⟨hne, hentry⟩ := acc.next hl
  have hsettled := hentry.settle hp now (ingestCommand entry) error
  constructor
  · exact hexclusive
  · intro row hmem hfree
    obtain ⟨hself, hothers⟩ := forall_slots.mp hfree
    have hid : entry.outboxEntryId ≠ row.id := by
      simpa using hself _ rfl
    apply Settled.other _ hid
    apply acc.rows row hmem
    rw [hl]
    exact forall_slots.mpr ⟨fun e he => by contradiction, hothers⟩
  · exact forall_slots.mpr
      ⟨fun e he => Option.mem_some_iff.mp he ▸ hsettled,
       fun b hb e he => (hcurrent b hb e he).other (Ne.symm (hne b hb e he))⟩
  · intro c hc
    rcases List.mem_append.mp hc with hc | hc
    · exact acc.known c hc
    · obtain rfl := List.mem_singleton.mp hc
      exact List.mem_map_of_mem (f := OutboxEntryOrmEntity.id) hrow
  · exact acc.kept

/-- A copy that is saved takes its account to the row. -/
theorem accounts_saved {table₀ : OutboxTable} {s : OutboxSystem} (acc : Accounts table₀ s)
    {entry : OutboxEntryEntity} {rest : List OutboxEntryEntity} {before after : List Batch}
    (hl : s.batches = before ++ ⟨some entry, rest⟩ :: after)
    (hexclusive : ExclusiveInv { s with
      table := save s.table entry, batches := before ++ ⟨none, rest⟩ :: after }) :
    Accounts table₀ { s with
      table := save s.table entry, batches := before ++ ⟨none, rest⟩ :: after } := by
  obtain ⟨hsettled, hcurrent⟩ := forall_slots.mp (hl ▸ acc.current)
  have hkeys : ∀ id ∈ s.table.rows.map OutboxEntryOrmEntity.id,
      id ∈ (save s.table entry).rows.map OutboxEntryOrmEntity.id :=
    fun id hmem => (s.table.mem_keys_put _ _).mpr (.inr hmem)
  constructor
  · exact hexclusive
  · intro row hmem hfree
    obtain ⟨-, hothers⟩ := forall_slots.mp hfree
    rcases (s.table.mem_put_iff _ _).mp hmem with rfl | ⟨hrow, hid⟩
    · exact hsettled entry rfl
    · apply acc.rows row hrow
      rw [hl]
      exact forall_slots.mpr
        ⟨fun e he => Option.mem_some_iff.mp he ▸ Ne.symm hid, hothers⟩
  · exact forall_slots.mpr ⟨fun e he => by contradiction, hcurrent⟩
  · exact fun c hc => hkeys _ (acc.known c hc)
  · exact fun id hmem => hkeys _ (acc.kept id hmem)

theorem accounts_step {table₀ : OutboxTable} (s : OutboxSystem) (a : Step) (s' : OutboxSystem)
    (acc : Accounts table₀ s) (hok : ExclusiveFetch s a ∧ SaveSucceeds a)
    (h : step s a = some s') : Accounts table₀ s' := by
  have hexclusive : ExclusiveInv s' := exclusiveInv_step s a s' acc.exclusive hok.1 h
  cases transition_of_step h with
  | appended ht => exact accounts_appended acc hexclusive ht rfl
  | refused => exact acc
  | fetched hp => exact accounts_fetched acc hexclusive
  | unfetched => exact accounts_fetched acc hexclusive
  | sent hl => exact accounts_sent acc hl hexclusive
  | saved hl => exact accounts_saved acc hl hexclusive
  | dropped hl => exact absurd hok.2 (by simp [SaveSucceeds])

/-- **No duplicate forwarding, exact accounts**, in every run whose fetches are
exclusive and whose saves succeed: an entry is accepted at most once and sent
at most five times, and its attempts are the failures it began with plus the
calls that failed — on the row, unless a batch has still to save the outcome of
the last call, and then on the copy it will save. -/
theorem outbox_accounts_exact {table : OutboxTable} {steps : List Step} {s : OutboxSystem}
    (hok : Along step (fun s a => ExclusiveFetch s a ∧ SaveSucceeds a) (init table) steps)
    (h : run (init table) steps = some s) (id : String) :
    accepted s.calls id ≤ 1 ∧ accepted s.calls id + failures s.calls id ≤ 5 ∧
      (∀ b ∈ s.batches, ∀ e ∈ b.current, e.outboxEntryId = id →
        e.attempts = attemptsBefore table id + failures s.calls id) ∧
      ((∀ b ∈ s.batches, ∀ e ∈ b.current, e.outboxEntryId ≠ id) →
        ∀ row ∈ s.table.rows, row.id = id →
          row.attempts = attemptsBefore table id + failures s.calls id) := by
  have acc : Accounts table s := exec_invariant accounts_step (accounts_init table) hok h
  have hcurrent : ∀ b ∈ s.batches, ∀ e ∈ b.current, e.outboxEntryId = id →
      e.attempts = attemptsBefore table id + failures s.calls id := by
    rintro b hb e he rfl
    exact (acc.current b hb e he).attempts
  have hrows : (∀ b ∈ s.batches, ∀ e ∈ b.current, e.outboxEntryId ≠ id) →
      ∀ row ∈ s.table.rows, row.id = id →
        row.attempts = attemptsBefore table id + failures s.calls id := by
    rintro hfree row hrow rfl
    exact (acc.rows row hrow hfree).attempts
  have hcounts : accepted s.calls id ≤ 1 ∧ accepted s.calls id + failures s.calls id ≤ 5 := by
    by_cases hfree : ∀ b ∈ s.batches, ∀ e ∈ b.current, e.outboxEntryId ≠ id
    · by_cases hid : id ∈ s.table.rows.map OutboxEntryOrmEntity.id
      · obtain ⟨row, hrow, rfl⟩ := List.mem_map.mp hid
        have hsettled := acc.rows row hrow hfree
        exact ⟨hsettled.once, hsettled.bound⟩
      · obtain ⟨hacc, hfail⟩ : accepted s.calls id = 0 ∧ failures s.calls id = 0 :=
          no_calls fun c hc heq => hid (heq ▸ acc.known c hc)
        omega
    · push Not at hfree
      obtain ⟨b, hb, e, he, rfl⟩ := hfree
      have hsettled := acc.current b hb e he
      exact ⟨hsettled.once, hsettled.bound⟩
  exact ⟨hcounts.1, hcounts.2, hcurrent, hrows⟩

/-- The retried entry: one failure counted, one call accepted. -/
theorem outbox_accounts_exact_retried :
    ∃ s, run (init .empty) retriedRun = some s ∧ accepted s.calls (Pg.uuidOf 2) ≤ 1 := by
  obtain ⟨s, hs⟩ : ∃ s, run (init .empty) retriedRun = some s :=
    Option.isSome_iff_exists.mp (by decide +kernel)
  exact ⟨s, hs, (outbox_accounts_exact (by decide +kernel) hs (Pg.uuidOf 2)).1⟩

/-- Both batches forward the entry. -/
def forwardedTwice : List Step :=
  [.fetch (some [sampleRow]), .fetch (some [sampleRow]), .ingest 0 1716500005000 none,
   .ingest 1 1716500005001 none, .save 0 true, .save 1 true]

/-- Without the condition an entry can be accepted twice, though every save
succeeds. -/
theorem overlap_forwards_twice :
    ¬ ∀ (table : OutboxTable) (steps : List Step) (s : OutboxSystem),
      Along step (fun _ a => SaveSucceeds a) (init table) steps →
      run (init table) steps = some s → ∀ id,
        accepted s.calls id ≤ 1 ∧ accepted s.calls id + failures s.calls id ≤ 5 ∧
        ((∀ b ∈ s.batches, ∀ e ∈ b.current, e.outboxEntryId ≠ id) →
          ∀ row ∈ s.table.rows, row.id = id →
            row.attempts = attemptsBefore table id + failures s.calls id) := by
  intro hclaim
  let s := (run (init sampleTable) forwardedTwice).getD (init sampleTable)
  have hs : run (init sampleTable) forwardedTwice = some s := by decide +kernel
  have hok : Along step (fun _ a => SaveSucceeds a) (init sampleTable) forwardedTwice := by
    decide +kernel
  have honce := (hclaim sampleTable forwardedTwice s hok hs (Pg.uuidOf 2)).1
  exact absurd honce (by decide +kernel)

end Atlas.OutboxSystem
