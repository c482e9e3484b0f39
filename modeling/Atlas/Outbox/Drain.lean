import Atlas.Outbox.Order
import Atlas.Lib.Window
import Mathlib.Data.Int.Order.Basic
import Mathlib.Data.List.Induction
import Mathlib.Data.List.Perm.Subperm

/-!
# Atlas.Outbox.Drain

How many batches it takes until no entry is pending.

A batch sends the 50 oldest pending rows, and a row it sends is settled or has
one more attempt behind it; so the rows that a batch passes over wait behind 50
others.  `Draining.level` is the bound a run keeps: a pending row has had an
attempt in every batch since its block of 50 came up.  `outbox_drains` reads the
number of batches off it.
-/

namespace Atlas.OutboxSystem

open StoreKit OutboxEntryRepository

/-- Nothing is inserted, `findPending` answers and the save succeeds. -/
def Undisturbed : Step → Prop
  | .append _ _ _ => False
  | .fetch page => page ≠ none
  | .save _ ok => ok = true
  | .ingest _ _ _ => True

instance : (a : Step) → Decidable (Undisturbed a)
  | .append _ _ _ => .isFalse id
  | .fetch page => inferInstanceAs (Decidable (page ≠ none))
  | .save _ ok => inferInstanceAs (Decidable (ok = true))
  | .ingest _ _ _ => .isTrue trivial

/-- Every save of an undisturbed step succeeds. -/
theorem Undisturbed.saves {a : Step} (h : Undisturbed a) : SaveSucceeds a := by
  cases a with
  | save i ok => exact h
  | _ => trivial

/-- The batches a run starts. -/
def started (steps : List Step) : Nat :=
  steps.countP fun | .fetch _ => true | _ => false

/-- A batch stays in the list once it has started. -/
theorem length_batches_of_run {s s' : OutboxSystem} {steps : List Step}
    (h : run s steps = some s') : s'.batches.length = s.batches.length + started steps := by
  induction steps generalizing s with
  | nil =>
      cases h
      simp [started]
  | cons a steps ih =>
      obtain ⟨m, hm, hrest⟩ := exec_cons h
      rw [ih hrest]
      have hstep : m.batches.length = s.batches.length + started [a] := by
        cases transition_of_step hm with
        | sent hl => simp [hl, started]
        | saved hl => simp [hl, started]
        | dropped hl => simp [hl, started]
        | _ => simp [started]
      rw [hstep, Nat.add_assoc, started, started, started, ← List.countP_append,
        List.singleton_append]

/-- When the pending rows were created. -/
def pendingDates (table : OutboxTable) : List Js.Date :=
  (table.rows.filter fun r => r.status = .pending).map OutboxEntryOrmEntity.createdAt

/-- The pending rows ahead of a row. -/
def ahead (table : OutboxTable) (row : OutboxEntryOrmEntity) : Nat :=
  rank (pendingDates table) row.createdAt

/-- The calls that were made for an entry. -/
def sent (calls : List IngestCall) (id : String) : Nat := calls.countP fun c => c.entryId = id

/-- One more call counts for its own entry. -/
theorem sent_append (calls : List IngestCall) (c : IngestCall) (id : String) :
    sent (calls ++ [c]) id = sent calls id + if c.entryId = id then 1 else 0 := by
  simp [sent, List.countP_append, List.countP_cons]

/-- A call is accepted or fails. -/
theorem sent_eq (calls : List IngestCall) (id : String) :
    sent calls id = accepted calls id + failures calls id := by
  induction calls using List.reverseRecOn with
  | nil => rfl
  | append_singleton calls c ih =>
      rw [sent_append, accepted_append, failures_append, ih]
      by_cases hid : c.entryId = id
      · by_cases herror : c.error = none
        · simp [hid, herror]
          omega
        · simp [hid, herror]
          omega
      · simp [hid]

/-- The batches a pending row may have been through: one for each attempt, and
five for each block of 50 rows ahead of it. -/
def level (table : OutboxTable) (row : OutboxEntryOrmEntity) : Nat :=
  row.attempts + MAX_ATTEMPTS * (ahead table row / BATCH_SIZE)

/-- What a run that began with `table` keeps. -/
structure Draining (table : OutboxTable) (s : OutboxSystem) : Prop where
  accounts : Accounts table s
  origin : ∀ row ∈ s.table.rows, row.status = .pending → row.attempts < MAX_ATTEMPTS ∧
    ∃ row₀ ∈ table.rows, row₀.status = .pending ∧ row₀.frozen = row.frozen
  current : ∀ b ∈ s.batches, ∀ e ∈ b.current, ∀ row ∈ s.table.rows, row.id = e.outboxEntryId →
    row.frozen = (toOrm e).frozen ∧
      (e.status = .pending → e.attempts = row.attempts + 1 ∧ e.attempts < MAX_ATTEMPTS)
  level : ∀ row ∈ s.table.rows, row.status = .pending →
    s.batches.length ≤ level table row ∨
      s.batches.length ≤ level table row + 1 ∧
        row.id ∈ s.unsaved.map OutboxEntryEntity.outboxEntryId
  budget : ∀ id, sent s.calls id = 0 ∨ attemptsBefore table id + sent s.calls id ≤ MAX_ATTEMPTS

/-- Before the first batch nothing has been passed over. -/
theorem draining_init {table : OutboxTable}
    (hfew : ∀ row ∈ table.rows, row.status = .pending → row.attempts < MAX_ATTEMPTS) :
    Draining table (init table) where
  accounts := accounts_init table
  origin row hrow hp := ⟨hfew row hrow hp, row, hrow, hp, rfl⟩
  current b hb := by simp [init] at hb
  level row hrow hp := .inl (by simp [init])
  budget id := .inl rfl

/-! ## A batch starts -/

/- A pending row that a page leaves out has a full page ahead of it, of rows that are
older and still pending.  So it has not used up its level yet, and the batch that passes
it over is within the bound. -/

section Fetch

variable {table : OutboxTable} {s : OutboxSystem} {page : List OutboxEntryOrmEntity}

/-- What is pending now was pending in the beginning. -/
theorem Draining.date_mem (inv : Draining table s) {row : OutboxEntryOrmEntity}
    (hrow : row ∈ s.table.rows) (hp : row.status = .pending) :
    row.createdAt ∈ pendingDates table := by
  obtain ⟨-, row₀, hrow₀, hp₀, hfrozen⟩ := inv.origin row hrow hp
  have hdate : row₀.createdAt = row.createdAt := congrArg OutboxEntryFrozen.createdAt hfrozen
  rw [← hdate]
  exact List.mem_map_of_mem (List.mem_filter.mpr ⟨hrow₀, by simpa using hp₀⟩)

/-- Pending rows are told apart by when they were created. -/
theorem Draining.eq_of_date (inv : Draining table s) (hdistinct : (pendingDates table).Nodup)
    {row row' : OutboxEntryOrmEntity} (hrow : row ∈ s.table.rows) (hp : row.status = .pending)
    (hrow' : row' ∈ s.table.rows) (hp' : row'.status = .pending)
    (hdate : row.createdAt = row'.createdAt) : row = row' := by
  obtain ⟨-, row₀, hrow₀, hp₀, hfrozen⟩ := inv.origin row hrow hp
  obtain ⟨-, row₀', hrow₀', hp₀', hfrozen'⟩ := inv.origin row' hrow' hp'
  have hdate₀ : row₀.createdAt = row₀'.createdAt :=
    (congrArg OutboxEntryFrozen.createdAt hfrozen).trans
      (hdate.trans (congrArg OutboxEntryFrozen.createdAt hfrozen').symm)
  have hsame : row₀ = row₀' := List.inj_on_of_nodup_map hdistinct
    (List.mem_filter.mpr ⟨hrow₀, by simpa using hp₀⟩)
    (List.mem_filter.mpr ⟨hrow₀', by simpa using hp₀'⟩) hdate₀
  apply s.table.eq_of_key_eq hrow hrow'
  rw [← frozen_id hfrozen, ← frozen_id hfrozen', hsame]

/-- A page that leaves a pending row out is full. -/
theorem length_page (hp : FindPending s.table BATCH_SIZE page) {row : OutboxEntryOrmEntity}
    (hrow : row ∈ s.table.rows) (hpending : row.status = .pending) (hout : row ∉ page) :
    page.length = BATCH_SIZE := by
  have hnodup : (row :: page).Nodup :=
    List.nodup_cons.mpr ⟨hout, List.Nodup.of_map _ hp.distinct⟩
  have hsub : row :: page ⊆ s.table.rows.filter fun r => r.status = .pending := by
    intro r hr
    rcases List.mem_cons.mp hr with rfl | hr
    · exact List.mem_filter.mpr ⟨hrow, by simpa using hpending⟩
    · exact List.mem_filter.mpr ⟨(hp.pending r hr).1, by simpa using (hp.pending r hr).2⟩
  have hle := (hnodup.subperm hsub).length_le
  have hfull := hp.full
  rw [List.countP_eq_length_filter] at hfull
  rw [List.length_cons] at hle
  omega

/-- A row that the batch passes over has not used up its level. -/
theorem level_passed_over (inv : Draining table s) (hdistinct : (pendingDates table).Nodup)
    (hidle : s.unsaved = []) (hp : FindPending s.table BATCH_SIZE page)
    {row : OutboxEntryOrmEntity} (hrow : row ∈ s.table.rows) (hpending : row.status = .pending)
    (hout : row ∉ page) : s.batches.length < level table row := by
  have hahead : ∀ p ∈ page, ∀ q ∈ s.table.rows, q.status = .pending → p.createdAt ≤ q.createdAt →
      p ≠ q → ahead table p < ahead table q := by
    intro p hpage q hq hqp hle hne
    obtain ⟨hmem, hpp⟩ := hp.pending p hpage
    have hdate : p.createdAt ≠ q.createdAt :=
      fun heq => hne (inv.eq_of_date hdistinct hmem hpp hq hqp heq)
    exact rank_lt_rank (inv.date_mem hmem hpp) (lt_of_le_of_ne hle hdate)
  have hbehind : ∀ p ∈ page, ahead table p < ahead table row := by
    intro p hpage
    apply hahead p hpage row hrow hpending (hp.oldest row hrow hpending hout p hpage)
    exact fun heq => hout (heq ▸ hpage)
  have hsorted : page.Pairwise fun p q => ahead table p < ahead table q := by
    have hne := List.Nodup.of_map _ hp.distinct
    apply (hp.sorted.and hne).imp_of_mem
    intro p q hpage hqpage hpq
    obtain ⟨hmem, hqp⟩ := hp.pending q hqpage
    exact hahead p hpage q hmem hqp hpq.1 hpq.2
  have hlevel : ∀ p ∈ page, s.batches.length ≤ level table p := by
    intro p hpage
    obtain ⟨hmem, hpp⟩ := hp.pending p hpage
    rcases inv.level p hmem hpp with hlevel | ⟨-, hheld⟩
    · exact hlevel
    · rw [hidle] at hheld
      contradiction
  have hfew : ∀ p ∈ page, p.attempts < MAX_ATTEMPTS := fun p hpage =>
    (inv.origin p (hp.pending p hpage).1 (hp.pending p hpage).2).1
  have hpassed := passed_over (by decide) hsorted (length_page hp hrow hpending hout) hlevel hfew
    hbehind
  exact Nat.lt_of_lt_of_le hpassed (Nat.le_add_left _ _)

end Fetch

/-! ## One step -/

/-- A fetch takes the oldest entries, as many as a page holds. -/
theorem draining_fetched {table : OutboxTable} {s : OutboxSystem}
    {page : List OutboxEntryOrmEntity} (inv : Draining table s)
    (hdistinct : (pendingDates table).Nodup) (hidle : s.unsaved = [])
    (hp : FindPending s.table BATCH_SIZE page)
    (haccounts : Accounts table { s with batches := s.batches ++ [⟨none, page.map toDomain⟩] }) :
    Draining table { s with batches := s.batches ++ [⟨none, page.map toDomain⟩] } where
  accounts := haccounts
  origin := inv.origin
  current := forall_joined.mpr ⟨inv.current, fun e he => by contradiction⟩
  level row hrow hpending := by
    rw [List.length_append, List.length_singleton]
    by_cases hpage : row ∈ page
    · right
      constructor
      · rcases inv.level row hrow hpending with hlevel | ⟨-, hheld⟩
        · exact Nat.add_le_add_right hlevel 1
        · rw [hidle] at hheld
          contradiction
      · have hsent : toDomain row ∈ page.map toDomain := List.mem_map_of_mem hpage
        apply List.mem_map_of_mem (f := OutboxEntryEntity.outboxEntryId) (a := toDomain row)
        exact List.mem_flatMap.mpr ⟨_, List.mem_append_right _ List.mem_cons_self, hsent⟩
    · exact .inl (level_passed_over inv hdistinct hidle hp hrow hpending hpage)
  budget := inv.budget

/-- A call leaves the table as it is, with one attempt to record. -/
theorem draining_sent {table : OutboxTable} {s : OutboxSystem} {now : Js.Date}
    {error : Option String} {entry : OutboxEntryEntity} {rest : List OutboxEntryEntity}
    {before after : List Batch} (inv : Draining table s)
    (hl : s.batches = before ++ ⟨none, entry :: rest⟩ :: after)
    (haccounts : Accounts table { s with
      batches := before ++ ⟨some (settle entry now error), rest⟩ :: after
      calls := s.calls ++ [⟨entry.outboxEntryId, ingestCommand entry, error⟩] }) :
    Draining table { s with
      batches := before ++ ⟨some (settle entry now error), rest⟩ :: after
      calls := s.calls ++ [⟨entry.outboxEntryId, ingestCommand entry, error⟩] } := by
  obtain ⟨hbatch, -⟩ := forall_slots.mp (hl ▸ inv.accounts.exclusive.held)
  obtain ⟨hrow, hp⟩ := hbatch.rest entry List.mem_cons_self
  have hfew : entry.attempts < MAX_ATTEMPTS := (inv.origin _ hrow hp).1
  constructor
  · exact haccounts
  · exact inv.origin
  · obtain ⟨-, hcurrents⟩ := forall_slots.mp (hl ▸ inv.current)
    refine forall_slots.mpr ⟨?_, hcurrents⟩
    intro e he row hmem hid
    obtain rfl := Option.mem_some_iff.mp he
    rw [settle_outboxEntryId] at hid
    obtain rfl : row = toOrm entry := s.table.eq_of_key_eq hmem hrow hid
    refine ⟨by rw [frozen_settle], fun hpending => ?_⟩
    cases error with
    | none => contradiction
    | some message =>
        refine ⟨rfl, Nat.lt_of_not_le fun hlast => ?_⟩
        have hlast' : entry.attempts + 1 ≥ MAX_ATTEMPTS := hlast
        simp [Atlas.settle, OutboxEntryEntity.recordAttemptFailure, hlast'] at hpending
  · intro row hmem hpending
    have hheld : ∀ b, (before ++ b :: after).length = s.batches.length := by simp [hl]
    have hlevel := inv.level row hmem hpending
    rw [hheld]
    simpa [unsaved, Batch.unsaved, hl] using hlevel
  · intro id
    rw [sent_append]
    by_cases hid : entry.outboxEntryId = id
    · right
      obtain ⟨-, hentry⟩ := inv.accounts.next hl
      have hattempts : entry.attempts = attemptsBefore table entry.outboxEntryId +
          failures s.calls entry.outboxEntryId := hentry.attempts
      have hunsent : accepted s.calls entry.outboxEntryId = 0 := hentry.unsent (by simp [toOrm, hp])
      rw [if_pos hid, ← hid, sent_eq, hunsent]
      omega
    · rw [if_neg hid]
      exact inv.budget id

/-- A save takes the entry from the pending ones, or leaves it with one attempt
more. -/
theorem draining_saved {table : OutboxTable} {s : OutboxSystem} {entry : OutboxEntryEntity}
    {rest : List OutboxEntryEntity} {before after : List Batch} (inv : Draining table s)
    (hl : s.batches = before ++ ⟨some entry, rest⟩ :: after)
    (haccounts : Accounts table { s with
      table := save s.table entry, batches := before ++ ⟨none, rest⟩ :: after }) :
    Draining table { s with
      table := save s.table entry, batches := before ++ ⟨none, rest⟩ :: after } := by
  obtain ⟨hbatch, -⟩ := forall_slots.mp (hl ▸ inv.accounts.exclusive.held)
  obtain ⟨row₀, hrow₀, hid₀, hp₀⟩ := hbatch.current entry rfl
  obtain ⟨hcurrent, hcurrents⟩ := forall_slots.mp (hl ▸ inv.current)
  obtain ⟨hfrozen, hretry⟩ := hcurrent entry rfl row₀ hrow₀ hid₀
  obtain ⟨-, hother⟩ := ids_ne inv.accounts.exclusive hl rfl
  constructor
  · exact haccounts
  · intro row hmem hpending
    rcases (s.table.mem_put_iff _ _).mp hmem with rfl | ⟨hmem, -⟩
    · obtain ⟨-, row₁, hrow₁, hp₁, hfrozen₁⟩ := inv.origin row₀ hrow₀ hp₀
      exact ⟨(hretry hpending).2, row₁, hrow₁, hp₁, hfrozen₁.trans hfrozen⟩
    · exact inv.origin row hmem hpending
  · refine forall_slots.mpr ⟨fun e he => by contradiction, ?_⟩
    intro b hb e he row hmem hid
    rcases (s.table.mem_put_iff _ _).mp hmem with rfl | ⟨hmem, -⟩
    · exact absurd hid.symm (hother b hb e (by simp [Batch.unsaved, Option.mem_def.mp he]))
    · exact hcurrents b hb e he row hmem hid
  · intro row hmem hpending
    have hlength : (before ++ ⟨none, rest⟩ :: after).length = s.batches.length := by simp [hl]
    rw [hlength]
    rcases (s.table.mem_put_iff _ _).mp hmem with rfl | ⟨hmem, hne⟩
    · left
      have hattempts : entry.attempts = row₀.attempts + 1 := (hretry hpending).1
      have hlevel : level table (toOrm entry) = level table row₀ + 1 := by
        have hdate : row₀.createdAt = (toOrm entry).createdAt :=
          congrArg OutboxEntryFrozen.createdAt hfrozen
        rw [level, level, ahead, ahead, hdate, show (toOrm entry).attempts = _ from hattempts]
        omega
      rcases inv.level row₀ hrow₀ hp₀ with hbound | ⟨hbound, -⟩
      · omega
      · omega
    · have hlevel := inv.level row hmem hpending
      have hne' : ¬ row.id = entry.outboxEntryId := hne
      simpa [unsaved, Batch.unsaved, hl, hne'] using hlevel
  · exact inv.budget

/-- **A step keeps the invariant**, whatever the call it makes ends with. -/
theorem draining_step {table : OutboxTable} (hdistinct : (pendingDates table).Nodup)
    (s : OutboxSystem) (a : Step) (s' : OutboxSystem) (inv : Draining table s)
    (hok : NonOverlapping s a ∧ Undisturbed a) (h : step s a = some s') : Draining table s' := by
  have haccounts : Accounts table s' :=
    accounts_step s a s' inv.accounts ⟨hok.1.exclusive, hok.2.saves⟩ h
  cases transition_of_step h with
  | appended ht => exact absurd hok.2 id
  | refused => exact inv
  | fetched hp => exact draining_fetched inv hdistinct hok.1 hp haccounts
  | unfetched => exact absurd rfl hok.2
  | sent hl => exact draining_sent inv hl haccounts
  | saved hl => exact draining_saved inv hl haccounts
  | dropped hl => exact absurd hok.2 (by simp [Undisturbed])

/-! ## Runs -/

/- The level of a pending row bounds the batches started so far, and the level itself is
bounded by the size of the table. -/

/-- **The outbox drains**: when the pending rows of a table have distinct dates
and attempts left, five times as many batches as it takes pages to hold them
leave no row pending, whatever the calls answer; and no entry is sent more often
than it had attempts left. -/
theorem outbox_drains {table : OutboxTable} {steps : List Step} {s : OutboxSystem}
    (hdistinct : (pendingDates table).Nodup)
    (hfew : ∀ row ∈ table.rows, row.status = .pending → row.attempts < MAX_ATTEMPTS)
    (hok : Along step (fun s a => NonOverlapping s a ∧ Undisturbed a) (init table) steps)
    (h : run (init table) steps = some s) (hdone : s.unsaved = [])
    (hruns : MAX_ATTEMPTS * (((pendingDates table).length + BATCH_SIZE - 1) / BATCH_SIZE) ≤
      started steps) :
    (∀ row ∈ s.table.rows, row.status = .processed ∨ row.status = .failed) ∧
      ∀ row ∈ table.rows, sent s.calls row.id ≤ MAX_ATTEMPTS - row.attempts := by
  have inv : Draining table s :=
    exec_invariant (draining_step hdistinct) (draining_init hfew) hok h
  constructor
  · intro row hrow
    have hsettled : row.status ≠ .pending := by
      intro hpending
      have hlevel : s.batches.length ≤ level table row := by
        rcases inv.level row hrow hpending with hlevel | ⟨-, hheld⟩
        · exact hlevel
        · rw [hdone] at hheld
          contradiction
      have hrank := rank_lt_length (inv.date_mem hrow hpending)
      have hbound : level table row < _ :=
        lt_rounds (w := BATCH_SIZE) (by decide) (inv.origin row hrow hpending).1 hrank
      have hstarted : s.batches.length = started steps := by
        rw [length_batches_of_run h]
        exact Nat.zero_add _
      omega
    cases hstatus : row.status with
    | pending => contradiction
    | processed => exact .inl rfl
    | failed => exact .inr rfl
  · intro row hrow
    have hbefore : attemptsBefore table row.id = row.attempts := by
      rw [attemptsBefore, table.find?_key hrow]
      rfl
    rcases inv.budget row.id with hnone | hbudget
    · omega
    · omega

/-- Five batches, in each of which the call for the entry fails. -/
def failingRun : List Step :=
  (List.range 5).flatMap fun i =>
    [.fetch (some [{ sampleRow with
       attempts := i, lastError := if i = 0 then none else some "fetch failed" }]),
     .ingest i 1716500005000 (some "fetch failed"), .save i true]

/-- An entry all of whose calls fail is given up after five batches. -/
theorem outbox_drains_failing :
    ∃ s, run (init sampleTable) failingRun = some s ∧
      (∀ row ∈ s.table.rows, row.status = .processed ∨ row.status = .failed) ∧
      ∀ row ∈ sampleTable.rows, sent s.calls row.id ≤ MAX_ATTEMPTS - row.attempts := by
  let given := { sampleRow with
    status := .failed, attempts := 5, lastError := some "fetch failed" }
  let s : OutboxSystem := ⟨⟨[given], List.nodup_singleton _⟩, List.replicate 5 ⟨none, []⟩,
    List.replicate 5 (callFor sampleRow (some "fetch failed"))⟩
  have hs : run (init sampleTable) failingRun = some s := by decide +kernel
  have hok : Along step (fun s a => NonOverlapping s a ∧ Undisturbed a) (init sampleTable)
      failingRun := by decide +kernel
  exact ⟨s, hs, outbox_drains (by decide) (by decide) hok hs rfl (by decide)⟩

end Atlas.OutboxSystem
