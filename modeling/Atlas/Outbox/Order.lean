import Atlas.Outbox.Exclusive

/-!
# Atlas.Outbox.Order

The order in which the entries of one stream are forwarded.

A page comes oldest first and a batch sends it in that order, so between two
entries of one stream that nothing has been sent for yet the older one goes
first (`Queued`).  Nothing holds the younger one back afterwards: when a call
fails the batch goes on to its next entry, and an entry may be inserted after
entries created later have been fetched.  `forwarded_in_order` says that these
two are the only ways an entry is overtaken.
-/

namespace Atlas.OutboxSystem

open StoreKit OutboxEntryRepository

/-- A batch is started only when every other one is done. -/
def NonOverlapping (s : OutboxSystem) : Step → Prop
  | .fetch _ => s.unsaved = []
  | _ => True

instance (s : OutboxSystem) : (a : Step) → Decidable (NonOverlapping s a)
  | .fetch _ => inferInstanceAs (Decidable (s.unsaved = []))
  | .append _ _ _ => .isTrue trivial
  | .ingest _ _ _ => .isTrue trivial
  | .save _ _ => .isTrue trivial

/-- Batches that follow one another fetch nothing that another one holds. -/
theorem NonOverlapping.exclusive {s : OutboxSystem} {a : Step} (h : NonOverlapping s a) :
    ExclusiveFetch s a := by
  cases a with
  | fetch page =>
      cases page with
      | none => trivial
      | some page =>
          intro row _ e he
          rw [show s.unsaved = [] from h] at he
          contradiction
  | _ => trivial

/-- The stream a row is forwarded to. -/
def streamId (row : OutboxEntryOrmEntity) : String := (ingestCommand (toDomain row)).streamId

/-- Two rows of one stream, and which of them was created first. -/
structure Precedes (r r' : OutboxEntryOrmEntity) : Prop where
  stream : streamId r = streamId r'
  created : r.createdAt < r'.createdAt

/-- The stream of an entry never changes. -/
theorem streamId_of_frozen {r r₀ : OutboxEntryOrmEntity} (h : r₀.frozen = r.frozen) :
    streamId r₀ = streamId r := by
  have htenant : r₀.tenantId = r.tenantId := congrArg OutboxEntryFrozen.tenantId h
  have htype : r₀.eventType = r.eventType := congrArg OutboxEntryFrozen.eventType h
  simp only [streamId, ingestCommand, toDomain, htenant, htype]

/-- The order of two rows is in their frozen parts. -/
theorem Precedes.of_frozen {r r' r₀ r₀' : OutboxEntryOrmEntity} (h : Precedes r r')
    (hr : r₀.frozen = r.frozen) (hr' : r₀'.frozen = r'.frozen) : Precedes r₀ r₀' where
  stream := by rw [streamId_of_frozen hr, streamId_of_frozen hr', h.stream]
  created := by
    have hcreated : r₀.createdAt = r.createdAt := congrArg OutboxEntryFrozen.createdAt hr
    have hcreated' : r₀'.createdAt = r'.createdAt := congrArg OutboxEntryFrozen.createdAt hr'
    rw [hcreated, hcreated']
    exact h.created

/-- An entry does not precede itself. -/
theorem Precedes.id_ne {table : OutboxTable} {r r' : OutboxEntryOrmEntity} (h : Precedes r r')
    (hr : r ∈ table.rows) (hr' : r' ∈ table.rows) : r.id ≠ r'.id := by
  intro hid
  have hcreated := h.created
  rw [table.eq_of_key_eq hr hr' hid] at hcreated
  exact absurd hcreated (Int.lt_irrefl _)

/-! ## The copies of a batch -/

/- A page comes oldest first and is sent from its head, so in one batch an older copy is
sent before a younger one. -/

/-- Batches send their copies oldest first, a copy that was sent has a call to
show for it, and calls are made for rows of the table. -/
structure Sequenced (s : OutboxSystem) : Prop where
  exclusive : ExclusiveInv s
  sorted : ∀ b ∈ s.batches, b.rest.Pairwise fun e e' => e.createdAt ≤ e'.createdAt
  stored : ∀ b ∈ s.batches, ∀ e ∈ b.current, ∃ row ∈ s.table.rows, row.frozen = (toOrm e).frozen
  called : ∀ b ∈ s.batches, ∀ e ∈ b.current, ∃ c ∈ s.calls, c.entryId = e.outboxEntryId
  known : ∀ c ∈ s.calls, c.entryId ∈ s.table.rows.map OutboxEntryOrmEntity.id

/-- In the beginning no batch is under way. -/
theorem sequenced_init (table : OutboxTable) : Sequenced (init table) where
  exclusive := exclusiveInv_init table
  sorted b hb := by simp [init] at hb
  stored b hb := by simp [init] at hb
  called b hb := by simp [init] at hb
  known c hc := by simp [init] at hc

/-- The keys of kept rows stay. -/
theorem Keeps.ids {table table' : OutboxTable} (h : Keeps table table') {id : String}
    (hid : id ∈ table.rows.map OutboxEntryOrmEntity.id) :
    id ∈ table'.rows.map OutboxEntryOrmEntity.id := by
  obtain ⟨row, hrow, rfl⟩ := List.mem_map.mp hid
  obtain ⟨row', hrow', hfrozen⟩ := h row hrow
  rw [← frozen_id hfrozen]
  exact List.mem_map_of_mem hrow'

/-- Where only rows are written, and no batch loses more than its current copy. -/
theorem Sequenced.kept {s s' : OutboxSystem} (inv : Sequenced s) (hexclusive : ExclusiveInv s')
    (hkeeps : Keeps s.table s'.table) (hcalls : s'.calls = s.calls)
    (hbatches : ∀ b ∈ s'.batches, ∃ b₀ ∈ s.batches, b.rest = b₀.rest ∧
      ∀ e ∈ b.current, e ∈ b₀.current) : Sequenced s' where
  exclusive := hexclusive
  sorted b hb := by
    obtain ⟨b₀, hb₀, hrest, -⟩ := hbatches b hb
    rw [hrest]
    exact inv.sorted b₀ hb₀
  stored b hb e he := by
    obtain ⟨b₀, hb₀, -, hcurrent⟩ := hbatches b hb
    obtain ⟨row, hrow, hfrozen⟩ := inv.stored b₀ hb₀ e (hcurrent e he)
    obtain ⟨row', hrow', hfrozen'⟩ := hkeeps row hrow
    exact ⟨row', hrow', hfrozen'.trans hfrozen⟩
  called b hb e he := by
    obtain ⟨b₀, hb₀, -, hcurrent⟩ := hbatches b hb
    rw [hcalls]
    exact inv.called b₀ hb₀ e (hcurrent e he)
  known c hc := by
    rw [hcalls] at hc
    exact hkeeps.ids (inv.known c hc)

/-- The batches after one of them has finished with its current copy. -/
theorem finished_batches {before after : List Batch} {rest : List OutboxEntryEntity}
    (entry : OutboxEntryEntity) :
    ∀ b ∈ before ++ ⟨none, rest⟩ :: after, ∃ b₀ ∈ before ++ ⟨some entry, rest⟩ :: after,
      b.rest = b₀.rest ∧ ∀ e ∈ b.current, e ∈ b₀.current := by
  refine forall_slots.mpr ⟨?_, ?_⟩
  · exact ⟨⟨some entry, rest⟩, List.mem_append_cons_self, rfl, fun e he => by contradiction⟩
  · intro b hb
    have hmem : b ∈ before ++ ⟨some entry, rest⟩ :: after := by
      rw [List.mem_append, List.mem_cons]
      exact (List.mem_append.mp hb).imp id .inr
    exact ⟨b, hmem, rfl, fun e he => he⟩

/-- A new batch that sends its copies oldest first. -/
theorem sequenced_fetched {s : OutboxSystem} {rest : List OutboxEntryEntity} (inv : Sequenced s)
    (hexclusive : ExclusiveInv { s with batches := s.batches ++ [⟨none, rest⟩] })
    (hsorted : rest.Pairwise fun e e' => e.createdAt ≤ e'.createdAt) :
    Sequenced { s with batches := s.batches ++ [⟨none, rest⟩] } where
  exclusive := hexclusive
  sorted := forall_joined.mpr ⟨inv.sorted, hsorted⟩
  stored := forall_joined.mpr ⟨inv.stored, fun e he => by contradiction⟩
  called := forall_joined.mpr ⟨inv.called, fun e he => by contradiction⟩
  known := inv.known

/-- A step goes on with the last batch, or starts one when it has come to its end. -/
theorem sequenced_step (s : OutboxSystem) (a : Step) (s' : OutboxSystem) (inv : Sequenced s)
    (hok : ExclusiveFetch s a) (h : step s a = some s') : Sequenced s' := by
  have hexclusive : ExclusiveInv s' := exclusiveInv_step s a s' inv.exclusive hok h
  cases transition_of_step h with
  | appended ht => exact inv.kept hexclusive (keeps_append ht) rfl fun b hb => ⟨b, hb, rfl, fun e he => he⟩
  | refused => exact inv
  | fetched hp => exact sequenced_fetched inv hexclusive (List.pairwise_map.mpr hp.sorted)
  | unfetched => exact sequenced_fetched inv hexclusive List.Pairwise.nil
  | @sent now error entry rest before after hl =>
      obtain ⟨hbatch, -⟩ := forall_slots.mp (hl ▸ inv.exclusive.held)
      obtain ⟨hrow, -⟩ := hbatch.rest entry List.mem_cons_self
      obtain ⟨hsorted, hsorteds⟩ := forall_slots.mp (hl ▸ inv.sorted)
      obtain ⟨-, hstoreds⟩ := forall_slots.mp (hl ▸ inv.stored)
      obtain ⟨-, hcalleds⟩ := forall_slots.mp (hl ▸ inv.called)
      constructor
      · exact hexclusive
      · exact forall_slots.mpr ⟨(List.pairwise_cons.mp hsorted).2, hsorteds⟩
      · refine forall_slots.mpr ⟨?_, hstoreds⟩
        intro e he
        obtain rfl := Option.mem_some_iff.mp he
        exact ⟨toOrm entry, hrow, by rw [frozen_settle]⟩
      · refine forall_slots.mpr ⟨?_, fun b hb e he => ?_⟩
        · intro e he
          obtain rfl := Option.mem_some_iff.mp he
          exact ⟨_, List.mem_append_right _ List.mem_cons_self, by simp⟩
        · obtain ⟨c, hc, hid⟩ := hcalleds b hb e he
          exact ⟨c, List.mem_append_left _ hc, hid⟩
      · refine forall_joined.mpr ⟨inv.known, ?_⟩
        exact List.mem_map_of_mem (f := OutboxEntryOrmEntity.id) hrow
  | @saved entry rest before after hl =>
      obtain ⟨hstored, -⟩ := forall_slots.mp (hl ▸ inv.stored)
      apply inv.kept hexclusive (keeps_save (hstored entry rfl)) rfl
      rw [hl]
      exact finished_batches entry
  | @dropped entry rest before after hl =>
      apply inv.kept hexclusive (keeps_refl _) rfl
      rw [hl]
      exact finished_batches entry

/-! ## Two entries of one stream -/

/- `Ordered` is what is to be shown.  It needs `Queued` of the batch under way, and that
needs `Ahead` not to hold: that the younger entry was fetched when the older one was in
the table. -/

/-- Rows stored under two ids, the first of which precedes the second. -/
structure Pair (table : OutboxTable) (first second : String) (r r' : OutboxEntryOrmEntity) :
    Prop where
  mem : r ∈ table.rows
  mem' : r' ∈ table.rows
  id : r.id = first
  id' : r'.id = second
  precedes : Precedes r r'

variable {first second : String} {r r' : OutboxEntryOrmEntity}

/-- A pair was there before a row was inserted, or the row is one of the two. -/
theorem Pair.of_append {table table' : OutboxTable} {row : OutboxEntryOrmEntity}
    (hrows : table'.rows = table.rows ++ [row]) (h : Pair table' first second r r') :
    Pair table first second r r' ∨ row.id = first ∨ row.id = second := by
  obtain ⟨hr, hr', rfl, rfl, hprecedes⟩ := h
  rw [hrows, List.mem_append, List.mem_singleton] at hr hr'
  rcases hr with hr | rfl
  · rcases hr' with hr' | rfl
    · exact .inl ⟨hr, hr', rfl, rfl, hprecedes⟩
    · exact .inr (.inr rfl)
  · exact .inr (.inl rfl)

/-- A pair was there before a copy was saved, though one of its rows may have
been another version. -/
theorem Pair.of_save {table : OutboxTable} {entry : OutboxEntryEntity}
    (hstored : ∃ row ∈ table.rows, row.frozen = (toOrm entry).frozen)
    (h : Pair (save table entry) first second r r') :
    ∃ r₀ r₀', Pair table first second r₀ r₀' ∧ (first ≠ entry.outboxEntryId → r₀ = r) := by
  have hversion : ∀ x ∈ (save table entry).rows, ∃ x₀ ∈ table.rows, x₀.frozen = x.frozen ∧
      (x.id ≠ entry.outboxEntryId → x₀ = x) := by
    intro x hx
    rcases (table.mem_put_iff _ _).mp hx with rfl | ⟨hx, -⟩
    · obtain ⟨row, hrow, hfrozen⟩ := hstored
      exact ⟨row, hrow, hfrozen, fun hne => absurd rfl hne⟩
    · exact ⟨x, hx, rfl, fun _ => rfl⟩
  obtain ⟨hr, hr', rfl, rfl, hprecedes⟩ := h
  obtain ⟨r₀, hr₀, hfrozen, hsame⟩ := hversion r hr
  obtain ⟨r₀', hr₀', hfrozen', -⟩ := hversion r' hr'
  exact ⟨r₀, r₀', ⟨hr₀, hr₀', frozen_id hfrozen, frozen_id hfrozen',
    hprecedes.of_frozen hfrozen hfrozen'⟩, hsame⟩

/-- The entry has been accepted, or a batch holds a copy of it. -/
def Reached (s : OutboxSystem) (id : String) : Prop :=
  0 < accepted s.calls id ∨ ∃ e ∈ s.unsaved, e.outboxEntryId = id

/-- The second entry is on its way, and the first one is not in the table yet. -/
def Ahead (first second : String) (s : OutboxSystem) : Prop :=
  first ∉ s.table.rows.map OutboxEntryOrmEntity.id ∧ Reached s second

/-- A batch that has the second entry still to send has the first one still to
send, as long as the first one is pending and nothing has been sent for it. -/
def Queued (first second : String) (s : OutboxSystem) : Prop :=
  ∀ r r', Pair s.table first second r r' → r.status = .pending →
    (∀ c ∈ s.calls, c.entryId ≠ first) →
    ∀ b ∈ s.batches, second ∈ b.rest.map OutboxEntryEntity.outboxEntryId →
      first ∈ b.rest.map OutboxEntryEntity.outboxEntryId

/-- A page with the second entry has the first one, as long as it is pending. -/
theorem queued_fetched {s : OutboxSystem} {page : List OutboxEntryOrmEntity}
    (hqueued : Queued first second s) (hp : FindPending s.table BATCH_SIZE page) :
    Queued first second { s with batches := s.batches ++ [⟨none, page.map toDomain⟩] } := by
  intro r r' hpair hpending hnone
  refine forall_joined.mpr ⟨hqueued r r' hpair hpending hnone, fun hsecond => ?_⟩
  have hids : (page.map toDomain).map OutboxEntryEntity.outboxEntryId =
      page.map OutboxEntryOrmEntity.id := by
    simp [Function.comp_def]
  rw [hids] at hsecond ⊢
  obtain ⟨p, hpage, hid⟩ := List.mem_map.mp hsecond
  obtain ⟨hmem, -⟩ := hp.pending p hpage
  have hsame : p = r' := s.table.eq_of_key_eq hmem hpair.mem' (hid.trans hpair.id'.symm)
  -- the page is cut behind the oldest rows, and `r` is older than `r'`
  have hr : r ∈ page := by
    by_contra hout
    have hold := hp.oldest r hpair.mem hpending hout p hpage
    have hcreated := hpair.precedes.created
    rw [hsame] at hold
    exact absurd hold (Int.not_le.mpr hcreated)
  rw [← hpair.id]
  exact List.mem_map_of_mem hr

/-- A step leaves the first entry to be sent wherever the second one is. -/
theorem queued_step (s : OutboxSystem) (a : Step) (s' : OutboxSystem) (inv : Sequenced s)
    (hqueued : Queued first second s) (hahead : ¬ Ahead first second s)
    (h : step s a = some s') : Queued first second s' := by
  cases transition_of_step h with
  | appended ht =>
      obtain ⟨row, -, hrows, hnew⟩ := append_cases ht
      intro r r' hpair hpending hnone b hb hsecond
      obtain ⟨e, he, hid⟩ := List.mem_map.mp hsecond
      rcases hpair.of_append hrows with hold | rfl | rfl
      · exact hqueued r r' hold hpending hnone b hb hsecond
      · have hunsaved : e ∈ s.unsaved := by
          apply List.mem_flatMap.mpr
          exact ⟨b, hb, by simp [Batch.unsaved, he]⟩
        exact absurd ⟨hnew, .inr ⟨e, hunsaved, hid⟩⟩ hahead
      · obtain ⟨hrow, -⟩ := (inv.exclusive.held b hb).rest e he
        rw [← hid] at hnew
        exact absurd (List.mem_map_of_mem (f := OutboxEntryOrmEntity.id) hrow) hnew
  | refused => exact hqueued
  | fetched hp => exact queued_fetched hqueued hp
  | unfetched =>
      intro r r' hpair hpending hnone
      refine forall_joined.mpr ⟨hqueued r r' hpair hpending hnone, fun hsecond => ?_⟩
      contradiction
  | @sent now error entry rest before after hl =>
      intro r r' hpair hpending hnone
      obtain ⟨hnone, hentry⟩ := forall_joined.mp hnone
      have hold := hqueued r r' hpair hpending hnone
      rw [hl] at hold
      obtain ⟨hbatch, hothers⟩ := forall_slots.mp hold
      refine forall_slots.mpr ⟨fun hsecond => ?_, hothers⟩
      rcases List.mem_cons.mp (hbatch (List.mem_cons_of_mem _ hsecond)) with hfirst | hfirst
      · exact absurd hfirst.symm hentry
      · exact hfirst
  | @saved entry rest before after hl =>
      obtain ⟨hstored, -⟩ := forall_slots.mp (hl ▸ inv.stored)
      obtain ⟨hcalled, -⟩ := forall_slots.mp (hl ▸ inv.called)
      intro r r' hpair hpending hnone b hb
      obtain ⟨c, hc, hid⟩ := hcalled entry rfl
      obtain ⟨r₀, r₀', hpair₀, hsame⟩ := hpair.of_save (hstored entry rfl)
      obtain rfl := hsame fun hfirst => hnone c hc (hid.trans hfirst.symm)
      obtain ⟨b₀, hb₀, hrest, -⟩ := finished_batches entry b hb
      rw [hrest]
      exact hqueued r₀ r₀' hpair₀ hpending hnone b₀ (hl ▸ hb₀)
  | @dropped entry rest before after hl =>
      intro r r' hpair hpending hnone b hb
      obtain ⟨b₀, hb₀, hrest, -⟩ := finished_batches entry b hb
      rw [hrest]
      exact hqueued r r' hpair hpending hnone b₀ (hl ▸ hb₀)

/-- When the second entry is accepted something has been sent for the first
one, or nothing is sent for it at all. -/
def Ordered (first second : String) (s : OutboxSystem) : Prop :=
  ∀ r r', Pair s.table first second r r' →
    ∀ before c after, s.calls = before ++ c :: after → c.entryId = second → c.error = none →
      (∃ c' ∈ before, c'.entryId = first) ∨
        r.status ≠ .pending ∧ ∀ c' ∈ s.calls, c'.entryId ≠ first

/-- A call in a list that one call joins is that call, or it was there before. -/
theorem split_joined {calls before after : List IngestCall} {c c' : IngestCall}
    (h : calls ++ [c'] = before ++ c :: after) :
    (calls = before ∧ c' = c) ∨ ∃ after', calls = before ++ c :: after' := by
  rcases List.eq_nil_or_concat after with rfl | ⟨after', x, rfl⟩
  · obtain ⟨hcalls, hc⟩ := List.append_inj' h rfl
    exact .inl ⟨hcalls, by simpa using hc⟩
  · rw [List.concat_eq_append, ← List.cons_append, ← List.append_assoc] at h
    exact .inr ⟨after', (List.append_inj' h rfl).1⟩

/-- When a batch comes to the second entry and nothing has been sent for the first
one, nothing will be: a pending first entry would be in front of the second. -/
theorem first_not_pending (inv : Sequenced s) (hqueued : Queued first second s)
    {entry : OutboxEntryEntity} {rest : List OutboxEntryEntity} {before after : List Batch}
    (hl : s.batches = before ++ ⟨none, entry :: rest⟩ :: after) {r r' : OutboxEntryOrmEntity}
    (hpair : Pair s.table first second r r') (hsecond : entry.outboxEntryId = second)
    (hcalled : ∀ c ∈ s.calls, c.entryId ≠ first) : r.status ≠ .pending := by
  obtain ⟨hbatch, -⟩ := forall_slots.mp (hl ▸ inv.exclusive.held)
  obtain ⟨hrow, -⟩ := hbatch.rest entry List.mem_cons_self
  obtain ⟨hsorted, -⟩ := forall_slots.mp (hl ▸ inv.sorted)
  have hsame : toOrm entry = r' :=
    s.table.eq_of_key_eq hrow hpair.mem' (hsecond.trans hpair.id'.symm)
  intro hpending
  have hqueue := hqueued r r' hpair hpending hcalled
  rw [hl] at hqueue
  have hfirst := (forall_slots.mp hqueue).1 (by simp [hsecond])
  rcases List.mem_cons.mp hfirst with hfirst | hfirst
  · apply hpair.precedes.id_ne hpair.mem hpair.mem'
    rw [hpair.id, hpair.id', ← hsecond, hfirst]
  · obtain ⟨e, he, hfirst⟩ := List.mem_map.mp hfirst
    obtain ⟨hrow', -⟩ := hbatch.rest e (List.mem_cons_of_mem _ he)
    have hsame' : toOrm e = r :=
      s.table.eq_of_key_eq hrow' hpair.mem (hfirst.trans hpair.id.symm)
    have hle : (toOrm entry).createdAt ≤ (toOrm e).createdAt :=
      (List.pairwise_cons.mp hsorted).1 e he
    have hcreated := hpair.precedes.created
    rw [hsame, hsame'] at hle
    exact absurd hle (Int.not_le.mpr hcreated)

/-- **A step keeps the order** of the two entries. -/
theorem ordered_step (s : OutboxSystem) (a : Step) (s' : OutboxSystem) (inv : Sequenced s)
    (hqueued : Queued first second s) (hordered : Ordered first second s)
    (hahead : ¬ Ahead first second s) (h : step s a = some s') : Ordered first second s' := by
  cases transition_of_step h with
  | appended ht =>
      obtain ⟨row, -, hrows, hnew⟩ := append_cases ht
      intro r r' hpair before c after hcalls hid herror
      have hmem : c ∈ s.calls := by
        rw [show s.calls = _ from hcalls]
        exact List.mem_append_cons_self
      rcases hpair.of_append hrows with hold | rfl | rfl
      · exact hordered r r' hold before c after hcalls hid herror
      · have haccepted : 0 < accepted s.calls second :=
          List.countP_pos_iff.mpr ⟨c, hmem, by simp [hid, herror]⟩
        exact absurd ⟨hnew, .inl haccepted⟩ hahead
      · exact absurd (hid ▸ inv.known c hmem) hnew
  | refused => exact hordered
  | fetched hp => exact hordered
  | unfetched => exact hordered
  | @sent now error entry rest before after hl =>
      obtain ⟨hbatch, -⟩ := forall_slots.mp (hl ▸ inv.exclusive.held)
      obtain ⟨hrow, hp⟩ := hbatch.rest entry List.mem_cons_self
      intro r r' hpair bef c aft hcalls hid herror
      rcases split_joined hcalls with ⟨hbef, hc⟩ | ⟨aft', hcalls'⟩
      · -- the second entry is accepted now
        subst hbef
        by_cases hcalled : ∃ c' ∈ s.calls, c'.entryId = first
        · exact .inl hcalled
        · push Not at hcalled
          have hsecond : entry.outboxEntryId = second := by rw [← hid, ← hc]
          have hne : entry.outboxEntryId ≠ first := by
            rw [hsecond, ← hpair.id, ← hpair.id']
            exact (hpair.precedes.id_ne hpair.mem hpair.mem').symm
          exact .inr ⟨first_not_pending inv hqueued hl hpair hsecond hcalled,
            forall_joined.mpr ⟨hcalled, hne⟩⟩
      · rcases hordered r r' hpair bef c aft' hcalls' hid herror with hsent | ⟨hstatus, hnone⟩
        · exact .inl hsent
        · refine .inr ⟨hstatus, forall_joined.mpr ⟨hnone, fun hfirst => hstatus ?_⟩⟩
          have hsame : toOrm entry = r :=
            s.table.eq_of_key_eq hrow hpair.mem (hfirst.trans hpair.id.symm)
          rw [← hsame]
          exact hp
  | @saved entry rest before after hl =>
      obtain ⟨hstored, -⟩ := forall_slots.mp (hl ▸ inv.stored)
      obtain ⟨hbatch, -⟩ := forall_slots.mp (hl ▸ inv.exclusive.held)
      intro r r' hpair bef c aft hcalls hid herror
      obtain ⟨r₀, r₀', hpair₀, hsame⟩ := hpair.of_save (hstored entry rfl)
      rcases hordered r₀ r₀' hpair₀ bef c aft hcalls hid herror with hsent | ⟨hstatus, hnone⟩
      · exact .inl hsent
      · obtain rfl : r₀ = r := by
          apply hsame
          intro hfirst
          obtain ⟨row, hrow, hid', hp⟩ := hbatch.current entry rfl
          have hrow₀ : row = r₀ := s.table.eq_of_key_eq hrow hpair₀.mem
            (hid'.trans (hfirst.symm.trans hpair₀.id.symm))
          exact hstatus (hrow₀ ▸ hp)
        exact .inr ⟨hstatus, hnone⟩
  | dropped hl => exact hordered

/-! ## Runs -/

/- `exec_invariant` lifts the step to runs.  That the second entry is ahead in some state
on the way is the third case of the theorem; where it never is, the invariant gives the
first two. -/

/-- What a run keeps of two entries as long as the second one is not ahead. -/
structure OrderInv (first second : String) (s : OutboxSystem) : Prop where
  sequenced : Sequenced s
  queued : Queued first second s
  ordered : Ordered first second s

/-- In the beginning nothing has been sent. -/
theorem orderInv_init (table : OutboxTable) : OrderInv first second (init table) where
  sequenced := sequenced_init table
  queued r r' _ _ _ b hb := by simp [init] at hb
  ordered r r' _ before c after hcalls := by simp [init] at hcalls

/-- The three invariants are kept together. -/
theorem orderInv_step (s : OutboxSystem) (a : Step) (s' : OutboxSystem)
    (inv : OrderInv first second s) (hok : NonOverlapping s a ∧ ¬ Ahead first second s)
    (h : step s a = some s') : OrderInv first second s' where
  sequenced := sequenced_step s a s' inv.sequenced hok.1.exclusive h
  queued := queued_step s a s' inv.sequenced inv.queued hok.2 h
  ordered := ordered_step s a s' inv.sequenced inv.queued inv.ordered hok.2 h

/-- **The order within a stream**, in every run of batches that do not overlap,
with inserts at any time and any outcome of the calls and saves: of two accepted
entries of one stream the one created earlier is accepted first, unless a call
for it had failed by the time the other one was accepted, or it was inserted
only after the other one had been fetched. -/
theorem forwarded_in_order {table : OutboxTable} {steps : List Step} {s : OutboxSystem}
    (hok : Along step NonOverlapping (init table) steps) (h : run (init table) steps = some s)
    {earlier later : OutboxEntryOrmEntity} (hearlier : earlier ∈ s.table.rows)
    (hlater : later ∈ s.table.rows) (hprecedes : Precedes earlier later)
    (hboth : 0 < accepted s.calls earlier.id) {before after : List IngestCall} {c : IngestCall}
    (hcalls : s.calls = before ++ c :: after) (hc : c.entryId = later.id ∧ c.error = none) :
    0 < accepted before earlier.id ∨ 0 < failures before earlier.id ∨
      ∃ steps₁ steps₂ m, steps = steps₁ ++ steps₂ ∧ run (init table) steps₁ = some m ∧
        Ahead earlier.id later.id m := by
  by_cases hahead : ∃ steps₁ steps₂ m, steps = steps₁ ++ steps₂ ∧
      run (init table) steps₁ = some m ∧ Ahead earlier.id later.id m
  · exact .inr (.inr hahead)
  · have hnever : Along step (fun m _ => ¬ Ahead earlier.id later.id m) (init table) steps := by
      apply along_of_prefixes
      intro steps₁ a steps₂ m hsteps hm hahead'
      exact hahead ⟨steps₁, a :: steps₂, m, hsteps, hm, hahead'⟩
    have inv : OrderInv earlier.id later.id s :=
      exec_invariant orderInv_step (orderInv_init table) (along_and hok hnever) h
    have hpair : Pair s.table earlier.id later.id earlier later :=
      ⟨hearlier, hlater, rfl, rfl, hprecedes⟩
    rcases inv.ordered earlier later hpair before c after hcalls hc.1 hc.2 with
      ⟨c', hmem, hid⟩ | ⟨-, hnone⟩
    · cases herror : c'.error with
      | none => exact .inl (List.countP_pos_iff.mpr ⟨c', hmem, by simp [hid, herror]⟩)
      | some message =>
          exact .inr (.inl (List.countP_pos_iff.mpr ⟨c', hmem, by simp [hid, herror]⟩))
    · obtain ⟨c', hmem, hid⟩ := List.countP_pos_iff.mp hboth
      exact absurd (of_decide_eq_true hid).1 (hnone c' hmem)

/-- Another event of the stream of `sampleRow`, a tenth of a second younger. -/
def laterRow : OutboxEntryOrmEntity :=
  { sampleRow with
    id := Pg.uuidOf 5, eventId := Pg.uuidOf 6, correlationId := Pg.uuidOf 7
    createdAt := 1716500000200 }

def streamTable : OutboxTable := ⟨[sampleRow, laterRow], by decide⟩

/-- The call for a row. -/
def callFor (row : OutboxEntryOrmEntity) (error : Option String) : IngestCall :=
  ⟨row.id, ingestCommand (toDomain row), error⟩

/-- One batch forwards both entries. -/
def forwardedBoth : List Step :=
  [.fetch (some [sampleRow, laterRow]), .ingest 0 1716500005000 none, .save 0 true,
   .ingest 0 1716500005100 none, .save 0 true]

theorem forwarded_in_order_both :
    ∃ s, run (init streamTable) forwardedBoth = some s ∧
      ∃ earlier later : OutboxEntryOrmEntity, Precedes earlier later ∧
        (0 < accepted [callFor sampleRow none] earlier.id ∨
          0 < failures [callFor sampleRow none] earlier.id ∨
          ∃ steps₁ steps₂ m, forwardedBoth = steps₁ ++ steps₂ ∧
            run (init streamTable) steps₁ = some m ∧ Ahead earlier.id later.id m) := by
  let earlier := { sampleRow with status := .processed, processedAt := some 1716500005000 }
  let later := { laterRow with status := .processed, processedAt := some 1716500005100 }
  let s : OutboxSystem := ⟨⟨[earlier, later], streamTable.nodup⟩, [⟨none, []⟩],
    [callFor sampleRow none, callFor laterRow none]⟩
  have hs : run (init streamTable) forwardedBoth = some s := by decide +kernel
  have hok : Along step NonOverlapping (init streamTable) forwardedBoth := by decide +kernel
  have hearlier : earlier ∈ s.table.rows := List.mem_cons_self
  have hlater : later ∈ s.table.rows := List.mem_cons_of_mem _ List.mem_cons_self
  have hprecedes : Precedes earlier later := ⟨rfl, by decide⟩
  have hboth : 0 < accepted s.calls earlier.id := by decide +kernel
  have hcalls : s.calls = [callFor sampleRow none] ++ callFor laterRow none :: [] := rfl
  exact ⟨s, hs, earlier, later, hprecedes,
    forwarded_in_order hok hs hearlier hlater hprecedes hboth hcalls ⟨rfl, rfl⟩⟩

/-- Of two accepted entries of one stream the one created earlier is accepted
first. -/
def InOrder (s : OutboxSystem) : Prop :=
  ∀ earlier ∈ s.table.rows, ∀ later ∈ s.table.rows, Precedes earlier later →
    0 < accepted s.calls earlier.id → ∀ before c after, s.calls = before ++ c :: after →
      c.entryId = later.id → c.error = none → 0 < accepted before earlier.id

/-- The call for the first entry fails, the batch goes on to the second one,
and the next batch forwards the first. -/
def overtaken : List Step :=
  [.fetch (some [sampleRow, laterRow]), .ingest 0 1716500005000 (some "fetch failed"),
   .save 0 true, .ingest 0 1716500005100 none, .save 0 true,
   .fetch (some [{ sampleRow with attempts := 1, lastError := some "fetch failed" }]),
   .ingest 1 1716500010000 none, .save 1 true]

/-- A failed call lets the next entry of the stream overtake. -/
theorem failed_call_overtaken :
    ¬ ∀ (table : OutboxTable) (steps : List Step) (s : OutboxSystem),
      Along step (fun s a => NonOverlapping s a ∧ SaveSucceeds a) (init table) steps →
      run (init table) steps = some s → InOrder s := by
  intro hclaim
  let earlier := { sampleRow with
    status := .processed, attempts := 1, lastError := some "fetch failed"
    processedAt := some 1716500010000 }
  let later := { laterRow with status := .processed, processedAt := some 1716500005100 }
  let calls := [callFor sampleRow (some "fetch failed"), callFor laterRow none,
    callFor sampleRow none]
  let s : OutboxSystem :=
    ⟨⟨[earlier, later], streamTable.nodup⟩, [⟨none, []⟩, ⟨none, []⟩], calls⟩
  have hs : run (init streamTable) overtaken = some s := by decide +kernel
  have hok : Along step (fun s a => NonOverlapping s a ∧ SaveSucceeds a) (init streamTable)
      overtaken := by decide +kernel
  have hearlier : earlier ∈ s.table.rows := List.mem_cons_self
  have hlater : later ∈ s.table.rows := List.mem_cons_of_mem _ List.mem_cons_self
  have hboth : 0 < accepted s.calls earlier.id := by decide +kernel
  have hfirst := hclaim streamTable overtaken s hok hs earlier hearlier later hlater
    ⟨rfl, by decide⟩ hboth [_] _ [_] rfl rfl rfl
  exact absurd hfirst (by decide +kernel)

/-- The younger entry is forwarded before the older one is inserted. -/
def insertedLate : List Step :=
  [.fetch (some [laterRow]), .ingest 0 1716500005000 none, .save 0 true,
   .append (Pg.uuidOf 2) 1716500000100 sampleParams, .fetch (some [sampleRow]),
   .ingest 1 1716500010000 none, .save 1 true]

/-- An entry is overtaken although no call fails. -/
theorem late_insert_overtaken :
    ¬ ∀ (table : OutboxTable) (steps : List Step) (s : OutboxSystem),
      Along step (fun s a => NonOverlapping s a ∧ SaveSucceeds a) (init table) steps →
      run (init table) steps = some s → (∀ c ∈ s.calls, c.error = none) → InOrder s := by
  intro hclaim
  let table : OutboxTable := ⟨[laterRow], List.nodup_singleton _⟩
  let earlier := { sampleRow with status := .processed, processedAt := some 1716500010000 }
  let later := { laterRow with status := .processed, processedAt := some 1716500005000 }
  let s : OutboxSystem := ⟨⟨[later, earlier], by decide⟩, [⟨none, []⟩, ⟨none, []⟩],
    [callFor laterRow none, callFor sampleRow none]⟩
  have hs : run (init table) insertedLate = some s := by decide +kernel
  have hok : Along step (fun s a => NonOverlapping s a ∧ SaveSucceeds a) (init table)
      insertedLate := by decide +kernel
  have hlater : later ∈ s.table.rows := List.mem_cons_self
  have hearlier : earlier ∈ s.table.rows := List.mem_cons_of_mem _ List.mem_cons_self
  have hboth : 0 < accepted s.calls earlier.id := by decide +kernel
  have hfirst := hclaim table insertedLate s hok hs (by decide +kernel) earlier hearlier later
    hlater ⟨rfl, by decide⟩ hboth [] _ [_] rfl rfl rfl
  exact absurd hfirst (by decide)

end Atlas.OutboxSystem
