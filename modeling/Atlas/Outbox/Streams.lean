import Atlas.Outbox.Invariant

/-!
# Atlas.Outbox.Streams

The streams entries are sent to.

A stream id is the tenant and the event type with a dot between them, and event
types have dots of their own.  What keeps the streams of two tenants apart is
the tenant: no spelling of a `uuid` has a dot, so the tenant ends at the first
dot after the fixed part.
-/

namespace Atlas

/-- What stands before the first separator, and what stands after it, are
determined by the whole. -/
theorem append_separator_inj {α : Type} {sep : α} {xs xs' ys ys' : List α} (h : sep ∉ xs)
    (h' : sep ∉ xs') : xs ++ sep :: ys = xs' ++ sep :: ys' ↔ xs = xs' ∧ ys = ys' := by
  induction xs generalizing xs' with
  | nil =>
      cases xs' with
      | nil => simp
      | cons x' xs' =>
          have hne : sep ≠ x' := fun heq => h' (heq ▸ List.mem_cons_self)
          simp [hne]
  | cons x xs ih =>
      have hrest : sep ∉ xs := fun hmem => h (List.mem_cons_of_mem x hmem)
      cases xs' with
      | nil =>
          have hne : x ≠ sep := fun heq => h (heq ▸ List.mem_cons_self)
          simp [hne]
      | cons x' xs' =>
          have hrest' : sep ∉ xs' := fun hmem => h' (List.mem_cons_of_mem x' hmem)
          rw [List.cons_append, List.cons_append, List.cons.injEq, ih hrest hrest',
            List.cons.injEq, and_assoc]

/-- A tenant a `uuid` column accepts has no dot. -/
theorem dot_not_mem_of_uuid {s : String} (h : (Pg.uuid s).isSome) : '.' ∉ s.toList := by
  obtain ⟨t, ht⟩ := Option.isSome_iff_exists.mp h
  exact Pg.not_mem_of_uuid ht (by decide) (by decide)

theorem streamId_chars (entry : OutboxEntryEntity) : (ingestCommand entry).streamId.toList =
    "platform.".toList ++ (entry.tenantId.toList ++ '.' :: entry.eventType.toList) := by
  simp [ingestCommand, toString]

/-- **Streams of different tenants never coincide**: two entries go to the same
stream if and only if they have the same tenant and the same event type. -/
theorem streamId_eq_iff {entry entry' : OutboxEntryEntity}
    (h : (Pg.uuid entry.tenantId).isSome) (h' : (Pg.uuid entry'.tenantId).isSome) :
    (ingestCommand entry).streamId = (ingestCommand entry').streamId ↔
      entry.tenantId = entry'.tenantId ∧ entry.eventType = entry'.eventType := by
  have hdot : '.' ∉ entry.tenantId.toList := dot_not_mem_of_uuid h
  have hdot' : '.' ∉ entry'.tenantId.toList := dot_not_mem_of_uuid h'
  calc (ingestCommand entry).streamId = (ingestCommand entry').streamId
      ↔ (ingestCommand entry).streamId.toList = (ingestCommand entry').streamId.toList :=
        String.toList_inj.symm
    _ ↔ entry.tenantId.toList ++ '.' :: entry.eventType.toList =
          entry'.tenantId.toList ++ '.' :: entry'.eventType.toList := by
        rw [streamId_chars, streamId_chars, List.append_cancel_left_eq]
    _ ↔ entry.tenantId.toList = entry'.tenantId.toList ∧
          entry.eventType.toList = entry'.eventType.toList := append_separator_inj hdot hdot'
    _ ↔ entry.tenantId = entry'.tenantId ∧ entry.eventType = entry'.eventType := by
        rw [String.toList_inj, String.toList_inj]

/-- A tenant whose events have more dots does not reach the stream of another. -/
theorem streamId_eq_iff_sample :
    let entry := OutboxEntryEntity.create (Pg.uuidOf 2) 1716500000100 OutboxSystem.sampleParams
    (ingestCommand { entry with tenantId := Pg.uuidOf 5, eventType := "v2." ++ entry.eventType }).streamId =
        (ingestCommand entry).streamId ↔
      Pg.uuidOf 5 = entry.tenantId ∧ "v2." ++ entry.eventType = entry.eventType := by
  intro entry
  have hother : (Pg.uuid (Pg.uuidOf 5)).isSome := by
    rw [Pg.uuid_uuidOf]
    rfl
  have htenant : (Pg.uuid entry.tenantId).isSome := by
    have hsame : entry.tenantId = Pg.uuidOf 3 := rfl
    rw [hsame, Pg.uuid_uuidOf]
    rfl
  exact streamId_eq_iff hother htenant

end Atlas
