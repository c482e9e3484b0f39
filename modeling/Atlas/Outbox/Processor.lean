import Atlas.Outbox.Entry
import Atlas.Lib.Run
import Atlas.Lib.Slots

/-!
# Atlas.Outbox.Processor

`OutboxProcessorService` as a system of batches.

`processBatch` is started every five seconds without waiting for the previous
run, and by every instance of the service, so any number of batches can be
under way.  A batch fetches its entries once and then, entry by entry, calls
`ingest` and saves its own in-memory copy.  The steps of different batches
interleave in any order; how the fetch, the ingest call and the save end is
part of the step's label.  `calls` records the ingest calls made and decides
nothing.
-/

namespace Atlas

open StoreKit

def BATCH_SIZE : Nat := 50
def MAX_ATTEMPTS : Nat := 5

/-- The argument of `EventStreamingHttpClient.ingest`. -/
structure IngestCommand where
  streamId : String
  type : String
  source : String
  payload : JsonObject
  metadata : Option (List (String × String))
  correlationId : String
  actorId : Option String
  causationId : Option String
  traceId : Option String
  sourceVersion : Option String
  eventVersion : Option Js.Double
deriving DecidableEq

/-- What `processBatch` sends for an entry. -/
def ingestCommand (entry : OutboxEntryEntity) : IngestCommand where
  streamId := s!"platform.{entry.tenantId}.{entry.eventType}"
  type := entry.eventType
  source := entry.sourceService
  payload := entry.payload
  correlationId := entry.correlationId
  actorId := entry.actorId
  causationId := entry.causationId
  traceId := entry.traceId
  sourceVersion := entry.sourceVersion
  eventVersion := some entry.eventVersion
  metadata := some [("event_id", entry.eventId), ("tenant_id", entry.tenantId)]

/-- The entry after its ingest call, which failed with `error` if there is one. -/
def settle (entry : OutboxEntryEntity) (now : Js.Date) (error : Option String) :
    OutboxEntryEntity :=
  match error with
  | none => entry.markProcessed now
  | some message => entry.recordAttemptFailure message MAX_ATTEMPTS

/-! ## The system -/

/-- A run of `processBatch`: the copy whose ingest call is over but which is not
saved yet, and the copies still to be sent. -/
structure Batch where
  current : Option OutboxEntryEntity
  rest : List OutboxEntryEntity
deriving DecidableEq

/-- The copies a batch has still to save. -/
def Batch.unsaved (b : Batch) : List OutboxEntryEntity := b.current.toList ++ b.rest

/-- The ids of the copies a batch has still to save. -/
def Batch.unsavedIds (b : Batch) : List String :=
  b.unsaved.map OutboxEntryEntity.outboxEntryId

/-- A call of `ingest`, and the error it failed with, if it did. -/
structure IngestCall where
  entryId : String
  command : IngestCommand
  error : Option String
deriving DecidableEq

structure OutboxSystem where
  table : OutboxTable
  batches : List Batch
  calls : List IngestCall
deriving DecidableEq

namespace OutboxSystem

/-- Before any batch is started. -/
def init (table : OutboxTable) : OutboxSystem := ⟨table, [], []⟩

/-- The copies some batch has still to save. -/
def unsaved (s : OutboxSystem) : List OutboxEntryEntity := s.batches.flatMap Batch.unsaved

inductive Step where
  /-- An entry is created and inserted. -/
  | append (generateId : String) (now : Js.Date) (params : OutboxEntryParams)
  /-- A batch starts: `findPending` answers a page, or rejects. -/
  | fetch (page : Option (List OutboxEntryOrmEntity))
  /-- Batch number `i` sends its next entry. -/
  | ingest (i : Nat) (now : Js.Date) (error : Option String)
  /-- Batch number `i` saves the entry it has just sent; a rejected save is
  logged and the copy dropped. -/
  | save (i : Nat) (ok : Bool)
deriving DecidableEq

/-- One step.  An insert the database refuses is logged by the caller and
changes nothing. -/
def step (s : OutboxSystem) : Step → Option OutboxSystem
  | .append generateId now params =>
      match OutboxEntryRepository.append s.table (.create generateId now params) with
      | some table => some { s with table }
      | none => some s
  | .fetch none => some { s with batches := s.batches ++ [⟨none, []⟩] }
  | .fetch (some page) =>
      if OutboxEntryRepository.FindPending s.table BATCH_SIZE page then
        some { s with
          batches := s.batches ++ [⟨none, page.map OutboxEntryRepository.toDomain⟩] }
      else none
  | .ingest i now error =>
      match s.batches[i]? with
      | some ⟨none, entry :: rest⟩ =>
        some { s with
          batches := s.batches.set i ⟨some (settle entry now error), rest⟩
          calls := s.calls ++ [⟨entry.outboxEntryId, ingestCommand entry, error⟩] }
      | _ => none
  | .save i ok =>
      match s.batches[i]? with
      | some ⟨some entry, rest⟩ =>
        some { s with
          table := if ok then OutboxEntryRepository.save s.table entry else s.table
          batches := s.batches.set i ⟨none, rest⟩ }
      | _ => none

/-- The states a run of steps leads to. -/
abbrev run (s : OutboxSystem) (steps : List Step) : Option OutboxSystem := exec step s steps

/-! ## What a step does -/

/-- A step, guards included, with the batch that moved taken out of the list. -/
inductive Transition (s : OutboxSystem) : Step → OutboxSystem → Prop
  | appended {generateId now params table}
      (h : OutboxEntryRepository.append s.table (.create generateId now params) = some table) :
      Transition s (.append generateId now params) { s with table }
  | refused {generateId now params} : Transition s (.append generateId now params) s
  | fetched {page} (h : OutboxEntryRepository.FindPending s.table BATCH_SIZE page) :
      Transition s (.fetch (some page))
        { s with batches := s.batches ++ [⟨none, page.map OutboxEntryRepository.toDomain⟩] }
  | unfetched : Transition s (.fetch none) { s with batches := s.batches ++ [⟨none, []⟩] }
  | sent {now error entry rest} {before after : List Batch}
      (h : s.batches = before ++ ⟨none, entry :: rest⟩ :: after) :
      Transition s (.ingest before.length now error)
        { s with
          batches := before ++ ⟨some (settle entry now error), rest⟩ :: after
          calls := s.calls ++ [⟨entry.outboxEntryId, ingestCommand entry, error⟩] }
  | saved {entry rest} {before after : List Batch}
      (h : s.batches = before ++ ⟨some entry, rest⟩ :: after) :
      Transition s (.save before.length true)
        { s with
          table := OutboxEntryRepository.save s.table entry
          batches := before ++ ⟨none, rest⟩ :: after }
  | dropped {entry rest} {before after : List Batch}
      (h : s.batches = before ++ ⟨some entry, rest⟩ :: after) :
      Transition s (.save before.length false)
        { s with batches := before ++ ⟨none, rest⟩ :: after }

/-- A step is one of the transitions, and what it needs was there. -/
theorem transition_of_step {s s' : OutboxSystem} {a : Step} (h : step s a = some s') :
    Transition s a s' := by
  cases a with
  | append generateId now params =>
      simp only [step] at h
      split at h
      · next table ht =>
          obtain rfl := Option.some.inj h
          exact .appended ht
      · obtain rfl := Option.some.inj h
        exact .refused
  | fetch page =>
      cases page with
      | none =>
          obtain rfl := Option.some.inj h
          exact .unfetched
      | some page =>
          simp only [step] at h
          split at h
          · next hp =>
              obtain rfl := Option.some.inj h
              exact .fetched hp
          · contradiction
  | ingest i now error =>
      simp only [step] at h
      split at h
      · next entry rest hb =>
          obtain ⟨before, after, hl, rfl, hset⟩ := slot_split hb
          rw [hset] at h
          obtain rfl := Option.some.inj h
          exact .sent hl
      · contradiction
  | save i ok =>
      simp only [step] at h
      split at h
      · next entry rest hb =>
          obtain ⟨before, after, hl, rfl, hset⟩ := slot_split hb
          rw [hset] at h
          obtain rfl := Option.some.inj h
          cases ok with
          | true => exact .saved hl
          | false => exact .dropped hl
      · contradiction

/-! ## Counting the calls for an entry -/

/-- The ingest calls for an entry that were accepted. -/
def accepted (calls : List IngestCall) (id : String) : Nat :=
  calls.countP fun c => c.entryId = id ∧ c.error = none

/-- The ingest calls for an entry that failed. -/
def failures (calls : List IngestCall) (id : String) : Nat :=
  calls.countP fun c => c.entryId = id ∧ c.error ≠ none

/-- One more call counts where it was accepted, for its own entry. -/
theorem accepted_append (calls : List IngestCall) (c : IngestCall) (id : String) :
    accepted (calls ++ [c]) id =
      accepted calls id + if c.entryId = id ∧ c.error = none then 1 else 0 := by
  simp [accepted, List.countP_append, List.countP_cons]

/-- One more call counts where it failed, for its own entry. -/
theorem failures_append (calls : List IngestCall) (c : IngestCall) (id : String) :
    failures (calls ++ [c]) id =
      failures calls id + if c.entryId = id ∧ c.error ≠ none then 1 else 0 := by
  simp [failures, List.countP_append, List.countP_cons]

end OutboxSystem

end Atlas
