import Atlas.Outbox.Hop
import Atlas.World

/-!
# Atlas.PlatformEvents.Forwarding

`ForwardingEventBus`: an event goes to the inner bus, and once that has
accepted it, to the outbox.

What the columns make of the row for an event is `entryRow`; nothing else
decides whether `writeToOutbox` adds a row (`rows_run`).  In particular no
statement looks at the event ids that are already there, so what the outbox
holds after a list of calls is the rows of all events whose inner publish
resolved, and event ids repeat as they were published.
-/

namespace Atlas

open StoreKit OutboxEntryRepository

/-! ## The bus -/

/-- What one `writeToOutbox` meets: the id and the instant of the entry, and
whether the server executes the statement at all. -/
structure OutboxAttempt where
  generateId : String
  now : Js.Date
  executed : Bool
deriving DecidableEq

/-- An event on its way through the bus. -/
structure Publication where
  event : TenantAwareEvent
  attempt : OutboxAttempt
deriving DecidableEq

namespace ForwardingEventBus

variable (otherDates : String → Option Js.Date)

/-- `this.inner.publish` and `this.inner.publishBatch`, which answer `inner`. -/
def innerPublish (inner : Except Exception Unit) (events : List TenantAwareEvent) : App Unit := do
  .lift inner
  .modify fun w => { w with published := w.published ++ events }

/-- The table after an attempt to write an entry to it. -/
def entryWritten (table : OutboxTable) (publication : Publication) : OutboxTable :=
  if publication.attempt.executed then
    writeToOutbox otherDates publication.attempt.generateId publication.attempt.now table
      publication.event
  else table

/-- `this.writeToOutbox`. -/
def writeEntry (publication : Publication) : App Unit :=
  .modify fun w => { w with outboxEntries := entryWritten otherDates w.outboxEntries publication }

def writeEntries : List Publication → App Unit
  | [] => pure ()
  | publication :: publications => do
      writeEntry otherDates publication
      writeEntries publications

def publish (inner : Except Exception Unit) (attempt : OutboxAttempt) (event : TenantAwareEvent) :
    App Unit := do
  innerPublish inner [event]
  writeEntry otherDates ⟨event, attempt⟩

def publishBatch (inner : Except Exception Unit) (publications : List Publication) : App Unit := do
  innerPublish inner (publications.map Publication.event)
  writeEntries otherDates publications

end ForwardingEventBus

/-- A call of the bus, with the answer of the inner one. -/
inductive ForwardingCall where
  | publish (inner : Except Exception Unit) (publication : Publication)
  | publishBatch (inner : Except Exception Unit) (publications : List Publication)

namespace ForwardingCall

def run (otherDates : String → Option Js.Date) : ForwardingCall → App Unit
  | .publish inner publication =>
      ForwardingEventBus.publish otherDates inner publication.attempt publication.event
  | .publishBatch inner publications =>
      ForwardingEventBus.publishBatch otherDates inner publications

/-- The answer of the inner bus. -/
def inner : ForwardingCall → Except Exception Unit
  | .publish inner _ => inner
  | .publishBatch inner _ => inner

def publications : ForwardingCall → List Publication
  | .publish _ publication => [publication]
  | .publishBatch _ publications => publications

end ForwardingCall

/-- The state a list of calls leads to: each starts in what the one before
left, whether or not that rejected. -/
def afterCalls (otherDates : String → Option Js.Date) (w : World) (calls : List ForwardingCall) :
    World :=
  final (fun w call => (call.run otherDates).run w) w calls

/-- The events whose inner publish resolved, in order. -/
def resolved (calls : List ForwardingCall) : List Publication :=
  (calls.filter fun call => call.inner.isOk).flatMap ForwardingCall.publications

/-! ## The row of an event -/

/-- What the columns make of the row `writeToOutbox` sends, under an id and an
instant of creation. -/
def entryRow (otherDates : String → Option Js.Date) (event : TenantAwareEvent)
    (generateId : String) (now : Js.Date) : Option OutboxEntryOrmEntity :=
  (Js.newDate otherDates event.occurredAt).bind fun occurredAt =>
    (toOrm (.create generateId now (ForwardingEventBus.outboxParams event occurredAt))).stored

def Publication.row? (otherDates : String → Option Js.Date) (publication : Publication) :
    Option OutboxEntryOrmEntity :=
  entryRow otherDates publication.event publication.attempt.generateId publication.attempt.now

/-- The row holds the event's envelope: under the row's own id and instant of
creation the event would be stored as this row. -/
def Carries (otherDates : String → Option Js.Date) (event : TenantAwareEvent)
    (row : OutboxEntryOrmEntity) : Prop :=
  entryRow otherDates event row.id row.createdAt = some row

variable {otherDates : String → Option Js.Date}

/-! ## What a call does -/

/-- The entries of a call are written one after the other, as far as the inserts
succeed. -/
theorem writeEntries_run (publications : List Publication) (w : World) :
    (ForwardingEventBus.writeEntries otherDates publications).run w =
      (.ok (), { w with
        outboxEntries := publications.foldl (ForwardingEventBus.entryWritten otherDates)
          w.outboxEntries }) := by
  induction publications generalizing w with
  | nil => rfl
  | cons publication publications ih =>
      rw [ForwardingEventBus.writeEntries, Program.bind_run]
      exact ih _

/-- A call rejects as the inner bus does and then leaves everything as it was;
otherwise it resolves, whatever became of the inserts. -/
theorem call_run (call : ForwardingCall) (w : World) :
    (call.run otherDates).run w =
      match call.inner with
      | .ok () => (.ok (), { w with
          published := w.published ++ call.publications.map Publication.event
          outboxEntries := call.publications.foldl (ForwardingEventBus.entryWritten otherDates)
            w.outboxEntries })
      | .error e => (.error e, w) := by
  cases call with
  | publish inner publication =>
      cases inner with
      | error e => rfl
      | ok u => rfl
  | publishBatch inner publications =>
      cases inner with
      | error e => rfl
      | ok u => exact writeEntries_run publications _

/-- A call resolves with its events, or rejects with none. -/
theorem resolved_cons (call : ForwardingCall) (calls : List ForwardingCall) :
    resolved (call :: calls) =
      (if call.inner.isOk then call.publications else []) ++ resolved calls := by
  unfold resolved
  cases hok : call.inner.isOk <;> simp [hok]

/-- Calls write to the outbox what the inner bus has accepted. -/
theorem outboxEntries_afterCalls (calls : List ForwardingCall) (w : World) :
    (afterCalls otherDates w calls).outboxEntries =
      (resolved calls).foldl (ForwardingEventBus.entryWritten otherDates) w.outboxEntries := by
  induction calls generalizing w with
  | nil => rfl
  | cons call calls ih =>
      have hstep : afterCalls otherDates w (call :: calls) =
          afterCalls otherDates ((call.run otherDates).run w).2 calls := rfl
      rw [hstep, ih, resolved_cons, List.foldl_append, call_run]
      cases call.inner with
      | error e => rfl
      | ok u => rfl

/-! ## The rows -/

/-- The row of an event is stored under the id and the instant it is given. -/
theorem entryRow_cases {event : TenantAwareEvent} {generateId : String} {now : Js.Date}
    {row : OutboxEntryOrmEntity} (h : entryRow otherDates event generateId now = some row) :
    Pg.uuid event.eventId = some row.eventId ∧ Pg.uuid generateId = some row.id ∧
      row.createdAt = now ∧
      ∀ id createdAt, Pg.uuid id = some id → Pg.timestamptz createdAt = some createdAt →
        entryRow otherDates event id createdAt = some { row with id, createdAt } := by
  obtain ⟨occurredAt, hdate, hstored⟩ := Option.bind_eq_some_iff.mp h
  obtain ⟨hcolumns, hid, hcreated, hrename⟩ := stored_cases hstored
  refine ⟨hcolumns.eventId, hid, Pg.timestamptz_eq hcreated, ?_⟩
  intro id createdAt hid' hcreated'
  rw [entryRow, hdate]
  exact hrename id createdAt hid' hcreated'

/-- An entry that is written adds the row the columns make of it, at the end;
one that they refuse adds nothing. -/
theorem rows_entryWritten {table : OutboxTable} {publication : Publication}
    (hexecuted : publication.attempt.executed = true)
    (hid : Pg.uuid publication.attempt.generateId = some publication.attempt.generateId)
    (hfree : publication.attempt.generateId ∉ table.rows.map OutboxEntryOrmEntity.id) :
    (ForwardingEventBus.entryWritten otherDates table publication).rows =
      table.rows ++ (publication.row? otherDates).toList := by
  have happend : ∀ entry, (toOrm entry).stored = publication.row? otherDates →
      ((append table entry).getD table).rows =
        table.rows ++ (publication.row? otherDates).toList := by
    intro entry hentry
    rw [append, hentry]
    cases hrow : publication.row? otherDates with
    | none => simp
    | some row =>
        have hkey : row.id = publication.attempt.generateId :=
          Option.some.inj ((entryRow_cases hrow).2.1.symm.trans hid)
        cases hinsert : table.insert? row with
        | none =>
            rw [Table.insert?_eq_none_iff, hkey] at hinsert
            exact absurd hinsert hfree
        | some table' =>
            simp only [Option.bind_some, hinsert, Option.getD_some, Option.toList_some]
            exact Table.rows_of_insert? hinsert
  rw [ForwardingEventBus.entryWritten, if_pos hexecuted, ForwardingEventBus.writeToOutbox]
  cases hdate : Js.newDate otherDates publication.event.occurredAt with
  | none =>
      have hrow : publication.row? otherDates = none := by
        rw [Publication.row?, entryRow, hdate, Option.bind_none]
      simp [hrow]
  | some occurredAt =>
      apply happend
      rw [Publication.row?, entryRow, hdate]
      rfl

/-- What the runtime and the server promise: the ids are new identifiers, the
clock shows an instant the columns hold, and statements are executed. -/
structure Served (publications : List Publication) : Prop where
  ids : ∀ p ∈ publications, Pg.uuid p.attempt.generateId = some p.attempt.generateId
  fresh : (publications.map fun p => p.attempt.generateId).Nodup
  clock : ∀ p ∈ publications, Pg.timestamptz p.attempt.now = some p.attempt.now
  executed : ∀ p ∈ publications, p.attempt.executed = true

/-- The rest of what is served is served. -/
theorem served_cons {publication : Publication} {publications : List Publication}
    (h : Served (publication :: publications)) : Served publications where
  ids p hp := h.ids p (List.mem_cons_of_mem _ hp)
  fresh := (List.nodup_cons.mp h.fresh).2
  clock p hp := h.clock p (List.mem_cons_of_mem _ hp)
  executed p hp := h.executed p (List.mem_cons_of_mem _ hp)

/-- Entries written one after the other add their rows in order. -/
theorem rows_entriesWritten {publications : List Publication} (h : Served publications)
    {table : OutboxTable}
    (hfree : ∀ p ∈ publications,
      p.attempt.generateId ∉ table.rows.map OutboxEntryOrmEntity.id) :
    (publications.foldl (ForwardingEventBus.entryWritten otherDates) table).rows =
      table.rows ++ publications.filterMap (Publication.row? otherDates) := by
  induction publications generalizing table with
  | nil => simp
  | cons publication publications ih =>
      have hid := h.ids publication List.mem_cons_self
      have hrows : (ForwardingEventBus.entryWritten otherDates table publication).rows =
          table.rows ++ (publication.row? otherDates).toList :=
        rows_entryWritten (h.executed publication List.mem_cons_self) hid
          (hfree publication List.mem_cons_self)
      have hfresh := (List.nodup_cons.mp h.fresh).1
      rw [List.foldl_cons, ih (served_cons h), hrows, List.filterMap_cons, List.append_assoc]
      · cases publication.row? otherDates <;> rfl
      · intro p hp hmem
        rw [hrows, List.map_append, List.mem_append] at hmem
        rcases hmem with hmem | hmem
        · exact hfree p (List.mem_cons_of_mem _ hp) hmem
        · obtain ⟨row, hrow, hkey⟩ := List.mem_map.mp hmem
          have hsome := (entryRow_cases (Option.mem_toList.mp hrow)).2.1
          have hsame : p.attempt.generateId = publication.attempt.generateId := by
            rw [← hkey]
            exact Option.some.inj (hsome.symm.trans hid)
          exact hfresh (List.mem_map.mpr ⟨p, hp, hsame⟩)

/-! ## Deduplication -/

/-- Two events are published under one id. -/
abbrev SameEventId (p q : Publication) : Prop :=
  Pg.uuid p.event.eventId = Pg.uuid q.event.eventId

/-- The first of the events that has the id of a row. -/
def firstWithId (publications : List Publication) (row : OutboxEntryOrmEntity) :
    Option Publication :=
  publications.find? fun p => Pg.uuid p.event.eventId = some row.eventId

/-- What deduplication by event id promises of a list of calls. -/
structure Deduplicated (otherDates : String → Option Js.Date) (w : World)
    (calls : List ForwardingCall) : Prop where
  unique : ((afterCalls otherDates w calls).outboxEntries.rows.map
    OutboxEntryOrmEntity.eventId).Nodup
  first : ∀ row ∈ (afterCalls otherDates w calls).outboxEntries.rows, ∃ p,
    firstWithId (resolved calls) row = some p ∧ Carries otherDates p.event row
  resolves : ∀ before call after, calls = before ++ call :: after → call.inner = .ok () →
    ((call.run otherDates).run (afterCalls otherDates w before)).1 = .ok ()
  kept : ∀ before after, calls = before ++ after →
    (afterCalls otherDates w before).outboxEntries.rows <+:
      (afterCalls otherDates w calls).outboxEntries.rows

/-- An event whose envelope a row carries would be stored itself. -/
theorem row?_of_carries {publication : Publication} {row : OutboxEntryOrmEntity}
    (hid : Pg.uuid publication.attempt.generateId = some publication.attempt.generateId)
    (hclock : Pg.timestamptz publication.attempt.now = some publication.attempt.now)
    (h : Carries otherDates publication.event row) :
    ∃ row', publication.row? otherDates = some row' ∧ row'.eventId = row.eventId := by
  obtain ⟨-, -, -, hrename⟩ := entryRow_cases h
  exact ⟨_, hrename _ _ hid hclock, rfl⟩

/-- The row of an event carries it. -/
theorem carries_of_row? {publication : Publication} {row : OutboxEntryOrmEntity}
    (hid : Pg.uuid publication.attempt.generateId = some publication.attempt.generateId)
    (h : publication.row? otherDates = some row) :
    Carries otherDates publication.event row := by
  obtain ⟨-, hkey, hcreated, -⟩ := entryRow_cases h
  have hid' : row.id = publication.attempt.generateId :=
    Option.some.inj (hkey.symm.trans hid)
  rw [Carries, hid', hcreated]
  exact h

/-- The first publication of an id is the first one that has it. -/
theorem firstWithId_cons (a : Publication) (publications : List Publication)
    (row : OutboxEntryOrmEntity) :
    firstWithId (a :: publications) row =
      if Pg.uuid a.event.eventId = some row.eventId then some a
      else firstWithId publications row := by
  unfold firstWithId
  by_cases hsame : Pg.uuid a.event.eventId = some row.eventId <;> simp [hsame]

/-- Each publication has one row at most. -/
theorem rows_cons (a : Publication) (publications : List Publication) :
    (a :: publications).filterMap (Publication.row? otherDates) =
      (a.row? otherDates).toList ++ publications.filterMap (Publication.row? otherDates) := by
  rw [List.filterMap_cons]
  cases a.row? otherDates <;> rfl

/-- A row among those of the publications is one of them. -/
theorem mem_rows {publications : List Publication} {row : OutboxEntryOrmEntity} :
    row ∈ publications.filterMap (Publication.row? otherDates) ↔
      ∃ p ∈ publications, p.row? otherDates = some row := List.mem_filterMap

/-- Where no event after `a` with its id has a row, no row has its id. -/
theorem ne_of_alone {a : Publication} {publications : List Publication}
    (halone : ∀ q ∈ publications, SameEventId a q → q.row? otherDates = none)
    {row : OutboxEntryOrmEntity}
    (hmem : row ∈ publications.filterMap (Publication.row? otherDates)) :
    Pg.uuid a.event.eventId ≠ some row.eventId := by
  obtain ⟨q, hq, hrow⟩ := mem_rows.mp hmem
  intro hsame
  have hnone := halone q hq (hsame.trans (entryRow_cases hrow).1.symm)
  rw [hrow] at hnone
  contradiction

/-- The rows of some events are one to an id and carry the first event of their
id exactly when no row comes after an event of its id. -/
theorem rows_deduplicated_iff {publications : List Publication} (h : Served publications) :
    (((publications.filterMap (Publication.row? otherDates)).map
        OutboxEntryOrmEntity.eventId).Nodup ∧
      ∀ row ∈ publications.filterMap (Publication.row? otherDates), ∃ p,
        firstWithId publications row = some p ∧ Carries otherDates p.event row) ↔
    publications.Pairwise fun p q => SameEventId p q → q.row? otherDates = none := by
  induction publications with
  | nil => simp
  | cons a publications ih =>
      have hid := h.ids a List.mem_cons_self
      have hclock := h.clock a List.mem_cons_self
      rw [List.pairwise_cons, ← ih (served_cons h)]
      rw [rows_cons, List.map_append]
      constructor
      · rintro ⟨hunique, hfirst⟩
        -- A later row of the same id would have to carry `a`, and `a` would have a row too.
        have halone : ∀ q ∈ publications, SameEventId a q → q.row? otherDates = none := by
          intro q hq hsame
          by_contra hrow
          obtain ⟨row, hrow⟩ := Option.ne_none_iff_exists'.mp hrow
          have hmem := mem_rows.mpr ⟨q, hq, hrow⟩
          have hkey := hsame.trans (entryRow_cases hrow).1
          obtain ⟨p, hp, hcarries⟩ := hfirst row (List.mem_append_right _ hmem)
          rw [firstWithId_cons, if_pos hkey] at hp
          obtain rfl := Option.some.inj hp
          obtain ⟨row', hrow', heventId⟩ := row?_of_carries hid hclock hcarries
          rw [hrow'] at hunique
          have hnew := (List.nodup_cons.mp hunique).1
          rw [heventId] at hnew
          exact hnew (List.mem_map_of_mem hmem)
        refine ⟨halone, (List.nodup_append.mp hunique).2.1, ?_⟩
        intro row hmem
        have hfound := hfirst row (List.mem_append_right _ hmem)
        rw [firstWithId_cons, if_neg (ne_of_alone halone hmem)] at hfound
        exact hfound
      · rintro ⟨halone, hunique, hfirst⟩
        constructor
        · cases ha : a.row? otherDates with
          | none => exact hunique
          | some row =>
              refine List.nodup_cons.mpr ⟨fun hmem => ?_, hunique⟩
              obtain ⟨row', hmem', heventId⟩ := List.mem_map.mp hmem
              apply ne_of_alone halone hmem'
              rw [heventId]
              exact (entryRow_cases ha).1
        · intro row hmem
          rw [firstWithId_cons]
          rcases List.mem_append.mp hmem with hmem | hmem
          · have ha : a.row? otherDates = some row := Option.mem_toList.mp hmem
            rw [if_pos (entryRow_cases ha).1]
            exact ⟨a, rfl, carries_of_row? hid ha⟩
          · rw [if_neg (ne_of_alone halone hmem)]
            exact hfirst row hmem

/-- The rows after the calls, from an empty outbox. -/
theorem rows_afterCalls {w : World} {calls : List ForwardingCall}
    (hempty : w.outboxEntries = .empty) (h : Served (resolved calls)) :
    (afterCalls otherDates w calls).outboxEntries.rows =
      (resolved calls).filterMap (Publication.row? otherDates) := by
  rw [outboxEntries_afterCalls, hempty, rows_entriesWritten h (by simp)]
  rfl

/-- Two lists of calls resolve one after the other. -/
theorem resolved_append (before after : List ForwardingCall) :
    resolved (before ++ after) = resolved before ++ resolved after := by
  simp [resolved]

/-- The first part of what is served is served. -/
theorem served_append {before after : List Publication} (h : Served (before ++ after)) :
    Served before where
  ids p hp := h.ids p (List.mem_append_left _ hp)
  fresh := by
    have hfresh := h.fresh
    rw [List.map_append] at hfresh
    exact (List.nodup_append.mp hfresh).1
  clock p hp := h.clock p (List.mem_append_left _ hp)
  executed p hp := h.executed p (List.mem_append_left _ hp)

/-- **When the outbox is deduplicated**: a list of calls leaves one row to an
event id, the row of the first event published under it, exactly when no event
whose row the columns accept comes after an event of its id. -/
theorem deduplicated_iff {w : World} {calls : List ForwardingCall}
    (hempty : w.outboxEntries = .empty) (h : Served (resolved calls)) :
    Deduplicated otherDates w calls ↔
      (resolved calls).Pairwise fun p q => SameEventId p q → q.row? otherDates = none := by
  rw [← rows_deduplicated_iff h, ← rows_afterCalls hempty h]
  constructor
  · intro hdedup
    exact ⟨hdedup.unique, hdedup.first⟩
  · rintro ⟨hunique, hfirst⟩
    refine ⟨hunique, hfirst, ?_, ?_⟩
    · intro before call after _ hinner
      rw [call_run, hinner]
    · rintro before after rfl
      rw [resolved_append] at h
      rw [rows_afterCalls hempty (served_append h), rows_afterCalls hempty
        (by rw [resolved_append]; exact h), resolved_append, List.filterMap_append]
      exact List.prefix_append _ _

/-- The sample event under an id, with the id of its entry. -/
def samplePublication (eventId entryId : Fin 16) : Publication where
  event := { sampleEvent "2024-05-23T21:33:20.000Z" none with eventId := Pg.uuidOf eventId }
  attempt := ⟨Pg.uuidOf entryId, 1716500001000, true⟩

/-- Two events and a retry that the inner bus refuses. -/
def sampleCalls : List ForwardingCall :=
  [.publish (.ok ()) (samplePublication 1 7), .publish (.error .database) (samplePublication 1 8),
    .publishBatch (.ok ()) [samplePublication 2 9]]

theorem deduplicated_iff_sample : Deduplicated (fun _ => none) emptyWorld sampleCalls := by
  apply (deduplicated_iff rfl
    ⟨by decide +kernel, by decide +kernel, by decide +kernel, by decide +kernel⟩).mpr
  decide +kernel

/-- One event that is published twice has two rows. -/
theorem published_twice_is_stored_twice :
    ¬ ∀ (otherDates : String → Option Js.Date) (w : World) (calls : List ForwardingCall),
      w.outboxEntries = .empty → Served (resolved calls) → Deduplicated otherDates w calls := by
  intro hclaim
  have hdedup := hclaim (fun _ => none) emptyWorld
    [.publish (.ok ()) (samplePublication 1 7), .publish (.ok ()) (samplePublication 1 8)] rfl
    ⟨by decide +kernel, by decide +kernel, by decide +kernel, by decide +kernel⟩
  exact absurd hdedup.unique (by decide +kernel)

end Atlas
