import Atlas.Kernel
import Atlas.Lib.JsonParse
import Atlas.Redis.Bus

/-!
# Atlas.Redis.Wire

What the wire formats of `RedisStreamsEventBus` carry.

`publish` writes nine fields of the envelope, and `deserializeEvent` reads these
nine back: `deserializeEvent_publishFields` says what it makes of them.  An event
comes back whole exactly when it has none of the other fields and its version is
one that `parseInt` reads back from its text.
`publishBatch` writes six of the nine, and looks at no reply of its pipeline.
-/

namespace Atlas

open StoreKit

namespace RedisStreamsEventBus

/-! ## One event there and back -/

/-- The object `deserializeEvent` returns, as an event: the fields it does not
set are absent. -/
def DeserializedEvent.asEvent (event : DeserializedEvent) : Option TenantAwareEvent := do
  let eventId ← event.eventId
  let eventType ← event.eventType
  let tenantId ← event.tenantId
  let correlationId ← event.correlationId
  let occurredAt ← event.occurredAt
  let payload ← match event.payload with
    | .obj members => some members
    | _ => none
  some {
    eventId, eventType, tenantId, correlationId, occurredAt, payload
    eventVersion := event.eventVersion
    actorId := event.actorId
    causationId := none
    traceId := none
    sourceService := event.sourceService
    sourceVersion := none
    isReplay := none
    replayId := none
    replayedAt := none
    replayReason := none
    replaySourceEventId := none }

/-- What is read of the fields that `publish` writes. -/
theorem deserializeEvent_publishFields (event : TenantAwareEvent) :
    deserializeEvent Json.parse (publishFields event) = some {
      eventId := some event.eventId
      eventType := some event.eventType
      tenantId := some event.tenantId
      correlationId := some event.correlationId
      actorId := Js.truthy event.actorId
      occurredAt := some event.occurredAt
      eventVersion := Js.parseInt event.eventVersion.toString
      sourceService := event.sourceService
      payload := .obj event.payload } := by
  have hactor : Js.truthy (some (event.actorId.getD "")) = Js.truthy event.actorId := by
    cases event.actorId with
    | none => rfl
    | some actorId => rfl
  simp [deserializeEvent, publishFields, readFields, Json.parse_stringify, hactor]

/-- An event that has only the fields `publish` writes, with a version that is
whole and short, or `NaN`, and no empty actor. -/
structure Carried (event : TenantAwareEvent) : Prop where
  eventVersion : event.eventVersion.Plain
  actorId : event.actorId ≠ some ""
  causationId : event.causationId = none
  traceId : event.traceId = none
  sourceVersion : event.sourceVersion = none
  isReplay : event.isReplay = none
  replayId : event.replayId = none
  replayedAt : event.replayedAt = none
  replayReason : event.replayReason = none
  replaySourceEventId : event.replaySourceEventId = none

theorem truthy_eq_self_iff (o : Option String) : Js.truthy o = o ↔ o ≠ some "" := by
  constructor
  · rintro h rfl
    simp [Js.truthy] at h
  · exact Js.truthy_of_ne

/-- **An event comes back equal exactly when it has no other field**, and a
version below 10²¹ without a fraction. -/
theorem round_trip_iff (event : TenantAwareEvent) :
    (deserializeEvent Json.parse (publishFields event)).bind DeserializedEvent.asEvent =
      some event ↔ Carried event := by
  rw [deserializeEvent_publishFields]
  constructor
  · intro h
    have hevent := Option.some.inj h
    obtain ⟨eventId, eventType, eventVersion, tenantId, correlationId, actorId, causationId, traceId,
      sourceService, sourceVersion, occurredAt, payload, isReplay, replayId, replayedAt,
      replayReason, replaySourceEventId⟩ := event
    simp only [TenantAwareEvent.mk.injEq, true_and] at hevent
    obtain ⟨hnumber, hactor, hcausation, htrace, hversion, hreplay, hreplayId, hreplayedAt, hreason,
      hsource⟩ := hevent
    exact ⟨(Js.Double.parseInt_toString_iff _).mp hnumber, (truthy_eq_self_iff _).mp hactor,
      hcausation.symm, htrace.symm, hversion.symm, hreplay.symm, hreplayId.symm, hreplayedAt.symm,
      hreason.symm, hsource.symm⟩
  · intro h
    have hnumber := (Js.Double.parseInt_toString_iff _).mpr h.eventVersion
    have hactor := (truthy_eq_self_iff _).mpr h.actorId
    obtain ⟨eventId, eventType, eventVersion, tenantId, correlationId, actorId, causationId, traceId,
      sourceService, sourceVersion, occurredAt, payload, isReplay, replayId, replayedAt,
      replayReason, replaySourceEventId⟩ := event
    obtain ⟨-, -, rfl, rfl, rfl, rfl, rfl, rfl, rfl, rfl⟩ := h
    simp only [DeserializedEvent.asEvent, hnumber, hactor, Option.bind_eq_bind, Option.bind_some]

/-- An event that another one caused. -/
def causedEvent : TenantAwareEvent where
  eventId := "8a0eebc9-9c0b-4ef8-bb6d-6bb9bd380a11"
  eventType := WORKFLOW_TRIGGERED
  eventVersion := 1
  tenantId := "1a0eebc9-9c0b-4ef8-bb6d-6bb9bd380a11"
  correlationId := "2a0eebc9-9c0b-4ef8-bb6d-6bb9bd380a11"
  actorId := some "system"
  causationId := some "3a0eebc9-9c0b-4ef8-bb6d-6bb9bd380a11"
  traceId := none
  sourceService := "atlas-saas-platform"
  sourceVersion := none
  occurredAt := "2024-05-23T21:33:20.000Z"
  payload := []
  isReplay := none
  replayId := none
  replayedAt := none
  replayReason := none
  replaySourceEventId := none

/-- A `causationId` is not on the wire, so it does not come back. -/
theorem causation_is_lost :
    ¬ ∀ event : TenantAwareEvent,
      (deserializeEvent Json.parse (publishFields event)).bind DeserializedEvent.asEvent =
        some event := by
  intro hclaim
  have hevent := hclaim causedEvent
  rw [deserializeEvent_publishFields] at hevent
  have hcausation := congrArg TenantAwareEvent.causationId (Option.some.inj hevent)
  contradiction

/-! ## Several events -/

/-- The entries of each stream. -/
abbrev Streams := String → List (List String)

/-- `xadd(key, ..., '*', ...fields)`, which the server executes or not. -/
def xadd (key : String) (fields : List String) (executed : Bool) : Program Streams Exception Unit :=
  if executed then
    .modify fun streams => Function.update streams key (streams key ++ [fields])
  else .reject (.error "ReplyError")

def publish (streamPrefix : String) (event : TenantAwareEvent) (executed : Bool) :
    Program Streams Exception Unit :=
  xadd (streamPrefix ++ event.eventType) (publishFields event) executed

/-- `pipeline.exec()`: every command is run, and answered by its own error or
reply. -/
def pipelineExec : List (Program Streams Exception Unit) →
    Program Streams Exception (List (Except Exception Unit))
  | [] => pure []
  | command :: commands => do
      let reply ← command.attempt
      let replies ← pipelineExec commands
      return reply :: replies

/-- `publishBatch` of events, each with whether the server executes its
command.  The replies are not looked at. -/
def publishBatch (streamPrefix : String) (events : List (TenantAwareEvent × Bool)) :
    Program Streams Exception Unit := do
  let _replies ← pipelineExec (events.map fun (event, executed) =>
    xadd (streamPrefix ++ event.eventType) (publishBatchFields event) executed)
  return ()

/-- `publish` of one event after the other, none of which fails. -/
def publishEach (streamPrefix : String) : List TenantAwareEvent → Program Streams Exception Unit
  | [] => pure ()
  | event :: events => do
      publish streamPrefix event true
      publishEach streamPrefix events

/-- The entries that events make in a stream, by what is written of each. -/
def entriesOf (streamPrefix : String) (fields : TenantAwareEvent → List String)
    (events : List TenantAwareEvent) (key : String) : List (List String) :=
  (events.filter fun event => streamPrefix ++ event.eventType = key).map fields

theorem entriesOf_cons_self (streamPrefix : String) (fields : TenantAwareEvent → List String)
    (event : TenantAwareEvent) (events : List TenantAwareEvent) :
    entriesOf streamPrefix fields (event :: events) (streamPrefix ++ event.eventType) =
      fields event :: entriesOf streamPrefix fields events (streamPrefix ++ event.eventType) := by
  simp [entriesOf]

/-- The entries of one more event at the front are added first. -/
theorem append_entriesOf_cons (streams : Streams) (streamPrefix : String)
    (fields : TenantAwareEvent → List String) (event : TenantAwareEvent)
    (events : List TenantAwareEvent) :
    (fun key => Function.update streams (streamPrefix ++ event.eventType)
      (streams (streamPrefix ++ event.eventType) ++ [fields event]) key ++
        entriesOf streamPrefix fields events key) =
      fun key => streams key ++ entriesOf streamPrefix fields (event :: events) key := by
  funext key
  by_cases hkey : streamPrefix ++ event.eventType = key
  · subst hkey
    simp [entriesOf]
  · have hother : key ≠ streamPrefix ++ event.eventType := fun heq => hkey heq.symm
    simp [entriesOf, hkey, Function.update_of_ne hother]

/-- The entries of successive calls of `publish`. -/
theorem publishEach_run (streamPrefix : String) (events : List TenantAwareEvent)
    (streams : Streams) :
    (publishEach streamPrefix events).run streams =
      (.ok (), fun key => streams key ++ entriesOf streamPrefix publishFields events key) := by
  induction events generalizing streams with
  | nil => simp [publishEach, entriesOf]
  | cons event events ih =>
      have hone : (publish streamPrefix event true).run streams = (.ok (),
          Function.update streams (streamPrefix ++ event.eventType)
            (streams (streamPrefix ++ event.eventType) ++ [publishFields event])) := rfl
      rw [publishEach, Program.bind_run_ok hone, ih, append_entriesOf_cons]

/-- A pipeline is run to its end, whatever becomes of its commands. -/
theorem pipelineExec_run (streamPrefix : String) (events : List (TenantAwareEvent × Bool))
    (streams : Streams) : ∃ replies,
    (pipelineExec (events.map fun (event, executed) =>
      xadd (streamPrefix ++ event.eventType) (publishBatchFields event) executed)).run streams =
      (.ok replies, fun key => streams key ++ entriesOf streamPrefix publishBatchFields
        ((events.filter Prod.snd).map Prod.fst) key) := by
  induction events generalizing streams with
  | nil => exact ⟨[], by simp [pipelineExec, entriesOf]⟩
  | cons call events ih =>
      obtain ⟨event, executed⟩ := call
      cases executed with
      | true =>
          have hone : (xadd (streamPrefix ++ event.eventType) (publishBatchFields event)
              true).attempt.run streams = (.ok (.ok ()),
            Function.update streams (streamPrefix ++ event.eventType)
              (streams (streamPrefix ++ event.eventType) ++ [publishBatchFields event])) := rfl
          obtain ⟨replies, hrest⟩ := ih (Function.update streams (streamPrefix ++ event.eventType)
              (streams (streamPrefix ++ event.eventType) ++ [publishBatchFields event]))
          refine ⟨.ok () :: replies, ?_⟩
          rw [List.map_cons, pipelineExec, Program.bind_run_ok hone, Program.bind_run_ok hrest,
            append_entriesOf_cons]
          rfl
      | false =>
          have hone : (xadd (streamPrefix ++ event.eventType) (publishBatchFields event)
              false).attempt.run streams = (.ok (.error (.error "ReplyError")), streams) := rfl
          obtain ⟨replies, hrest⟩ := ih streams
          refine ⟨.error (.error "ReplyError") :: replies, ?_⟩
          rw [List.map_cons, pipelineExec, Program.bind_run_ok hone, Program.bind_run_ok hrest]
          rfl

/-- A batch always resolves, with the entries of the commands that were executed. -/
theorem publishBatch_run (streamPrefix : String) (events : List (TenantAwareEvent × Bool))
    (streams : Streams) :
    (publishBatch streamPrefix events).run streams =
      (.ok (), fun key => streams key ++ entriesOf streamPrefix publishBatchFields
        ((events.filter Prod.snd).map Prod.fst) key) := by
  obtain ⟨replies, hexec⟩ := pipelineExec_run streamPrefix events streams
  rw [publishBatch, Program.bind_run_ok hexec]
  rfl

/-- A batch does what `publish` would do: the same entries when nothing fails,
and a rejection when a command does. -/
structure LikePublish (streamPrefix : String) (streams : Streams)
    (events : List (TenantAwareEvent × Bool)) : Prop where
  entries : (∀ call ∈ events, call.2 = true) →
    ((publishBatch streamPrefix events).run streams).2 =
      ((publishEach streamPrefix (events.map Prod.fst)).run streams).2
  rejects : (∃ call ∈ events, call.2 = false) →
    ∃ e, ((publishBatch streamPrefix events).run streams).1 = .error e

/-- **`publishBatch` does what `publish` would for the empty batch only.** -/
theorem publishBatch_like_publish_iff (streamPrefix : String) (streams : Streams)
    (events : List (TenantAwareEvent × Bool)) :
    LikePublish streamPrefix streams events ↔ events = [] := by
  constructor
  · intro h
    cases events with
    | nil => rfl
    | cons call events =>
        obtain ⟨event, executed⟩ := call
        by_cases hall : ∀ call ∈ (event, executed) :: events, call.2 = true
        · have hexecuted : executed = true := hall _ List.mem_cons_self
          have hsame := congrFun (h.entries hall) (streamPrefix ++ event.eventType)
          rw [publishBatch_run, publishEach_run, hexecuted] at hsame
          have hentries := List.append_cancel_left hsame
          rw [List.filter_cons_of_pos rfl, List.map_cons, List.map_cons, entriesOf_cons_self,
            entriesOf_cons_self] at hentries
          have hlength := congrArg List.length (List.cons.inj hentries).1
          simp [publishBatchFields, publishFields] at hlength
        · push Not at hall
          obtain ⟨call, hcall, hnot⟩ := hall
          have hfailed : ∃ call ∈ (event, executed) :: events, call.2 = false :=
            ⟨call, hcall, Bool.eq_false_iff.mpr hnot⟩
          obtain ⟨e, he⟩ := h.rejects hfailed
          rw [publishBatch_run] at he
          contradiction
  · rintro rfl
    exact ⟨fun _ => rfl, by simp⟩

/-- A batch of one event writes other fields than `publish`. -/
theorem batch_of_one_differs :
    ¬ ∀ (streamPrefix : String) (streams : Streams) (events : List (TenantAwareEvent × Bool)),
      LikePublish streamPrefix streams events := by
  intro hclaim
  have hentries := (hclaim "atlas:events:" (fun _ => []) [(causedEvent, true)]).entries (by simp)
  have hstream := congrFun hentries "atlas:events:workflow.execution.triggered"
  revert hstream
  decide +kernel

end RedisStreamsEventBus

end Atlas
