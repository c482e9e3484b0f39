import Atlas.Events
import Atlas.Lib.Run
import Atlas.Lib.Slots
import Mathlib.Logic.Function.Basic

/-!
# Atlas.Redis.Bus

`RedisStreamsEventBus` over the streams of a Redis server.

A stream is the list of its entries, numbered by position since `XADD *` hands
out increasing ids; the consumer group has delivered the first `delivered` of
them, and an entry it has delivered is pending until it is acknowledged.
`XREADGROUP … >` returns undelivered entries only, and the bus issues no other
read, so a pending entry is never read again.

The timer starts a pass of `consumePendingMessages` every 100 ms without
waiting for the previous one, so several passes can be under way.  A command
may be refused, or applied with its reply lost: both reject in the bus, and the
difference is in the label of the step.
-/

namespace Atlas

open StoreKit

namespace RedisStreamsEventBus

/-! ## The wire format -/

/-- The field list `publish` sends with `XADD`. -/
def publishFields (event : TenantAwareEvent) : List String :=
  ["eventId", event.eventId,
   "eventType", event.eventType,
   "tenantId", event.tenantId,
   "correlationId", event.correlationId,
   "actorId", event.actorId.getD "",
   "occurredAt", event.occurredAt,
   "eventVersion", event.eventVersion.toString,
   "sourceService", event.sourceService,
   "payload", (Json.obj event.payload).stringify]

/-- The field list `publishBatch` sends for each event. -/
def publishBatchFields (event : TenantAwareEvent) : List String :=
  ["eventId", event.eventId,
   "eventType", event.eventType,
   "tenantId", event.tenantId,
   "correlationId", event.correlationId,
   "occurredAt", event.occurredAt,
   "payload", (Json.obj event.payload).stringify]

/-- What `deserializeEvent` returns: the fields it sets, each as absent as it
was in the entry. -/
structure DeserializedEvent where
  eventId : Option String
  eventType : Option String
  tenantId : Option String
  correlationId : Option String
  actorId : Option String
  occurredAt : Option String
  eventVersion : Js.Double
  sourceService : String
  payload : Json
deriving DecidableEq

/-- `obj[fields[i]] = fields[i + 1]` for every other `i`. -/
def readFields : List String → (String → Option String) → String → Option String
  | key :: value :: rest, obj => readFields rest (Function.update obj key (some value))
  | [key], obj => Function.update obj key none
  | [], obj => obj

/-- `deserializeEvent`, which throws when `JSON.parse` does. -/
def deserializeEvent (parse : String → Option Json) (fields : List String) :
    Option DeserializedEvent :=
  let obj := readFields fields fun _ => none
  (parse ((obj "payload").getD "{}")).map fun payload =>
    { eventId := obj "eventId"
      eventType := obj "eventType"
      tenantId := obj "tenantId"
      correlationId := obj "correlationId"
      actorId := Js.truthy (obj "actorId")
      occurredAt := obj "occurredAt"
      eventVersion := Js.parseInt ((obj "eventVersion").getD "1")
      sourceService := (obj "sourceService").getD ""
      payload }

/-- `JSON.stringify(event)`: absent fields are left out. -/
def eventText (event : DeserializedEvent) : String :=
  let member (key : String) (value : Option String) : JsonObject :=
    match value with
    | some v => [(key, .str v)]
    | none => []
  (Json.obj (member "eventId" event.eventId ++ member "eventType" event.eventType ++
    member "tenantId" event.tenantId ++ member "correlationId" event.correlationId ++
    member "actorId" event.actorId ++ member "occurredAt" event.occurredAt ++
    [("eventVersion", event.eventVersion.toJson), ("sourceService", .str event.sourceService),
     ("payload", event.payload)])).stringify

/-- The field list `sendToDeadLetterStream` sends. -/
def deadLetterFields (event : DeserializedEvent) (handlerName errorMessage : String)
    (now : Js.Date) : List String :=
  ["originalEvent", eventText event,
   "handlerName", handlerName,
   "errorMessage", errorMessage,
   "failedAt", Js.toISOString now]

/-! ## Streams -/

/-- A stream with its consumer group. -/
structure Stream where
  entries : List (List String)
  delivered : Nat
  acked : List Nat
deriving DecidableEq

/-- How a command ended: applied and answered, not applied, or applied with its
answer lost.  The bus sees a rejection in the last two cases. -/
inductive Reply where
  | done
  | refused
  | lost
deriving DecidableEq

/-! ## The bus -/

/-- What is fixed while the application runs: the stream prefix, `JSON.parse`,
and the names of the handlers subscribed to each event type, in the order of the
map and of its lists. -/
structure Bus where
  streamPrefix : String
  parse : String → Option Json
  handlers : List (String × List String)
  distinct : (handlers.map Prod.fst).Nodup

def Bus.streamKey (bus : Bus) (eventType : String) : String := bus.streamPrefix ++ eventType

def Bus.dlqKey (bus : Bus) : String := bus.streamPrefix ++ "dlq"

/-- Where a pass is within the `try` block of one event type. -/
inductive Phase where
  /-- `xreadgroup` is the next command. -/
  | idle
  /-- These messages of the reply are still to be dispatched. -/
  | batch (messages : List Nat)
  /-- `dispatchToHandlers` has these handlers still to call. -/
  | dispatch (message : Nat) (event : DeserializedEvent) (left : List String)
      (allSucceeded : Bool) (messages : List Nat)
  /-- A handler failed and `sendToDeadLetterStream` is the next command. -/
  | deadLetter (message : Nat) (event : DeserializedEvent) (handlerName error : String)
      (left : List String) (messages : List Nat)
deriving DecidableEq

/-- A run of `consumePendingMessages`: the entries of the map it has not left
behind, the first of which it is at. -/
structure Pass where
  types : List (String × List String)
  phase : Phase
deriving DecidableEq

/-- A call of a handler for an entry, and the error it threw, if it did. -/
structure HandlerCall where
  eventType : String
  message : Nat
  handlerName : String
  error : Option String
deriving DecidableEq

/-- A copy written to the dead-letter stream, and what it was written for. -/
structure DeadLetter where
  eventType : String
  message : Nat
  handlerName : String
  fields : List String
deriving DecidableEq

/-- The server, the passes under way, and a record of the handler calls and
dead letters, which decides nothing. -/
structure System where
  streams : String → Stream
  passes : List Pass
  calls : List HandlerCall
  deadLetters : List DeadLetter

/-- The consumer groups exist and the streams are empty. -/
def System.init : System := ⟨fun _ => ⟨[], 0, []⟩, [], [], []⟩

/-- Change one stream. -/
def System.onStream (s : System) (key : String) (f : Stream → Stream) : System :=
  { s with streams := Function.update s.streams key (f (s.streams key)) }

/-- `XADD key * fields`. -/
def System.xadd (s : System) (key : String) (fields : List String) : System :=
  s.onStream key fun stream => { stream with entries := stream.entries ++ [fields] }

/-- The group has delivered `n` more entries. -/
def System.deliver (s : System) (key : String) (n : Nat) : System :=
  s.onStream key fun stream => { stream with delivered := stream.delivered + n }

/-- `XACK key group message`. -/
def System.xack (s : System) (key : String) (message : Nat) : System :=
  s.onStream key fun stream => { stream with acked := stream.acked ++ [message] }

/-- How many entries `XREADGROUP COUNT 10 … >` returns. -/
def Stream.available (stream : Stream) : Nat :=
  min 10 (stream.entries.length - stream.delivered)

/-- What a pass does next, with the way it ends. -/
inductive Action where
  /-- Go past an event type without handlers. -/
  | skip
  /-- Read up to ten entries. -/
  | read (reply : Reply)
  /-- Take up the next message, or be done with the batch. -/
  | next
  /-- Run the next handler, which throws `error` if there is one. -/
  | handle (error : Option String)
  /-- Write the copy for the handler that failed. -/
  | deadLetter (now : Js.Date) (reply : Reply)
  /-- All handlers have run: acknowledge the message if none failed. -/
  | finish (reply : Reply)
deriving DecidableEq

/-- What a pass does to the server, and where it is afterwards.  An exception
inside the `try` block of an event type ends that block: the pass goes on with
the next type, whatever it still held. -/
def passStep (bus : Bus) (s : System) : Pass → Action → Option (System × Pass)
  | ⟨(_, []) :: types, .idle⟩, .skip => some (s, ⟨types, .idle⟩)
  | ⟨(eventType, h :: hs) :: types, .idle⟩, .read reply =>
      let key := bus.streamKey eventType
      let n := (s.streams key).available
      match reply with
      | .refused => some (s, ⟨types, .idle⟩)
      | .done =>
        if n = 0 then none
        else some (s.deliver key n, ⟨(eventType, h :: hs) :: types,
          .batch (List.range' (s.streams key).delivered n)⟩)
      | .lost => if n = 0 then none else some (s.deliver key n, ⟨types, .idle⟩)
  | ⟨_ :: types, .batch []⟩, .next => some (s, ⟨types, .idle⟩)
  | ⟨(eventType, handlers) :: types, .batch (message :: messages)⟩, .next =>
      match (s.streams (bus.streamKey eventType)).entries[message]? with
      | none => none
      | some fields =>
        match deserializeEvent bus.parse fields with
        | none => some (s, ⟨types, .idle⟩)
        | some event => some (s, ⟨(eventType, handlers) :: types,
            .dispatch message event handlers true messages⟩)
  | ⟨(eventType, handlers) :: types,
        .dispatch message event (handlerName :: left) allSucceeded messages⟩, .handle error =>
      let called : System :=
        { s with calls := s.calls ++ [⟨eventType, message, handlerName, error⟩] }
      match error with
      | none => some (called, ⟨(eventType, handlers) :: types,
          .dispatch message event left allSucceeded messages⟩)
      | some e => some (called, ⟨(eventType, handlers) :: types,
          .deadLetter message event handlerName e left messages⟩)
  | ⟨(eventType, handlers) :: types,
        .deadLetter message event handlerName error left messages⟩, .deadLetter now reply =>
      let fields := deadLetterFields event handlerName error now
      let copied : System := { s.xadd bus.dlqKey fields with
        deadLetters := s.deadLetters ++ [⟨eventType, message, handlerName, fields⟩] }
      match reply with
      | .done => some (copied, ⟨(eventType, handlers) :: types,
          .dispatch message event left false messages⟩)
      | .lost => some (copied, ⟨types, .idle⟩)
      | .refused => some (s, ⟨types, .idle⟩)
  | ⟨(eventType, handlers) :: types, .dispatch message _ [] true messages⟩, .finish reply =>
      let acknowledged := s.xack (bus.streamKey eventType) message
      match reply with
      | .done => some (acknowledged, ⟨(eventType, handlers) :: types, .batch messages⟩)
      | .lost => some (acknowledged, ⟨types, .idle⟩)
      | .refused => some (s, ⟨types, .idle⟩)
  | ⟨(eventType, handlers) :: types, .dispatch _ _ [] false messages⟩, .finish _ =>
      some (s, ⟨(eventType, handlers) :: types, .batch messages⟩)
  | _, _ => none

inductive Step where
  /-- An entry is added to the stream of an event type. -/
  | publish (eventType : String) (fields : List String)
  /-- The timer starts a pass. -/
  | tick
  /-- The process is restarted: the passes it ran are gone. -/
  | restart
  /-- Pass number `i` takes its next step. -/
  | pass (i : Nat) (action : Action)
deriving DecidableEq

def step (bus : Bus) (s : System) : Step → Option System
  | .publish eventType fields => some (s.xadd (bus.streamKey eventType) fields)
  | .tick => some { s with passes := s.passes ++ [⟨bus.handlers, .idle⟩] }
  | .restart => some { s with passes := [] }
  | .pass i action =>
      match s.passes[i]? with
      | none => none
      | some p =>
        match passStep bus s p action with
        | none => none
        | some (s', p') => some { s' with passes := s'.passes.set i p' }

/-- The states a run of steps leads to. -/
abbrev run (bus : Bus) (s : System) (steps : List Step) : Option System := exec (step bus) s steps

end RedisStreamsEventBus

end Atlas
