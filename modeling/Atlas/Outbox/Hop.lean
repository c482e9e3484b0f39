import Atlas.Outbox.Processor

/-!
# Atlas.Outbox.Hop

The way of an event from the bus to the request that carries it to Event
Streaming: `writeToOutbox`, the insert, a page of `findPending`, `processBatch`
and `EventStreamingHttpClient.ingest`.

The request is a function of the stored row, and every field of the row it is
given can be read off it again (`request_inj`).  The one field it is not given
is `occurredAt`, which is stored but appears in no `IngestCommand`.
-/

namespace Atlas

open StoreKit OutboxEntryRepository

/-! ## Into the outbox -/

namespace ForwardingEventBus

/-- The fields `writeToOutbox` hands to `OutboxEntryEntity.create`. -/
def outboxParams (event : TenantAwareEvent) (occurredAt : Js.Date) : OutboxEntryParams where
  eventId := event.eventId
  eventType := event.eventType
  eventVersion := event.eventVersion
  tenantId := event.tenantId
  correlationId := event.correlationId
  actorId := event.actorId
  causationId := event.causationId
  traceId := event.traceId
  sourceService := event.sourceService
  sourceVersion := event.sourceVersion
  payload := event.payload
  occurredAt := occurredAt

/-- `writeToOutbox`.  Whatever goes wrong is logged: an invalid date, which the
database refuses, and every other reason to refuse the row. -/
def writeToOutbox (otherDates : String → Option Js.Date) (generateId : String) (now : Js.Date)
    (table : OutboxTable) (event : TenantAwareEvent) : OutboxTable :=
  match Js.newDate otherDates event.occurredAt with
  | none => table
  | some occurredAt =>
    (append table (.create generateId now (outboxParams event occurredAt))).getD table

end ForwardingEventBus

/-! ## The request -/

/-- A `Record<string, string>`, keys in the order they were first set. -/
abbrev StringRecord := List (String × String)

/-- `record[key] = value`. -/
def StringRecord.set (record : StringRecord) (key value : String) : StringRecord :=
  if (record.lookup key).isSome then
    record.map fun m => if m.1 = key then (key, value) else m
  else record ++ [(key, value)]

/-- `if (value) record[key] = value`. -/
def StringRecord.setTruthy (record : StringRecord) (key : String) (value : Option String) :
    StringRecord :=
  match Js.truthy value with
  | some v => record.set key v
  | none => record

structure EventStreamingConfig where
  baseUrl : String
  apiToken : String

/-- A request as it leaves `fetch`. -/
structure HttpRequest where
  method : String
  url : String
  headers : StringRecord
  body : String
deriving DecidableEq

def isHeaderBlank (c : Char) : Bool := c == ' ' || c == '\t' || c == '\n' || c == '\r'

/-- A character of Latin-1 that controls nothing, or the tabulator. -/
def isHeaderChar (c : Char) : Bool :=
  c == '\t' || (0x20 ≤ c.toNat && c.toNat ≤ 0x7e) || (0x80 ≤ c.toNat && c.toNat ≤ 0xff)

/-- What `fetch` makes of a header value: surrounding blanks go, and any other
character makes it throw. -/
def headerValue (value : String) : Option String :=
  let trimmed := ((value.toList.dropWhile isHeaderBlank).reverse.dropWhile isHeaderBlank).reverse
  if trimmed.all isHeaderChar then some (String.ofList trimmed) else none

namespace EventStreamingHttpClient

def headers (config : EventStreamingConfig) (command : IngestCommand) : StringRecord :=
  let headers : StringRecord :=
    [("Content-Type", "application/json"), ("Authorization", s!"Bearer {config.apiToken}"),
     ("X-Correlation-ID", command.correlationId)]
  let headers := headers.setTruthy "X-Causation-ID" command.causationId
  headers.setTruthy "X-Trace-ID" command.traceId

def metadata (command : IngestCommand) : StringRecord :=
  let metadata : StringRecord := command.metadata.getD []
  let metadata := metadata.set "event_version" (command.eventVersion.getD 1).toString
  let metadata := metadata.set "source_service" command.source
  let metadata := metadata.setTruthy "actor_id" command.actorId
  let metadata := metadata.setTruthy "causation_id" command.causationId
  let metadata := metadata.setTruthy "trace_id" command.traceId
  metadata.setTruthy "source_version" command.sourceVersion

def body (command : IngestCommand) : Json :=
  .obj [("stream_id", .str command.streamId), ("type", .str command.type),
    ("source", .str command.source), ("payload", .obj command.payload),
    ("metadata", .obj ((metadata command).map fun m => (m.1, .str m.2)))]

/-- The request `ingest` sends, if the base URL is configured and `fetch`
accepts the headers. -/
def request (config : EventStreamingConfig) (command : IngestCommand) : Option HttpRequest :=
  if config.baseUrl = "" then none
  else do
    let headers ← (headers config command).mapM fun m => do
      let value ← headerValue m.2
      some (m.1, value)
    some { method := "POST", url := s!"{config.baseUrl}/events", headers,
           body := (body command).stringify }

end EventStreamingHttpClient

/-! ## Reading a request back -/

/- Each field that is sent stands in one place of the request: in a header, in the URL or
in the body, whose members have names of their own.  So a request gives back what it was
made from. -/

/-- Replacing a value changes the look-up of its key. -/
theorem lookup_map_set (record : StringRecord) (key key' value : String) :
    (record.map fun m => if m.1 = key then (key, value) else m).lookup key' =
      if key' = key then (record.lookup key).map fun _ => value else record.lookup key' := by
  induction record with
  | nil => simp
  | cons m record ih =>
      obtain ⟨k, v⟩ := m
      by_cases hk : k = key
      · subst hk
        by_cases hk' : key' = k
        · subst hk'; simp
        · have hbeq : (key' == k) = false := beq_eq_false_iff_ne.mpr hk'
          simp [List.lookup_cons, hbeq, hk', ih]
      · by_cases hk' : key' = key
        · subst hk'
          have hbeq : (key' == k) = false := beq_eq_false_iff_ne.mpr (Ne.symm hk)
          simp [List.lookup_cons, hk, hbeq, ih]
        · simp [List.lookup_cons, hk, ih, hk']

/-- A key that is set is found with its value, and the others as before. -/
@[simp] theorem lookup_set (record : StringRecord) (key key' value : String) :
    (record.set key value).lookup key' = if key' = key then some value else record.lookup key' := by
  unfold StringRecord.set
  by_cases hmem : (record.lookup key).isSome
  · rw [if_pos hmem, lookup_map_set]
    obtain ⟨v, hv⟩ := Option.isSome_iff_exists.mp hmem
    simp [hv]
  · rw [if_neg hmem, List.lookup_append]
    by_cases hk : key' = key
    · subst hk
      simp [Option.not_isSome_iff_eq_none.mp hmem]
    · have hbeq : (key' == key) = false := beq_eq_false_iff_ne.mpr hk
      simp [List.lookup_cons, hbeq, hk]

/-- An empty value is not set. -/
@[simp] theorem lookup_setTruthy (record : StringRecord) (key key' : String)
    (value : Option String) :
    (record.setTruthy key value).lookup key' =
      if key' = key then (Js.truthy value).or (record.lookup key) else record.lookup key' := by
  unfold StringRecord.setTruthy
  cases Js.truthy value with
  | none =>
      by_cases hk : key' = key
      · simp [hk]
      · simp [hk]
  | some v => simp

/-- A header of the request is what `fetch` made of the header given. -/
theorem lookup_sent {given sent : StringRecord}
    (h : (given.mapM fun m => do
      let value ← headerValue m.2
      some (m.1, value)) = some sent) (key : String) :
    sent.lookup key = (given.lookup key).bind headerValue := by
  induction given generalizing sent with
  | nil =>
      obtain rfl : sent = [] := by simpa using h.symm
      rfl
  | cons m given ih =>
      obtain ⟨name, given₀⟩ := m
      rw [List.mapM_cons] at h
      simp only [Option.pure_def, Option.bind_eq_bind, Option.bind_eq_some_iff] at h
      obtain ⟨m', ⟨value, hvalue, hm'⟩, sent', hsent', hs⟩ := h
      obtain rfl := Option.some.inj hm'
      obtain rfl := Option.some.inj hs
      by_cases hk : key = name
      · subst hk
        simp [hvalue]
      · have hbeq : (key == name) = false := beq_eq_false_iff_ne.mpr hk
        simp only [List.lookup_cons, hbeq, ih hsent']

/-- An identifier given back by the database passes as a header unchanged. -/
theorem headerValue_uuid {s t : String} (h : Pg.uuid s = some t) : headerValue t = some t := by
  obtain ⟨u, -, rfl⟩ := Option.map_eq_some_iff.mp h
  have hex : ∀ d : Fin 16, isHeaderBlank (Pg.hexChar d) = false ∧
      isHeaderChar (Pg.hexChar d) = true := by decide
  have hyphen : isHeaderBlank '-' = false ∧ isHeaderChar '-' = true := by decide
  have hblank : u.chars.all (fun c => !isHeaderBlank c) = true := by
    simp [Pg.Uuid.chars, Pg.Group.chars, hex, hyphen]
  have hplain : u.chars.all isHeaderChar = true := by
    simp [Pg.Uuid.chars, Pg.Group.chars, hex, hyphen]
  have hkept : ∀ c ∈ u.chars, isHeaderBlank c = false := by
    simpa [List.all_eq_true] using hblank
  have hkept' : ∀ c ∈ u.chars.reverse, isHeaderBlank c = false :=
    fun c hc => hkept c (List.mem_reverse.mp hc)
  simp only [headerValue, String.toList_ofList, Js.dropWhile_of_forall hkept,
    Js.dropWhile_of_forall hkept', List.reverse_reverse, hplain, if_true]

/-! ## What is stored -/

/-- A nullable text column gives back what it was given. -/
theorem nullable_text_eq {o o' : Option String} (h : Pg.nullable Pg.text o = some o') :
    o' = o := Pg.nullable_eq (fun _ _ => Pg.text_eq) h

/-! ## The composition -/

/- The insert and the page give the row back as the columns store it: the date to the
millisecond, the payload as `jsonb` orders it, the optional fields as `null` where they
are absent. -/

/-- The event is written to the outbox, the new row is on a page of
`findPending`, and `request` is what goes out for it. -/
def Forwards (otherDates : String → Option Js.Date) (config : EventStreamingConfig)
    (event : TenantAwareEvent) (request : HttpRequest) : Prop :=
  ∃ generateId now table row page,
    row ∈ (ForwardingEventBus.writeToOutbox otherDates generateId now table event).rows ∧
    row ∉ table.rows ∧
    FindPending (ForwardingEventBus.writeToOutbox otherDates generateId now table event)
      BATCH_SIZE page ∧
    row ∈ page ∧
    EventStreamingHttpClient.request config (ingestCommand (toDomain row)) = some request

/-- The optional fields are absent or not empty. -/
structure OptionalsFilled (event : TenantAwareEvent) : Prop where
  actorId : event.actorId ≠ some ""
  causationId : event.causationId ≠ some ""
  traceId : event.traceId ≠ some ""
  sourceVersion : event.sourceVersion ≠ some ""

/-- Two payloads are one object: the order of the members does not count. -/
def SamePayload (payload payload' : JsonObject) : Prop :=
  Json.orderedMembers Pg.rank payload = Json.orderedMembers Pg.rank payload'

/-- Payloads are one object exactly when each has the members of the other, up to order
at every depth. -/
theorem samePayload_iff {payload payload' : JsonObject} (hkeys : (payload.map Prod.fst).Nodup)
    (hkeys' : (payload'.map Prod.fst).Nodup) :
    SamePayload payload payload' ↔ (payload.map (Json.orderedMember Pg.rank)).Perm
      (payload'.map (Json.orderedMember Pg.rank)) :=
  Json.orderedMembers_eq_iff Pg.rank_injective hkeys hkeys'

/-- The canonical fields, all twelve of them. -/
structure SameEnvelope (e e' : TenantAwareEvent) : Prop where
  eventId : e.eventId = e'.eventId
  eventType : e.eventType = e'.eventType
  eventVersion : e.eventVersion = e'.eventVersion
  tenantId : e.tenantId = e'.tenantId
  correlationId : e.correlationId = e'.correlationId
  actorId : e.actorId = e'.actorId
  causationId : e.causationId = e'.causationId
  traceId : e.traceId = e'.traceId
  sourceService : e.sourceService = e'.sourceService
  sourceVersion : e.sourceVersion = e'.sourceVersion
  occurredAt : e.occurredAt = e'.occurredAt
  payload : SamePayload e.payload e'.payload

/-- The canonical fields as the database stores them, without `occurredAt`. -/
structure SameButOccurredAt (e e' : TenantAwareEvent) : Prop where
  eventId : Pg.uuid e.eventId = Pg.uuid e'.eventId
  eventType : Pg.varchar 150 e.eventType = Pg.varchar 150 e'.eventType
  eventVersion : e.eventVersion = e'.eventVersion
  tenantId : Pg.uuid e.tenantId = Pg.uuid e'.tenantId
  correlationId : Pg.uuid e.correlationId = Pg.uuid e'.correlationId
  actorId : e.actorId = e'.actorId
  causationId : e.causationId = e'.causationId
  traceId : e.traceId = e'.traceId
  sourceService : e.sourceService = e'.sourceService
  sourceVersion : e.sourceVersion = e'.sourceVersion
  payload : SamePayload e.payload e'.payload

/-- The row stored for an event. -/
abbrev RowOf (e : TenantAwareEvent) (row : OutboxEntryOrmEntity) : Prop :=
  ∃ generateId now occurredAt, StoredAs
    (toOrm (.create generateId now (ForwardingEventBus.outboxParams e occurredAt))) row

/-- A request that is sent is built from the row of the event. -/
theorem forwards_cases {otherDates : String → Option Js.Date} {config : EventStreamingConfig}
    {event : TenantAwareEvent} {request : HttpRequest}
    (h : Forwards otherDates config event request) :
    ∃ row, RowOf event row ∧
      EventStreamingHttpClient.request config (ingestCommand (toDomain row)) = some request := by
  obtain ⟨generateId, now, table, row, page, hnew, hold, -, -, hrequest⟩ := h
  unfold ForwardingEventBus.writeToOutbox at hnew
  split at hnew
  · exact absurd hnew hold
  · next occurredAt _ =>
      refine ⟨row, ⟨generateId, now, occurredAt, ?_⟩, hrequest⟩
      cases happend : append table
          (.create generateId now (ForwardingEventBus.outboxParams event occurredAt)) with
      | none =>
          rw [happend] at hnew
          exact absurd hnew hold
      | some table' =>
          rw [happend] at hnew
          obtain ⟨row', hstored, hrows, -⟩ := append_cases happend
          have hmem : row ∈ table.rows ++ [row'] := hrows ▸ hnew
          rcases List.mem_append.mp hmem with hmem | hmem
          · exact absurd hmem hold
          · obtain rfl := List.mem_singleton.mp hmem
            exact storedAs_of_stored hstored

/-- The metadata of the request, key by key. -/
theorem lookup_metadata (entry : OutboxEntryEntity) :
    let metadata := EventStreamingHttpClient.metadata (ingestCommand entry)
    metadata.lookup "event_id" = some entry.eventId ∧
    metadata.lookup "tenant_id" = some entry.tenantId ∧
    metadata.lookup "event_version" = some entry.eventVersion.toString ∧
    metadata.lookup "actor_id" = Js.truthy entry.actorId ∧
    metadata.lookup "causation_id" = Js.truthy entry.causationId ∧
    metadata.lookup "trace_id" = Js.truthy entry.traceId ∧
    metadata.lookup "source_version" = Js.truthy entry.sourceVersion := by
  simp [EventStreamingHttpClient.metadata, ingestCommand, List.lookup_cons]

/-- A request has the headers and the body that `ingest` builds, the values as `fetch`
takes them. -/
theorem request_cases {config : EventStreamingConfig} {command : IngestCommand}
    {request : HttpRequest}
    (h : EventStreamingHttpClient.request config command = some request) :
    (∀ key, request.headers.lookup key =
      ((EventStreamingHttpClient.headers config command).lookup key).bind headerValue) ∧
      request.body = (EventStreamingHttpClient.body command).stringify := by
  unfold EventStreamingHttpClient.request at h
  split at h
  · contradiction
  · obtain ⟨sent, hsent, h⟩ := Option.bind_eq_some_iff.mp h
    obtain rfl := Option.some.inj h
    exact ⟨lookup_sent hsent, rfl⟩

/-- The correlation id is the header of its own. -/
theorem lookup_correlation (config : EventStreamingConfig) (entry : OutboxEntryEntity) :
    (EventStreamingHttpClient.headers config (ingestCommand entry)).lookup "X-Correlation-ID" =
      some entry.correlationId := by
  simp [EventStreamingHttpClient.headers, ingestCommand, List.lookup_cons]

/-- Records that are written alike are one. -/
theorem metadata_members_inj {m m' : StringRecord}
    (h : (m.map fun x => (x.1, Json.str x.2)) = m'.map fun x => (x.1, Json.str x.2)) :
    m = m' := by
  have hinj : Function.Injective fun x : String × String => (x.1, Json.str x.2) := by
    intro x y hxy
    simp only [Prod.mk.injEq, Json.str.injEq] at hxy
    exact Prod.ext hxy.1 hxy.2
  exact List.map_injective_iff.mpr hinj h

/-- **The request determines what it is made from.** -/
theorem request_inj {config : EventStreamingConfig} {entry entry' : OutboxEntryEntity}
    {request : HttpRequest}
    (h : EventStreamingHttpClient.request config (ingestCommand entry) = some request)
    (h' : EventStreamingHttpClient.request config (ingestCommand entry') = some request) :
    entry.eventType = entry'.eventType ∧ entry.sourceService = entry'.sourceService ∧
      entry.payload = entry'.payload ∧
      headerValue entry.correlationId = headerValue entry'.correlationId ∧
      EventStreamingHttpClient.metadata (ingestCommand entry) =
        EventStreamingHttpClient.metadata (ingestCommand entry') := by
  obtain ⟨hheaders, hbody⟩ := request_cases h
  obtain ⟨hsame, hbody'⟩ := request_cases h'
  have hcorrelation : headerValue entry.correlationId = headerValue entry'.correlationId := by
    have hlookup := (hheaders "X-Correlation-ID").symm.trans (hsame "X-Correlation-ID")
    rw [lookup_correlation, lookup_correlation] at hlookup
    exact hlookup
  have hjson : EventStreamingHttpClient.body (ingestCommand entry) =
      EventStreamingHttpClient.body (ingestCommand entry') :=
    Json.stringify_inj.mp (hbody.symm.trans hbody')
  simp only [EventStreamingHttpClient.body, Json.obj.injEq, Json.str.injEq, List.cons.injEq,
    Prod.mk.injEq, true_and, and_true] at hjson
  obtain ⟨-, htype, hsource, hpayload, hmetadata⟩ := hjson
  exact ⟨htype, hsource, hpayload, hcorrelation, metadata_members_inj hmetadata⟩

/-- Two rows agree on everything that is sent. -/
structure SameSent (row row' : OutboxEntryOrmEntity) : Prop where
  eventId : row.eventId = row'.eventId
  eventType : row.eventType = row'.eventType
  eventVersion : row.eventVersion = row'.eventVersion
  tenantId : row.tenantId = row'.tenantId
  correlationId : row.correlationId = row'.correlationId
  actorId : row.actorId = row'.actorId
  causationId : row.causationId = row'.causationId
  traceId : row.traceId = row'.traceId
  sourceService : row.sourceService = row'.sourceService
  sourceVersion : row.sourceVersion = row'.sourceVersion
  payload : row.payload = row'.payload

/-- Rows that agree in what is sent give one command. -/
theorem SameSent.ingestCommand {row row' : OutboxEntryOrmEntity} (h : SameSent row row') :
    ingestCommand (toDomain row) = Atlas.ingestCommand (toDomain row') := by
  obtain ⟨h₁, h₂, h₃, h₄, h₅, h₆, h₇, h₈, h₉, h₁₀, h₁₁⟩ := h
  simp only [Atlas.ingestCommand, toDomain, h₁, h₂, h₃, h₄, h₅, h₆, h₇, h₈, h₉, h₁₀, h₁₁]

variable {e e' : TenantAwareEvent} {row row' : OutboxEntryOrmEntity}

/-- Columns agree exactly when what they store does. -/
theorem column_eq_iff {α β : Type} {stored : α → Option β} {a a' : α} {b b' : β}
    (h : stored a = some b) (h' : stored a' = some b') : b = b' ↔ stored a = stored a' := by
  rw [h, h', Option.some.injEq]

/-- Columns that store a value as it is agree exactly when the values do. -/
theorem unchanged_eq_iff {α : Type} {a a' b b' : α} (h : b = a) (h' : b' = a') :
    b = b' ↔ a = a' := by
  rw [h, h']

/-- Rows agree on what is sent when their events do, as stored. -/
theorem sameSent_iff (h : RowOf e row) (h' : RowOf e' row') :
    SameSent row row' ↔ SameButOccurredAt e e' := by
  obtain ⟨_, _, _, hs⟩ := h
  obtain ⟨_, _, _, hs'⟩ := h'
  have hid := column_eq_iff hs.eventId hs'.eventId
  have htype := column_eq_iff hs.eventType hs'.eventType
  have hversion :=
    unchanged_eq_iff (Pg.int4OfNumber_eq hs.eventVersion) (Pg.int4OfNumber_eq hs'.eventVersion)
  have htenant := column_eq_iff hs.tenantId hs'.tenantId
  have hcorrelation := column_eq_iff hs.correlationId hs'.correlationId
  have hactor := unchanged_eq_iff (nullable_text_eq hs.actorId) (nullable_text_eq hs'.actorId)
  have hcausation :=
    unchanged_eq_iff (nullable_text_eq hs.causationId) (nullable_text_eq hs'.causationId)
  have htrace := unchanged_eq_iff (nullable_text_eq hs.traceId) (nullable_text_eq hs'.traceId)
  have hsource := unchanged_eq_iff (Pg.text_eq hs.sourceService) (Pg.text_eq hs'.sourceService)
  have hsourceVersion :=
    unchanged_eq_iff (nullable_text_eq hs.sourceVersion) (nullable_text_eq hs'.sourceVersion)
  have hpayload := unchanged_eq_iff (Pg.jsonObject_eq hs.payload) (Pg.jsonObject_eq hs'.payload)
  constructor
  · intro h
    exact ⟨hid.mp h.eventId, htype.mp h.eventType, hversion.mp h.eventVersion,
      htenant.mp h.tenantId, hcorrelation.mp h.correlationId, hactor.mp h.actorId,
      hcausation.mp h.causationId, htrace.mp h.traceId, hsource.mp h.sourceService,
      hsourceVersion.mp h.sourceVersion, hpayload.mp h.payload⟩
  · intro h
    exact ⟨hid.mpr h.eventId, htype.mpr h.eventType, hversion.mpr h.eventVersion,
      htenant.mpr h.tenantId, hcorrelation.mpr h.correlationId, hactor.mpr h.actorId,
      hcausation.mpr h.causationId, htrace.mpr h.traceId, hsource.mpr h.sourceService,
      hsourceVersion.mpr h.sourceVersion, hpayload.mpr h.payload⟩

/-- An optional field that is not the empty string is not dropped. -/
theorem truthy_stored {o o' : Option String} (h : Pg.nullable Pg.text o = some o')
    (hfilled : o ≠ some "") : Js.truthy o' = o' := by
  rw [nullable_text_eq h]
  exact Js.truthy_of_ne hfilled

/-- An optional field that is not empty is sent as it is stored. -/
theorem optional_eq {o o' a a' sent : Option String} (h : Pg.nullable Pg.text o = some a)
    (h' : Pg.nullable Pg.text o' = some a') (hfilled : o ≠ some "") (hfilled' : o' ≠ some "")
    (hsent : sent = Js.truthy a) (hsent' : sent = Js.truthy a') : a = a' := by
  rw [← truthy_stored h hfilled, ← truthy_stored h' hfilled', ← hsent, hsent']

/-- A version that is stored is known by its text. -/
theorem version_inj {v v' w w' : Js.Double} (h : Pg.int4OfNumber v = some w)
    (h' : Pg.int4OfNumber v' = some w') (heq : w.toString = w'.toString) : w = w' := by
  rw [Pg.int4OfNumber_eq h, Pg.int4OfNumber_eq h'] at heq ⊢
  exact (Js.Double.Plain.toString_inj (Pg.int4OfNumber_plain h) (Pg.int4OfNumber_plain h')).mp heq

/-- Rows that give one request agree in what is sent. -/
theorem sameSent_of_request {config : EventStreamingConfig} {request : HttpRequest}
    (hfilled : OptionalsFilled e) (hfilled' : OptionalsFilled e') (hrow : RowOf e row)
    (hrow' : RowOf e' row')
    (h : EventStreamingHttpClient.request config (ingestCommand (toDomain row)) = some request)
    (h' : EventStreamingHttpClient.request config (ingestCommand (toDomain row')) = some request) :
    SameSent row row' := by
  obtain ⟨_, _, _, hs⟩ := hrow
  obtain ⟨_, _, _, hs'⟩ := hrow'
  obtain ⟨htype, hsource, hpayload, hcorrelation, hmetadata⟩ := request_inj h h'
  obtain ⟨hid, htenant, hversion, hactor, hcausation, htrace, hsourceVersion⟩ :=
    lookup_metadata (toDomain row)
  obtain ⟨hid', htenant', hversion', hactor', hcausation', htrace', hsourceVersion'⟩ :=
    lookup_metadata (toDomain row')
  rw [hmetadata] at hid htenant hversion hactor hcausation htrace hsourceVersion
  have hstring : row.eventVersion.toString = row'.eventVersion.toString :=
    Option.some.inj (hversion.symm.trans hversion')
  exact
    { eventId := Option.some.inj (hid.symm.trans hid')
      eventType := htype
      eventVersion := version_inj hs.eventVersion hs'.eventVersion hstring
      tenantId := Option.some.inj (htenant.symm.trans htenant')
      correlationId := Option.some.inj ((headerValue_uuid hs.correlationId).symm.trans
        (hcorrelation.trans (headerValue_uuid hs'.correlationId)))
      -- The optional fields were sent as they are, since none of them is empty.
      actorId := optional_eq hs.actorId hs'.actorId hfilled.actorId hfilled'.actorId hactor hactor'
      causationId := optional_eq hs.causationId hs'.causationId hfilled.causationId
        hfilled'.causationId hcausation hcausation'
      traceId := optional_eq hs.traceId hs'.traceId hfilled.traceId hfilled'.traceId htrace htrace'
      sourceService := hsource
      sourceVersion := optional_eq hs.sourceVersion hs'.sourceVersion hfilled.sourceVersion
        hfilled'.sourceVersion hsourceVersion hsourceVersion'
      payload := hpayload }

variable {otherDates : String → Option Js.Date} {config : EventStreamingConfig}
  {r r' : HttpRequest}

/-- **What a request tells about its event**: everything but `occurredAt`. -/
theorem request_eq_iff (hfilled : OptionalsFilled e) (hfilled' : OptionalsFilled e')
    (h : Forwards otherDates config e r) (h' : Forwards otherDates config e' r') :
    r = r' ↔ SameButOccurredAt e e' := by
  obtain ⟨row, hrow, hr⟩ := forwards_cases h
  obtain ⟨row', hrow', hr'⟩ := forwards_cases h'
  rw [← sameSent_iff hrow hrow']
  constructor
  · rintro rfl
    exact sameSent_of_request hfilled hfilled' hrow hrow' hr hr'
  · intro hsame
    rw [hsame.ingestCommand, hr'] at hr
    exact (Option.some.inj hr).symm

/-- **The hop and the canonical envelope**: two events that differ in a
canonical field give different requests exactly when they differ, as stored, in
a field other than `occurredAt`. -/
theorem hop_preserves_envelope_iff (hfilled : OptionalsFilled e) (hfilled' : OptionalsFilled e')
    (h : Forwards otherDates config e r) (h' : Forwards otherDates config e' r') :
    (¬ SameEnvelope e e' → r ≠ r') ↔ (SameEnvelope e e' ∨ ¬ SameButOccurredAt e e') := by
  have heq := request_eq_iff hfilled hfilled' h h'
  constructor
  · intro hclaim
    by_cases hsame : SameEnvelope e e'
    · exact .inl hsame
    · exact .inr fun hstored => hclaim hsame (heq.mpr hstored)
  · rintro (hsame | hdiffer) hne
    · exact absurd hsame hne
    · exact fun hrr => hdiffer (heq.mp hrr)

def sampleConfig : EventStreamingConfig := ⟨"http://event-streaming:8080", "token"⟩

/-- A `tenant.created` event, recorded at `occurredAt` by `actorId`. -/
def sampleEvent (occurredAt : String) (actorId : Option String) : TenantAwareEvent where
  eventId := Pg.uuidOf 1
  eventType := TENANT_CREATED
  eventVersion := 1
  tenantId := Pg.uuidOf 3
  correlationId := Pg.uuidOf 4
  actorId := actorId
  causationId := none
  traceId := none
  sourceService := "atlas-saas-platform"
  sourceVersion := none
  occurredAt := occurredAt
  payload := [("name", .str "Acme")]
  isReplay := none
  replayId := none
  replayedAt := none
  replayReason := none
  replaySourceEventId := none

/-- The row the sample event is stored as. -/
def sampleStored (occurredAt : Js.Date) (actorId : Option String) : OutboxEntryOrmEntity :=
  toOrm (.create (Pg.uuidOf 2) 1716500001000
    (ForwardingEventBus.outboxParams (sampleEvent "" actorId) occurredAt))

def sampleRequest (actorId : Option String) : HttpRequest :=
  (EventStreamingHttpClient.request sampleConfig
    (ingestCommand (toDomain (sampleStored 0 actorId)))).getD ⟨"", "", [], ""⟩

/-- The table after the sample event was written to it. -/
def sampleOutbox (occurredAt : String) (actorId : Option String) : OutboxTable :=
  ForwardingEventBus.writeToOutbox (fun _ => none) (Pg.uuidOf 2) 1716500001000 .empty
    (sampleEvent occurredAt actorId)

/-- The only entry of a table is the page. -/
theorem findPending_singleton {table : OutboxTable} {row : OutboxEntryOrmEntity}
    (hrows : table.rows = [row]) (hpending : row.status = .pending) :
    FindPending table BATCH_SIZE [row] := by
  refine ⟨?_, ?_, ?_, ?_, ?_⟩
  · simp [hrows, hpending]
  · simp
  · simp
  · simp [hrows, hpending, BATCH_SIZE]
  · simp [hrows]

theorem forwards_sample (s : String) (occurredAt : Js.Date) (actorId : Option String)
    (hrows : (sampleOutbox s actorId).rows = [sampleStored occurredAt actorId])
    (hsent : (EventStreamingHttpClient.request sampleConfig
      (ingestCommand (toDomain (sampleStored 0 actorId)))).isSome) :
    Forwards (fun _ => none) sampleConfig (sampleEvent s actorId) (sampleRequest actorId) := by
  have hrow : sampleStored occurredAt actorId ∈ (sampleOutbox s actorId).rows := by
    rw [hrows]
    exact List.mem_singleton_self _
  refine ⟨Pg.uuidOf 2, 1716500001000, .empty, sampleStored occurredAt actorId, _, hrow, by simp,
    findPending_singleton hrows rfl, List.mem_singleton_self _, ?_⟩
  obtain ⟨request, hrequest⟩ := Option.isSome_iff_exists.mp hsent
  rw [sampleRequest, hrequest]
  exact hrequest

theorem forwards_early : Forwards (fun _ => none) sampleConfig
    (sampleEvent "2024-05-23T21:33:20.000Z" none) (sampleRequest none) :=
  forwards_sample _ 1716500000000 none (by decide +kernel) (by decide +kernel)

theorem optionalsFilled_sample {s : String} {actorId : Option String} (h : actorId ≠ some "") :
    OptionalsFilled (sampleEvent s actorId) :=
  ⟨h, by simp [sampleEvent], by simp [sampleEvent], by simp [sampleEvent]⟩

/-- Events that differ in their actor are told apart. -/
theorem hop_preserves_envelope_iff_actor :
    ¬ SameEnvelope (sampleEvent "2024-05-23T21:33:20.000Z" none)
        (sampleEvent "2024-05-23T21:33:20.000Z" (some "system")) ∧
      sampleRequest none ≠ sampleRequest (some "system") := by
  have hdiffer : ¬ SameEnvelope (sampleEvent "2024-05-23T21:33:20.000Z" none)
      (sampleEvent "2024-05-23T21:33:20.000Z" (some "system")) :=
    fun hsame => absurd hsame.actorId (by simp [sampleEvent])
  have hsystem := forwards_sample "2024-05-23T21:33:20.000Z" 1716500000000 (some "system")
    (by decide +kernel) (by decide +kernel)
  refine ⟨hdiffer, (hop_preserves_envelope_iff (optionalsFilled_sample (by simp))
    (optionalsFilled_sample (by simp)) forwards_early hsystem).mpr ?_ hdiffer⟩
  exact .inr fun hsame => absurd hsame.actorId (by simp [sampleEvent])

/-- Events that differ in `occurredAt` alone give one request. -/
theorem hop_drops_occurredAt :
    ¬ ∀ (otherDates : String → Option Js.Date) (config : EventStreamingConfig)
      (e e' : TenantAwareEvent) (r r' : HttpRequest), OptionalsFilled e → OptionalsFilled e' →
      Forwards otherDates config e r → Forwards otherDates config e' r' →
      ¬ SameEnvelope e e' → r ≠ r' := by
  intro hclaim
  have hlate := forwards_sample "2024-05-24T21:33:20.000Z" 1716586400000 none
    (by decide +kernel) (by decide +kernel)
  refine hclaim _ _ _ _ _ _ (optionalsFilled_sample (by simp)) (optionalsFilled_sample (by simp))
    forwards_early hlate ?_ rfl
  exact fun hsame => absurd hsame.occurredAt (by simp [sampleEvent])

end Atlas
