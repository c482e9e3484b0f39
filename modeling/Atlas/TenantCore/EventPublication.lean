import Atlas.TenantCore.Handlers

/-!
# Atlas.TenantCore.EventPublication

What becomes of the domain events of an organization command.

The events are on the aggregate the handler changed.  What it loops over is the
aggregate that comes back from the repository, which the mapper has built from
the row, and that one has none.
-/

namespace Atlas

open StoreKit

/-- A bus whose `publish` never rejects. -/
def recordingBus (event : TenantAwareEvent) : App Unit :=
  .modify fun w => { w with published := w.published ++ [event] }

/-- The commands that announce what they did. -/
inductive OrganizationCommand where
  | create (command : CreateOrganizationCommand)
  | suspend (command : SuspendOrganizationCommand)
deriving DecidableEq

def OrganizationCommand.execute (ctx : Option String) (rt : Runtime) :
    OrganizationCommand → App (Result OrganizationDto)
  | .create command => CreateOrganizationHandler.execute recordingBus rt command
  | .suspend command => SuspendOrganizationHandler.execute recordingBus ctx rt command

/-- The aggregate as the command leaves it, before it is saved. -/
def OrganizationCommand.aggregate (rt : Runtime) (w : World) :
    OrganizationCommand → Option (Except Exception OrganizationAggregate)
  | .create command => some (OrganizationAggregate.create rt command.name command.slug
      command.planTier (command.actorId.getD rt.ownerId) command.correlationId)
  | .suspend command => do
      let key ← Pg.uuid command.organizationId
      let row ← w.organizations.find? key
      return do
        let organization ← OrganizationMapper.toDomain row
        command.apply rt organization

/-- The integration event type of a domain event class. -/
def integrationType (className : String) : Option String :=
  if className = "TenantCreatedDomainEvent" then some TENANT_CREATED
  else if className = "TenantSuspendedDomainEvent" then some TENANT_SUSPENDED
  else none

/-- The published event is the domain event under its type. -/
structure Announces (event : DomainEvent) (published : TenantAwareEvent) : Prop where
  eventId : published.eventId = event.eventId
  tenantId : published.tenantId = event.tenantId
  correlationId : published.correlationId = event.correlationId
  actorId : published.actorId = event.actorId
  occurredAt : published.occurredAt = Js.toISOString event.occurredAt
  payload : published.payload = event.payload
  eventType : some published.eventType = integrationType event.eventType

/-- The events handed to the bus between two states are those the command
recorded. -/
def EventsAnnounced (rt : Runtime) (w w' : World) (command : OrganizationCommand) : Prop :=
  ∃ org handed, command.aggregate rt w = some (.ok org) ∧
    w'.published = w.published ++ handed ∧ List.Forall₂ Announces org.domainEvents handed

/-! ## What the handlers do -/

/-- An organization is created with one event on record. -/
theorem create_events {rt : Runtime} {name slug ownerId correlationId : String}
    {planTier : TenantPlanTier} {org : OrganizationAggregate}
    (h : OrganizationAggregate.create rt name slug planTier ownerId correlationId = .ok org) :
    ∃ event, org.domainEvents = [event] := by
  obtain ⟨normal, -, rfl⟩ := OrganizationAggregate.create_cases h
  exact ⟨_, rfl⟩

/-- A suspension records one more event. -/
theorem suspend_events {rt : Runtime} {org org' : OrganizationAggregate}
    {reason suspendedBy correlationId : String}
    (h : org.suspend rt reason suspendedBy correlationId = .ok org') :
    ∃ event, org'.domainEvents = org.domainEvents ++ [event] := by
  obtain ⟨-, event, rfl⟩ := OrganizationAggregate.suspend_cases h
  exact ⟨event, rfl⟩

/-- Nothing is published for an aggregate that has recorded nothing. -/
theorem publishAll_none {publish : TenantAwareEvent → App Unit} {eventType : String}
    {events : List DomainEvent} {w w' : World} (hnone : events = [])
    (h : (publishAll publish eventType events).run w = (.ok (), w')) : w' = w := by
  subst hnone
  cases h
  rfl

/-- A creation that succeeds has saved an aggregate and published the events of
what came back. -/
theorem create_ok {rt : Runtime} {command : CreateOrganizationCommand} {dto : OrganizationDto}
    {publish : TenantAwareEvent → App Unit} {w w' : World}
    (h : (CreateOrganizationHandler.execute publish rt command).run w = (.ok (.ok dto), w')) :
    ∃ org, OrganizationAggregate.create rt command.name command.slug command.planTier
        (command.actorId.getD rt.ownerId) command.correlationId = .ok org ∧
      w'.published = w.published := by
  obtain ⟨slugExists, w₁, hslug, hrest⟩ := Program.bind_run_eq_ok h
  obtain rfl := OrganizationRepository.existsBySlug_ok hslug
  split at hrest
  · cases hrest
  · obtain ⟨org, w₂, hlift, hprovision⟩ := Program.bind_run_eq_ok hrest
    obtain ⟨hcreate, rfl⟩ := lift_ok hlift
    obtain ⟨saved, w₃, hsaved, hpublish⟩ := Program.bind_run_eq_ok hprovision
    obtain ⟨table, rfl, hdomain⟩ := OrganizationRepository.provision_ok hsaved
    obtain ⟨⟨⟩, w₄, hpublished, hpure⟩ := Program.bind_run_eq_ok hpublish
    obtain rfl := publishAll_none (OrganizationMapper.domainEvents_toDomain hdomain) hpublished
    cases hpure
    exact ⟨org, hcreate, rfl⟩

/-- A suspension that succeeds has saved an aggregate and published the events of
what came back. -/
theorem suspend_ok {ctx : Option String} {rt : Runtime} {command : SuspendOrganizationCommand}
    {dto : OrganizationDto} {publish : TenantAwareEvent → App Unit} {w w' : World}
    (h : (SuspendOrganizationHandler.execute publish ctx rt command).run w =
      (.ok (.ok dto), w')) :
    ∃ key row org org', Pg.uuid command.organizationId = some key ∧
      w.organizations.find? key = some row ∧ OrganizationMapper.toDomain row = .ok org ∧
      command.apply rt org = .ok org' ∧ w'.published = w.published := by
  obtain ⟨found, w₁, hfind, hrest⟩ := Program.bind_run_eq_ok h
  split at hrest
  · cases hrest
  · next org =>
      obtain ⟨-, rfl, key, row, hkey, hrow, hdomain⟩ := OrganizationRepository.findById_ok hfind
      obtain ⟨org', w₂, hlift, hsave⟩ := Program.bind_run_eq_ok hrest
      obtain ⟨happly, rfl⟩ := lift_ok hlift
      obtain ⟨saved, w₃, hsaved, hpublish⟩ := Program.bind_run_eq_ok hsave
      obtain ⟨-, table, -, rfl, hback⟩ := OrganizationRepository.save_ok hsaved
      obtain ⟨⟨⟩, w₄, hpublished, hpure⟩ := Program.bind_run_eq_ok hpublish
      obtain rfl := publishAll_none (OrganizationMapper.domainEvents_toDomain hback) hpublished
      cases hpure
      exact ⟨key, row, org, org', hkey, hrow, hdomain, happly, rfl⟩

/-- A command that answers recorded one event and published none. -/
theorem one_recorded_none_published {ctx : Option String} {rt : Runtime}
    {command : OrganizationCommand} {dto : OrganizationDto} {w w' : World}
    (h : (command.execute ctx rt).run w = (.ok (.ok dto), w')) :
    w'.published = w.published ∧
      ∃ org event, command.aggregate rt w = some (.ok org) ∧ org.domainEvents = [event] := by
  cases command with
  | create command =>
      obtain ⟨org, hcreate, hpublished⟩ := create_ok h
      obtain ⟨event, hevents⟩ := create_events hcreate
      exact ⟨hpublished, org, event, congrArg some hcreate, hevents⟩
  | suspend command =>
      obtain ⟨key, row, org, org', hkey, hrow, hdomain, happly, hpublished⟩ := suspend_ok h
      obtain ⟨event, hevents⟩ := suspend_events happly
      rw [OrganizationMapper.domainEvents_toDomain hdomain, List.nil_append] at hevents
      have haggregate : OrganizationCommand.aggregate rt w (.suspend command) =
          some (.ok org') := by
        have hbind : (OrganizationMapper.toDomain row >>= fun org => command.apply rt org) =
            .ok org' := by
          rw [hdomain]
          exact happly
        simp only [OrganizationCommand.aggregate, hkey, Option.bind_eq_bind, Option.bind_some, hrow]
        exact congrArg some hbind
      exact ⟨hpublished, org', event, haggregate, hevents⟩

/-- One event on record and none published are not the same. -/
theorem not_announced {rt : Runtime} {command : OrganizationCommand} {w w' : World}
    {org : OrganizationAggregate} {event : DomainEvent} (hpublished : w'.published = w.published)
    (haggregate : command.aggregate rt w = some (.ok org)) (hevents : org.domainEvents = [event]) :
    ¬ EventsAnnounced rt w w' command := by
  rintro ⟨org', handed, haggregate', hhanded, hannounced⟩
  have horg : org = org' := by
    have hsame := haggregate.symm.trans haggregate'
    cases hsame
    rfl
  have hnone : handed = [] := by
    rw [hpublished] at hhanded
    exact List.append_right_eq_self.mp hhanded.symm
  rw [← horg, hevents, hnone] at hannounced
  cases hannounced

/-- **No event is announced**: whenever a command answers, what was handed to
the bus is not what the aggregate recorded. -/
theorem events_never_announced {ctx : Option String} {rt : Runtime}
    {command : OrganizationCommand} {dto : OrganizationDto} {w w' : World}
    (h : (command.execute ctx rt).run w = (.ok (.ok dto), w')) :
    ¬ EventsAnnounced rt w w' command := by
  obtain ⟨hpublished, org, event, haggregate, hevents⟩ := one_recorded_none_published h
  exact not_announced hpublished haggregate hevents

/-- An active organization and its owner. -/
def sampleOrganization : OrganizationOrmEntity where
  id := Pg.uuidOf 1
  name := "Acme"
  slug := "acme"
  planTier := .FREE
  status := .ACTIVE
  ownerId := Pg.uuidOf 2
  provisionedAt := some 1716500000000
  settings := Json.orderedMembers Pg.rank OrganizationAggregate.defaultSettings
  createdAt := 1716500000000
  updatedAt := 1716500000000

def sampleUser : UserOrmEntity where
  id := Pg.uuidOf 2
  email := "owner@acme.test"
  passwordHash := "$2b$12$abcdefghijklmnopqrstuv"
  displayName := "Owner"
  status := .active
  lastLoginAt := none
  emailVerifiedAt := some 1716500000000
  createdAt := some 1716500000000
  updatedAt := some 1716500000000

def sampleWorld : World where
  users := ⟨[sampleUser], List.nodup_singleton _⟩
  organizations := ⟨[sampleOrganization], List.nodup_singleton _⟩
  workflowDefinitions := .empty
  workflowExecutions := .empty
  auditEvents := .empty
  outboxEntries := .empty
  tenants := []
  published := []

def sampleRuntime : Runtime :=
  ⟨Pg.uuidOf 8, Pg.uuidOf 9, Pg.uuidOf 10, 1716500001000, 1716500001001, 1716500001002,
    1716500001003, 1716500001004⟩

def sampleSuspension : SuspendOrganizationCommand :=
  ⟨Pg.uuidOf 1, "unpaid", Pg.uuidOf 1, Pg.uuidOf 11, some (Pg.uuidOf 2)⟩

theorem sampleSuspension_answers :
    answered ((OrganizationCommand.execute (some (Pg.uuidOf 1)) sampleRuntime
      (.suspend sampleSuspension)).run sampleWorld) = true := by
  decide +kernel

theorem events_never_announced_suspended :
    ∃ dto w', (OrganizationCommand.execute (some (Pg.uuidOf 1)) sampleRuntime
        (.suspend sampleSuspension)).run sampleWorld = (.ok (.ok dto), w') ∧
      ¬ EventsAnnounced sampleRuntime sampleWorld w' (.suspend sampleSuspension) := by
  obtain ⟨dto, w', h⟩ := answer_of_answered sampleSuspension_answers
  exact ⟨dto, w', h, events_never_announced h⟩

/-- The suspension answers, and nobody hears of it. -/
theorem suspension_unannounced :
    ¬ ∀ (ctx : Option String) (rt : Runtime) (command : OrganizationCommand)
      (dto : OrganizationDto) (w w' : World),
      (command.execute ctx rt).run w = (.ok (.ok dto), w') → EventsAnnounced rt w w' command := by
  intro hclaim
  obtain ⟨dto, w', h⟩ := answer_of_answered sampleSuspension_answers
  obtain ⟨hpublished, org, event, haggregate, hevents⟩ := one_recorded_none_published h
  exact not_announced hpublished haggregate hevents (hclaim _ _ _ _ _ _ h)

end Atlas
