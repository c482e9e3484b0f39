import Atlas.TenantCore.Lifecycle

/-!
# Atlas.TenantCore.Mapping

An organization, its row, and the organization read back.

`toDomain` validates the slug once more and looks the limits of the plan up by
its tier, so it can throw on a row or read something else than was written.  On
the row of an organization it does neither: a slug is its own normal form, and
whatever is done to an organization, its plan stays the one of its tier
(`PlanOfTier`).  The recorded events have no column and are not read back.
-/

namespace Atlas

open StoreKit

namespace OrganizationAggregate

/-- The limits are those of the tier. -/
def PlanOfTier (org : OrganizationAggregate) : Prop := org.plan = .forTier org.plan.tier

def clearDomainEvents (org : OrganizationAggregate) : OrganizationAggregate :=
  { org with domainEvents := [] }

end OrganizationAggregate

namespace OrganizationMapper

/-- **An organization with the plan of its tier** is read back as it was written,
without the events. -/
theorem toDomain_toOrm {org : OrganizationAggregate} (h : org.PlanOfTier) :
    toDomain (toOrm org) = .ok org.clearDomainEvents := by
  have hslug : TenantSlug.create (toOrm org).slug = .ok org.slug := org.slug.create_value
  rw [toDomain, hslug]
  simp only [toOrm, OrganizationAggregate.clearDomainEvents]
  rw [← h]
  rfl

end OrganizationMapper

namespace Organization

/-! ## Operations -/

/-- What can be done to an organization: a method is called, or the recorded
events are dropped. -/
inductive Operation where
  | method (call : Call)
  | clearDomainEvents
deriving DecidableEq

def Operation.run (org : OrganizationAggregate) :
    Operation → Except Exception Unit × OrganizationAggregate
  | .method call => call.run org
  | .clearDomainEvents => (.ok (), org.clearDomainEvents)

theorem planOfTier_create {rt : Runtime} {name slug ownerId correlationId : String}
    {planTier : TenantPlanTier} {org : OrganizationAggregate}
    (h : OrganizationAggregate.create rt name slug planTier ownerId correlationId = .ok org) :
    org.PlanOfTier := by
  obtain ⟨normal, -, rfl⟩ := OrganizationAggregate.create_cases h
  simp [OrganizationAggregate.PlanOfTier]

/-- One operation keeps the plan the one of its tier. -/
theorem planOfTier_run (org : OrganizationAggregate) (operation : Operation)
    (h : org.PlanOfTier) : (operation.run org).2.PlanOfTier := by
  cases operation with
  | clearDomainEvents =>
      show org.clearDomainEvents.PlanOfTier
      exact h
  | method call =>
      have hchange := run_change org call
      rw [Operation.run]
      generalize call.run org = result at hchange ⊢
      cases hchange with
      | throws x => exact h
      | provisions hstatus rt defaultProjectId correlationId => exact h
      | suspends hstatus rt reason suspendedBy correlationId => exact h
      | reactivates hstatus updatedAt => exact h
      | details name plan settings updatedAt hplan =>
          cases hplan with
          | inl hsame => rw [OrganizationAggregate.PlanOfTier, hsame]; exact h
          | inr htier =>
              obtain ⟨tier, rfl⟩ := htier
              simp [OrganizationAggregate.PlanOfTier]

/-- **The round trip of an organization**: after any operations it is read back
from its row as it is, and the slug of the row is accepted unchanged. -/
theorem mapping_roundTrip {rt : Runtime} {name slug ownerId correlationId : String}
    {planTier : TenantPlanTier} {created : OrganizationAggregate}
    (hcreate : OrganizationAggregate.create rt name slug planTier ownerId correlationId =
      .ok created) (operations : List Operation) :
    let org := final Operation.run created operations
    OrganizationMapper.toDomain (OrganizationMapper.toOrm org) = .ok org.clearDomainEvents ∧
      ∀ value slug, TenantSlug.create value = .ok slug →
        TenantSlug.create slug.value = .ok slug := by
  intro org
  have hplan : org.PlanOfTier := final_keeps planOfTier_run operations (planOfTier_create hcreate)
  constructor
  · exact OrganizationMapper.toDomain_toOrm hplan
  · intro value slug _
    exact slug.create_value

/-- An organization that is provisioned, changes its plan and is suspended twice. -/
theorem mapping_roundTrip_sample :
    ∃ created, OrganizationAggregate.create sampleRuntime "Acme" "acme" .FREE (Pg.uuidOf 2) "c-0" =
        .ok created ∧
      let org := final Operation.run created (.clearDomainEvents :: sampleCalls.map .method)
      OrganizationMapper.toDomain (OrganizationMapper.toOrm org) = .ok org.clearDomainEvents ∧
        ∀ value slug, TenantSlug.create value = .ok slug →
          TenantSlug.create slug.value = .ok slug := by
  have hslug := TenantSlug.create_value ⟨"acme", by decide⟩
  have hcreate := OrganizationAggregate.create.eq_1 sampleRuntime "Acme" "acme" .FREE (Pg.uuidOf 2) "c-0"
  rw [hslug] at hcreate
  exact ⟨_, hcreate, mapping_roundTrip hcreate (.clearDomainEvents :: sampleCalls.map .method)⟩

end Organization

end Atlas
