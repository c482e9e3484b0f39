import Atlas.Constraints
import Atlas.TenantCore.Concurrency
import Atlas.TenantCore.Lifecycle

/-!
# Atlas.TenantCore.Names

The names of organizations.

Only `rename` looks at a name.  An organization keeps the name it was created
with until it is renamed for the first time (`validName_created_iff`), and the
handlers store the names that the aggregates have (`wellNamed_final`).
-/

namespace Atlas

open StoreKit StoreKit.Program

/-- No white space at the ends, and between 2 and 100 characters. -/
structure ValidName (name : String) : Prop where
  trimmed : Js.trim name = name
  atLeast : 2 ≤ Js.length name
  atMost : Js.length name ≤ 100

instance : DecidablePred ValidName := fun name =>
  decidable_of_iff (Js.trim name = name ∧ 2 ≤ Js.length name ∧ Js.length name ≤ 100)
    ⟨fun h => ⟨h.1, h.2.1, h.2.2⟩, fun h => ⟨h.trimmed, h.atLeast, h.atMost⟩⟩

namespace OrganizationAggregate

/-- A name that is accepted is the trimmed one, and valid. -/
theorem rename_name {org renamed : OrganizationAggregate} {touchedAt : Js.Date} {newName : String}
    (h : org.rename touchedAt newName = .ok renamed) :
    renamed.name = Js.trim newName ∧ ValidName (Js.trim newName) := by
  simp only [rename] at h
  split at h
  · cases h
  · next hlength =>
      have hvalid : ValidName (Js.trim newName) := ⟨Js.trim_trim newName, by omega, by omega⟩
      split at h
      · next hsame =>
          obtain rfl := Except.ok.inj h
          exact ⟨hsame.symm, hvalid⟩
      · obtain rfl := Except.ok.inj h
        exact ⟨rfl, hvalid⟩

/-- A new name that is valid once it is trimmed is accepted. -/
theorem rename_of_valid (org : OrganizationAggregate) (touchedAt : Js.Date) {newName : String}
    (h : ValidName (Js.trim newName)) : ∃ renamed, org.rename touchedAt newName = .ok renamed := by
  have hlength : ¬ (Js.length (Js.trim newName) < 2 ∨ Js.length (Js.trim newName) > 100) := by
    have hmin := h.atLeast
    have hmax := h.atMost
    omega
  simp only [rename, if_neg hlength]
  split
  · exact ⟨_, rfl⟩
  · exact ⟨_, rfl⟩

/-- A change of the plan leaves the name. -/
theorem changePlan_name (org : OrganizationAggregate) (touchedAt : Js.Date)
    (planTier : TenantPlanTier) : (org.changePlan touchedAt planTier).name = org.name := by
  obtain ⟨plan, updatedAt, hchange⟩ := changePlan_cases org touchedAt planTier
  rw [hchange]

end OrganizationAggregate

/-! ## The aggregate -/

namespace Organization

/-- A rename that is accepted. -/
def Call.Renames : Call → Prop
  | .rename _ newName => ValidName (Js.trim newName)
  | _ => False

/-- Such a call leaves a valid name, any other call the name there was. -/
theorem name_run (org : OrganizationAggregate) (call : Call) :
    (call.Renames → ValidName (call.run org).2.name) ∧
      (¬ call.Renames → (call.run org).2.name = org.name) := by
  cases call with
  | markProvisioned rt defaultProjectId correlationId =>
      refine ⟨False.elim, fun _ => ?_⟩
      rw [Call.run, Call.method, markProvisioned_run]
      split
      · rfl
      · rfl
  | suspend rt reason suspendedBy correlationId =>
      refine ⟨False.elim, fun _ => ?_⟩
      rw [Call.run, Call.method, suspend_run, OrganizationAggregate.suspend]
      by_cases hstatus : org.status = .ACTIVE
      · rw [if_neg (not_not.mpr hstatus)]
      · rw [if_pos hstatus]
  | reactivate rt =>
      refine ⟨False.elim, fun _ => ?_⟩
      rw [Call.run, Call.method, reactivate_run]
      split
      · rfl
      · rfl
  | rename rt newName =>
      rw [Call.run, Call.method, rename_run]
      constructor
      · intro hvalid
        obtain ⟨renamed, hrename⟩ := org.rename_of_valid rt.touchedAt hvalid
        rw [hrename]
        show ValidName renamed.name
        rw [(OrganizationAggregate.rename_name hrename).1]
        exact hvalid
      · intro hinvalid
        cases hrename : org.rename rt.touchedAt newName with
        | ok renamed => exact absurd (OrganizationAggregate.rename_name hrename).2 hinvalid
        | error e => rfl
  | changePlan rt planTier =>
      refine ⟨False.elim, fun _ => ?_⟩
      rw [Call.run, Call.method, changePlan_run]
      exact org.changePlan_name rt.touchedAt planTier
  | updateSettings rt settings => exact ⟨False.elim, fun _ => rfl⟩

/-- **A name is valid** if it was at the beginning, or once the organization has
been renamed. -/
theorem validName_after_iff (org : OrganizationAggregate) (calls : List Call) :
    ValidName (after org calls).name ↔
      ValidName org.name ∨ ∃ call ∈ calls, call.Renames := by
  induction calls generalizing org with
  | nil => simp [after, final]
  | cons call calls ih =>
      obtain ⟨hrenamed, hkept⟩ := name_run org call
      have hrest : after org (call :: calls) = after (call.run org).2 calls := rfl
      rw [hrest, ih, List.exists_mem_cons_iff, ← or_assoc]
      have hone : ValidName (call.run org).2.name ↔ ValidName org.name ∨ call.Renames := by
        by_cases hrename : call.Renames
        · exact iff_of_true (hrenamed hrename) (.inr hrename)
        · rw [hkept hrename, or_iff_left hrename]
      rw [hone]

/-- **The name of a reached organization is valid exactly where the name it was
created with is, or it has been renamed since.** -/
theorem validName_created_iff {rt : Runtime} {name slug : String} {planTier : TenantPlanTier}
    {ownerId correlationId : String} {org : OrganizationAggregate}
    (hcreate : OrganizationAggregate.create rt name slug planTier ownerId correlationId = .ok org)
    (calls : List Call) :
    ValidName (after org calls).name ↔ ValidName name ∨ ∃ call ∈ calls, call.Renames := by
  obtain ⟨normal, -, rfl⟩ := OrganizationAggregate.create_cases hcreate
  exact validName_after_iff _ calls

end Organization

/-! ## The stored names -/

/-- Every stored organization has a valid name. -/
def World.WellNamed (w : World) : Prop := ∀ row ∈ w.organizations.rows, ValidName row.name

/-- The name is valid as the column keeps it. -/
def KeepsName (name : String) : Prop := ∀ kept, Pg.varchar 100 name = some kept → ValidName kept

/-- A valid name is kept as it is. -/
theorem ValidName.keeps {name : String} (h : ValidName name) : KeepsName name := by
  intro kept hkept
  have hlength : name.length ≤ 100 := (Js.length_le name).trans h.atMost
  rw [Pg.varchar_eq hlength hkept]
  exact h

/-- The name is stored as its column has it. -/
theorem OrganizationOrmEntity.name_of_stored {row row' : OrganizationOrmEntity}
    (h : row.stored = some row') : Pg.varchar 100 row.name = some row'.name := by
  obtain ⟨id, -, h⟩ := Option.bind_eq_some_iff.mp h
  obtain ⟨name, hname, h⟩ := Option.bind_eq_some_iff.mp h
  obtain ⟨slug, -, h⟩ := Option.bind_eq_some_iff.mp h
  obtain ⟨ownerId, -, h⟩ := Option.bind_eq_some_iff.mp h
  obtain ⟨provisionedAt, -, h⟩ := Option.bind_eq_some_iff.mp h
  obtain ⟨_, -, h⟩ := Option.bind_eq_some_iff.mp h
  obtain ⟨createdAt, -, h⟩ := Option.bind_eq_some_iff.mp h
  obtain ⟨updatedAt, -, h⟩ := Option.bind_eq_some_iff.mp h
  obtain rfl := Option.some.inj h
  exact hname

/-- An aggregate has the name of its row. -/
theorem OrganizationMapper.name_toDomain {orm : OrganizationOrmEntity}
    {org : OrganizationAggregate} (h : toDomain orm = .ok org) : org.name = orm.name := by
  unfold toDomain at h
  cases hslug : TenantSlug.create orm.slug with
  | error e =>
      rw [hslug] at h
      cases h
  | ok slug =>
      rw [hslug] at h
      cases h
      rfl

namespace OrganizationNames

/-- The stored names stay valid, however the program ends. -/
abbrev Keeps {α : Type} (m : App α) : Prop :=
  Triple World.WellNamed m (fun _ => World.WellNamed) World.WellNamed

variable {α : Type}

/-- What leaves the organizations alone leaves their names. -/
theorem keeps_of_leaves {m : App α} (h : Leaves World.organizations m) : Keeps m := by
  unfold Keeps Triple
  intro w hw
  have hsame := h.part_eq w
  generalize m.run w = result at hsame ⊢
  obtain ⟨answer, w'⟩ := result
  have hnames : w'.WellNamed := by
    intro row hrow
    rw [show w'.organizations = w.organizations from hsame] at hrow
    exact hw row hrow
  cases answer with
  | ok a => exact hnames
  | error e => exact hnames

theorem keeps_pure (a : α) : Keeps (pure a) := keeps_of_leaves (.pure a)

theorem keeps_lift (x : Except Exception α) : Keeps (.lift x) := keeps_of_leaves (.lift x)

/-- Publishing leaves the stored names. -/
theorem keeps_publishAll (eventType : String) (events : List DomainEvent) :
    Keeps (publishAll recordingBus eventType events) := by
  induction events with
  | nil => exact keeps_pure ()
  | cons event events ih => exact .bind (keeps_of_leaves (.modify fun _ => rfl)) fun _ => ih

/-! ### The repository -/

/-- The statement stores the name as the column keeps it. -/
theorem keeps_saveOrm (savedAt : Js.Date) {org : OrganizationAggregate} (h : KeepsName org.name) :
    Keeps (OrganizationRepository.saveOrm savedAt (OrganizationMapper.toOrm org)) := by
  unfold Keeps Triple
  intro w hw
  rw [OrganizationRepository.saveOrm_run]
  split
  · next answer w' hrun =>
      split at hrun
      · next table htable =>
          cases hrun
          obtain ⟨stored, row, hstored, -, rfl, hmerged⟩ := Typeorm.saveRow_cases htable
          have hname : ValidName stored.name :=
            h stored.name (OrganizationOrmEntity.name_of_stored hstored)
          refine forall_put hw ?_
          rcases hmerged with ⟨-, rfl⟩ | ⟨old, -, rfl⟩
          · exact hname
          · exact hname
      · cases hrun
  · next e w' hrun =>
      split at hrun
      · cases hrun
      · cases hrun
        exact hw

/-- A creation stores the name of the aggregate. -/
theorem keeps_provision (savedAt : Js.Date) {org : OrganizationAggregate}
    (h : KeepsName org.name) : Keeps (OrganizationRepository.provision savedAt org) :=
  .bind (keeps_saveOrm savedAt h) fun _ => keeps_lift _

/-- A guard leaves the stored names. -/
theorem keeps_guard (ctx : Option String) (id : String) :
    Keeps (TenantAwareRepository.guardTenantRoot OrganizationRepository.name ctx id) :=
  keeps_of_leaves (TenantAwareRepository.leaves_guardTenant (fun _ _ => rfl) _ ctx id _)

/-- A save stores the name of the aggregate, or rejects. -/
theorem keeps_save (ctx : Option String) (savedAt : Js.Date) {org : OrganizationAggregate}
    (h : KeepsName org.name) : Keeps (OrganizationRepository.save ctx savedAt org) :=
  .bind (keeps_guard ctx _) fun _ => keeps_provision savedAt h

/-- An organization that is found has a valid name. -/
theorem findById_named (ctx : Option String) (id : String) :
    Triple World.WellNamed (OrganizationRepository.findById ctx id)
      (fun found w => w.WellNamed ∧ ∀ org ∈ found, ValidName org.name) World.WellNamed := by
  refine .bind (keeps_guard ctx id) fun _ => ?_
  refine .bind (keeps_of_leaves (TenantAwareRepository.leaves_uuidParameter id)) fun key => ?_
  have hread : Triple World.WellNamed (.gets fun w => w.organizations.find? key : App _)
      (fun orm w => w.WellNamed ∧ ∀ row ∈ orm, ValidName row.name) World.WellNamed :=
    .gets fun w hw => ⟨hw, fun row hrow => hw row (Table.mem_of_find? hrow)⟩
  refine .bind hread fun orm => ?_
  cases orm with
  | none => exact .pure fun w hw => ⟨hw.1, fun _ h => nomatch h⟩
  | some row =>
      have hbuild : Triple (fun w : World => w.WellNamed ∧ ∀ r ∈ some row, ValidName r.name)
          (.lift (OrganizationMapper.toDomain row) : App _)
          (fun org w => w.WellNamed ∧ ValidName org.name) World.WellNamed := by
        refine .lift (fun org horg w hw => ⟨hw.1, ?_⟩) fun w hw => hw.1
        rw [OrganizationMapper.name_toDomain horg]
        exact hw.2 row rfl
      refine .bind hbuild fun org => .pure fun w hw => ⟨hw.1, fun found hfound => ?_⟩
      obtain rfl := Option.some.inj hfound
      exact hw.2

/-! ### The handlers -/

/-- An update leaves the name, or gives the organization a valid one. -/
theorem update_named {command : UpdateOrganizationCommand} {rt : Runtime}
    {org org' : OrganizationAggregate} (hname : ValidName org.name)
    (h : command.apply rt org = .ok org') : ValidName org'.name := by
  obtain ⟨renamed, hrename, hplan⟩ := UpdateOrganizationCommand.apply_steps h
  have hrenamed : ValidName renamed.name := by
    rcases hrename with rfl | ⟨newName, hrename⟩
    · exact hname
    · obtain ⟨hsame, hvalid⟩ := OrganizationAggregate.rename_name hrename
      rw [hsame]
      exact hvalid
  rcases hplan with rfl | ⟨planTier, rfl⟩
  · exact hrenamed
  · rw [OrganizationAggregate.changePlan_name]
    exact hrenamed

/-- A suspension leaves the name. -/
theorem suspend_named {command : SuspendOrganizationCommand} {rt : Runtime}
    {org org' : OrganizationAggregate} (hname : ValidName org.name)
    (h : command.apply rt org = .ok org') : ValidName org'.name := by
  obtain ⟨-, event, rfl⟩ := OrganizationAggregate.suspend_cases h
  exact hname

/-- Creating, updating or suspending an organization. -/
inductive Request where
  | create (rt : Runtime) (command : CreateOrganizationCommand)
  | change (execution : OrganizationConcurrency.Execution)
deriving DecidableEq

def Request.execute : Request → App (Result OrganizationDto)
  | .create rt command => CreateOrganizationHandler.execute recordingBus rt command
  | .change execution => execution.execute

def Request.run (w : World) (request : Request) :
    Except Exception (Result OrganizationDto) × World :=
  request.execute.run w

/-- The column keeps a valid name of an organization that is to be created. -/
def Request.Named : Request → Prop
  | .create _ command => KeepsName command.name
  | .change _ => True

/-- A creation with a valid name keeps the stored names valid. -/
theorem keeps_create (rt : Runtime) {command : CreateOrganizationCommand}
    (h : KeepsName command.name) :
    Keeps (CreateOrganizationHandler.execute recordingBus rt command) := by
  have hexists : Keeps (OrganizationRepository.existsBySlug command.slug) :=
    keeps_of_leaves (.bind (TenantAwareRepository.leaves_written _) fun _ => .gets _)
  refine .bind hexists fun slugExists => ?_
  cases slugExists with
  | true => exact keeps_pure _
  | false =>
      have hcreate : Triple World.WellNamed (.lift (OrganizationAggregate.create rt command.name
          command.slug command.planTier (command.actorId.getD rt.ownerId) command.correlationId) :
          App _) (fun org w => w.WellNamed ∧ org.name = command.name) World.WellNamed := by
        refine .lift (fun org horg w hw => ⟨hw, ?_⟩) fun w hw => hw
        obtain ⟨normal, -, rfl⟩ := OrganizationAggregate.create_cases horg
        rfl
      refine .bind hcreate fun org => .given fun hname => ?_
      refine .bind (keeps_provision rt.savedAt (hname ▸ h)) fun saved => ?_
      exact .bind (keeps_publishAll _ _) fun _ => keeps_pure _

/-- A change of the aggregate that leaves it with a valid name. -/
theorem lift_named {changed : Except Exception OrganizationAggregate}
    (h : ∀ org, changed = .ok org → ValidName org.name) :
    Triple World.WellNamed (.lift changed : App _)
      (fun org w => w.WellNamed ∧ ValidName org.name) World.WellNamed :=
  .lift (fun org hok _ hw => ⟨hw, h org hok⟩) fun _ hw => hw

/-- What is found, changed and saved has a valid name all the way. -/
theorem keeps_change (execution : OrganizationConcurrency.Execution) : Keeps execution.execute := by
  unfold OrganizationConcurrency.Execution.execute
  cases execution.change with
  | update command =>
      refine .bind (findById_named execution.ctx command.organizationId) fun found => .given ?_
      intro hfound
      cases found with
      | none => exact keeps_pure _
      | some org =>
          refine .bind (lift_named fun _ => update_named (hfound org rfl)) fun org' => ?_
          refine .given fun hname => .bind (keeps_save _ _ hname.keeps) fun saved => ?_
          exact keeps_pure _
  | suspend command =>
      refine .bind (findById_named execution.ctx command.organizationId) fun found => .given ?_
      intro hfound
      cases found with
      | none => exact keeps_pure _
      | some org =>
          refine .bind (lift_named fun _ => suspend_named (hfound org rfl)) fun org' => ?_
          refine .given fun hname => .bind (keeps_save _ _ hname.keeps) fun saved => ?_
          exact .bind (keeps_publishAll _ _) fun _ => keeps_pure _

/-- One request keeps the stored names valid, if it does not create an
organization with another one. -/
theorem wellNamed_run {w : World} {request : Request} (hw : w.WellNamed) (h : request.Named) :
    (request.run w).2.WellNamed := by
  cases request with
  | create rt command => exact (keeps_create rt h).store hw
  | change execution => exact (keeps_change execution).store hw

/-- **The stored names stay valid** through every sequence of requests that create
organizations with valid names only. -/
theorem wellNamed_final {w : World} {requests : List Request} (hw : w.WellNamed)
    (h : ∀ request ∈ requests, request.Named) : (final Request.run w requests).WellNamed := by
  induction requests generalizing w with
  | nil => exact hw
  | cons request requests ih =>
      obtain ⟨hfirst, hrest⟩ := List.forall_mem_cons.mp h
      exact ih (wellNamed_run hw hfirst) hrest

/-- **Names.**  What makes the name of an aggregate valid, and the stored names
with it. -/
theorem names_valid_iff {rt : Runtime} {name slug : String} {planTier : TenantPlanTier}
    {ownerId correlationId : String} {org : OrganizationAggregate}
    (hcreate : OrganizationAggregate.create rt name slug planTier ownerId correlationId = .ok org)
    (calls : List Organization.Call) {w : World} (hw : w.WellNamed) {requests : List Request}
    (hnamed : ∀ request ∈ requests, request.Named) :
    (ValidName (Organization.after org calls).name ↔
      ValidName name ∨ ∃ call ∈ calls, call.Renames) ∧
    (final Request.run w requests).WellNamed :=
  ⟨Organization.validName_created_iff hcreate calls, wellNamed_final hw hnamed⟩

def sampleRename : Organization.Call := .rename sampleRuntime "  Acme Labs "

/-- `create` takes every name. -/
theorem create_sample (name : String) : ∃ org, OrganizationAggregate.create sampleRuntime name
    "acme" .FREE (Pg.uuidOf 2) (Pg.uuidOf 11) = .ok org := by
  have hslug := TenantSlug.create_value ⟨"acme", by decide⟩
  rw [OrganizationAggregate.create, hslug]
  exact ⟨_, rfl⟩

def sampleCreation (name : String) : CreateOrganizationCommand :=
  ⟨name, "acme-labs", .FREE, "system", Pg.uuidOf 11, some (Pg.uuidOf 2)⟩

theorem sampleWorld_wellNamed : sampleWorld.WellNamed := by
  intro row hrow
  obtain rfl := List.mem_singleton.mp hrow
  decide +kernel

/-- An organization whose name has blanks around it, until it is renamed; and
one with a valid name. -/
theorem names_valid_labs :
    (∃ org, OrganizationAggregate.create sampleRuntime " Acme" "acme" .FREE (Pg.uuidOf 2)
        (Pg.uuidOf 11) = .ok org ∧
      ValidName (Organization.after org [sampleRename]).name) ∧
    (final Request.run sampleWorld
      [.create sampleRuntime (sampleCreation "Acme Labs")]).WellNamed := by
  have hrename : sampleRename.Renames := by
    show ValidName (Js.trim "  Acme Labs ")
    decide +kernel
  have hname : ValidName "Acme Labs" := by decide +kernel
  have hrequest : (Request.create sampleRuntime (sampleCreation "Acme Labs")).Named := hname.keeps
  obtain ⟨org, hcreate⟩ := create_sample " Acme"
  obtain ⟨hvalid, hstored⟩ := names_valid_iff hcreate [sampleRename] sampleWorld_wellNamed
    (List.forall_mem_singleton.mpr hrequest)
  have hrenamed : ∃ call ∈ [sampleRename], call.Renames :=
    ⟨sampleRename, List.mem_singleton_self _, hrename⟩
  exact ⟨⟨org, hcreate, hvalid.mpr (.inr hrenamed)⟩, hstored⟩

/-- Two blanks are a name to create an organization with, and are stored. -/
theorem blank_name_stored :
    (¬ ∀ (rt : Runtime) (name slug : String) (planTier : TenantPlanTier)
      (ownerId correlationId : String) (org : OrganizationAggregate),
      OrganizationAggregate.create rt name slug planTier ownerId correlationId = .ok org →
      ∀ calls, ValidName (Organization.after org calls).name) ∧
    ¬ ∀ (w : World) (requests : List Request), w.WellNamed →
      (final Request.run w requests).WellNamed := by
  have hblank : ¬ ValidName "  " := by decide +kernel
  constructor
  · intro hclaim
    obtain ⟨org, hcreate⟩ := create_sample "  "
    have hvalid := hclaim _ _ _ _ _ _ org hcreate []
    obtain ⟨normal, -, rfl⟩ := OrganizationAggregate.create_cases hcreate
    exact hblank hvalid
  · intro hclaim
    have hstored : ((final Request.run sampleWorld
        [.create sampleRuntime (sampleCreation "  ")]).organizations.rows.any
          fun row => row.name = "  ") = true := by
      decide +kernel
    obtain ⟨row, hrow, hname⟩ := List.any_eq_true.mp hstored
    have hvalid := hclaim sampleWorld _ sampleWorld_wellNamed row hrow
    rw [of_decide_eq_true hname] at hvalid
    exact hblank hvalid

end OrganizationNames

end Atlas
