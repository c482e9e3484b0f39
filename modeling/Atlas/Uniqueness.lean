import Mathlib.Data.Fintype.Basic
import Atlas.Constraints
import Atlas.Identity.Handlers
import Atlas.Lib.Run
import Atlas.TenantCore.EventPublication

/-!
# Atlas.Uniqueness

Organizations and users that are created at the same time.

`CreateOrganizationHandler` and `RegisterUserHandler` look whether a slug or an
address is taken and then write, in two steps between which others may write
(`handler_steps`).  The columns keep slugs and addresses unique in any case.
That a conflict is reported as one is up to the first step, and it is where
that step does not overlook the key and no other request writes the key before
the second (`Undisputed`).
-/

namespace Atlas

open StoreKit

/-! ## Keys -/

/-- What has to be unique: a slug among the organizations, an address among the
users. -/
inductive UniqueKey where
  | slug (value : String)
  | email (value : String)
deriving DecidableEq

/-- A row has the key. -/
def World.taken (w : World) : UniqueKey → Prop
  | .slug value => ∃ row ∈ w.organizations.rows, row.slug = value
  | .email value => ∃ row ∈ w.users.rows, row.email = value

/-- No two rows have one key: the columns are `UNIQUE`. -/
structure World.Unique (w : World) : Prop where
  slugs : ∀ r ∈ w.organizations.rows, ∀ s ∈ w.organizations.rows, r.slug = s.slug → r.id = s.id
  emails : ∀ r ∈ w.users.rows, ∀ s ∈ w.users.rows, r.email = s.email → r.id = s.id

def UniqueKey.value : UniqueKey → String
  | .slug value => value
  | .email value => value

namespace Uniqueness

/-! ## Requests and their two steps -/

/- The two commands differ in the key they look for and the row they write.  As requests
they are alike: a look-up, and a write that the unique index guards. -/

inductive Request where
  | createOrganization (rt : Runtime) (command : CreateOrganizationCommand)
  | registerUser (bcryptHash : String → String) (rt : Runtime) (command : RegisterUserCommand)

namespace Request

abbrev Answer : Request → Type
  | .createOrganization _ _ => OrganizationDto
  | .registerUser _ _ _ => RegisterUserResult

/-- The handler of the command. -/
def execute : (r : Request) → App (Result r.Answer)
  | .createOrganization rt command => CreateOrganizationHandler.execute recordingBus rt command
  | .registerUser bcryptHash rt command =>
      RegisterUserHandler.execute recordingBus bcryptHash rt command

/-- The key as it is looked up. -/
def lookup : Request → UniqueKey
  | .createOrganization _ command => .slug command.slug
  | .registerUser _ _ command => .email (Js.toLowerCase command.email)

/-- The key as it is stored, in its normal form. -/
def key : Request → Except Exception UniqueKey
  | .createOrganization _ command => do
      let slug ← TenantSlug.create command.slug
      return .slug slug.value
  | .registerUser _ _ command => do
      let email ← Email.create command.email
      return .email email.value

/-- The first step, `existsBySlug` or `existsByEmail`. -/
def check : Request → App Bool
  | .createOrganization _ command => OrganizationRepository.existsBySlug command.slug
  | .registerUser _ _ command => UserRepository.existsByEmail command.email

def conflict : Request → Exception
  | .createOrganization _ command =>
      .conflict s!"Organization with slug '{command.slug}' already exists"
  | .registerUser _ _ command => .conflict s!"User with email '{command.email}' already exists"

/-- The rest of the handler, with `provision` or `save` in it. -/
def write : (r : Request) → App (Result r.Answer)
  | .createOrganization rt command => do
      let organization ← .lift (OrganizationAggregate.create rt command.name command.slug
        command.planTier (command.actorId.getD rt.ownerId) command.correlationId)
      let saved ← OrganizationRepository.provision rt.savedAt organization
      publishAll recordingBus TENANT_CREATED saved.domainEvents
      resultOk (OrganizationDto.fromAggregate saved)
  | .registerUser bcryptHash rt command => do
      let user ← .lift (UserAggregate.create bcryptHash rt.generateId command.email
        command.password command.displayName)
      let saved ← UserRepository.save rt.savedAt user
      recordingBus (userRegistered rt command saved)
      resultOk ⟨saved.userId, saved.email.value, saved.displayName⟩

end Request

/-- **The look-up and the write are the handler.** -/
theorem handler_steps (r : Request) :
    r.execute = (do
      let found ← r.check
      if found then resultFail r.conflict else r.write) := by
  cases r with
  | createOrganization rt command =>
      simp only [Request.execute, CreateOrganizationHandler.execute, Request.check,
        Request.conflict, Request.write]
  | registerUser bcryptHash rt command =>
      simp only [Request.execute, RegisterUserHandler.execute, Request.check, Request.conflict,
        Request.write]

/-! ## Interleavings -/

/-- A request has not begun; it has found its key free; it is over, with what
it returned or rejected with. -/
inductive Phase where
  | idle
  | checked
  | over (outcome : Except Exception (Result Unit))
deriving DecidableEq

def Phase.outcome : Phase → Option (Except Exception (Result Unit))
  | .over outcome => some outcome
  | _ => none

theorem Phase.of_outcome {phase : Phase} {outcome : Except Exception (Result Unit)}
    (h : phase.outcome = some outcome) : phase = .over outcome := by
  cases phase with
  | «over» o => rw [Option.some.inj h]
  | idle => cases h
  | checked => cases h

structure System (ι : Type) where
  world : World
  phase : ι → Phase

def System.init {ι : Type} (w : World) : System ι := ⟨w, fun _ => .idle⟩

inductive Event (ι : Type) where
  | check (i : ι)
  | write (i : ι)
deriving DecidableEq

variable {ι : Type} [DecidableEq ι] (requests : ι → Request)

/-- Request `i` takes a step. -/
def System.move (s : System ι) (i : ι) (world : World) (phase : Phase) : System ι where
  world := world
  phase := Function.update s.phase i phase

/-- Where the first step leads. -/
def checkedPhase (r : Request) : Except Exception Bool → Phase
  | .ok true => .over (.ok (.error r.conflict))
  | .ok false => .checked
  | .error e => .over (.error e)

/-- What a request that is over returned, without its value. -/
def outcomeOf {α : Type} (answer : Except Exception (Result α)) : Except Exception (Result Unit) :=
  answer.map fun result => result.map fun _ => ()

def step (s : System ι) : Event ι → Option (System ι)
  | .check i => match s.phase i with
    | .idle => match (requests i).check.run s.world with
      | (found, w) => some (s.move i w (checkedPhase (requests i) found))
    | _ => none
  | .write i => match s.phase i with
    | .checked => match (requests i).write.run s.world with
      | (answer, w) => some (s.move i w (.over (outcomeOf answer)))
    | _ => none

/-- The states an interleaving leads to. -/
abbrev run (w : World) (events : List (Event ι)) : Option (System ι) :=
  exec (step requests) (System.init w) events

/-! ## What the steps do -/

/- A write adds the row of its request or changes nothing, and where the key is free and
the rest of the row fits it does add it. -/

/-- The first step changes nothing.  It is refused where the text it sends is,
and otherwise finds the key that it looks up. -/
theorem check_cases (r : Request) (w : World) :
    (∃ e, r.check.run w = (.error e, w) ∧ Pg.text r.lookup.value = none) ∨
    ∃ found, r.check.run w = (.ok found, w) ∧ (found = true ↔ w.taken r.lookup) := by
  cases r with
  | createOrganization rt command =>
      rw [Request.check, OrganizationRepository.existsBySlug, Request.lookup, UniqueKey.value]
      have hrun := written_run (Pg.text command.slug) w
      cases htext : Pg.text command.slug with
      | none =>
          rw [htext] at hrun
          rw [Program.bind_run_error hrun]
          exact .inl ⟨_, rfl, rfl⟩
      | some slug =>
          rw [htext] at hrun
          rw [Program.bind_run_ok hrun, Program.gets_run]
          refine .inr ⟨_, rfl, ?_⟩
          rw [Pg.text_eq htext]
          simp [World.taken]
  | registerUser bcryptHash rt command =>
      rw [Request.check, UserRepository.existsByEmail, Request.lookup, UniqueKey.value]
      have hrun := written_run (Pg.text (Js.toLowerCase command.email)) w
      cases htext : Pg.text (Js.toLowerCase command.email) with
      | none =>
          rw [htext] at hrun
          rw [Program.bind_run_error hrun]
          exact .inl ⟨_, rfl, rfl⟩
      | some email =>
          rw [htext] at hrun
          rw [Program.bind_run_ok hrun, Program.gets_run]
          refine .inr ⟨_, rfl, ?_⟩
          rw [Pg.text_eq htext]
          simp [World.taken]

/-- What a write leaves: keys stay unique, and none is taken but the one
written. -/
structure Adds (w w' : World) (key : UniqueKey) : Prop where
  unique : w.Unique → w'.Unique
  taken : ∀ k, w'.taken k → w.taken k ∨ k = key

theorem adds_organization {w : World} {row : OrganizationOrmEntity}
    (hallowed : OrganizationRepository.allowed w row = true) :
    Adds w { w with organizations := w.organizations.put row } (.slug row.slug) where
  unique h := ⟨unique_put h.slugs (OrganizationRepository.free_of_allowed hallowed), h.emails⟩
  taken k htaken := by
    cases k with
    | slug value =>
        obtain ⟨r, hr, rfl⟩ := htaken
        rcases (Table.mem_put_iff _ _ _).mp hr with rfl | ⟨hr, -⟩
        · exact .inr rfl
        · exact .inl ⟨r, hr, rfl⟩
    | email value => exact .inl htaken

theorem adds_user {w : World} {row : UserOrmEntity}
    (hallowed : UserRepository.allowed w row = true) :
    Adds w { w with users := w.users.put row } (.email row.email) where
  unique h := ⟨h.slugs, unique_put h.emails (UserRepository.free_of_allowed hallowed)⟩
  taken k htaken := by
    cases k with
    | slug value => exact .inl htaken
    | email value =>
        obtain ⟨r, hr, rfl⟩ := htaken
        rcases (Table.mem_put_iff _ _ _).mp hr with rfl | ⟨hr, -⟩
        · exact .inr rfl
        · exact .inl ⟨r, hr, rfl⟩

/-- What is published decides nothing. -/
theorem Adds.publish {w w' : World} {key : UniqueKey} (h : Adds w w' key)
    (published : List TenantAwareEvent) : Adds w { w' with published } key where
  unique hunique := ⟨(h.unique hunique).slugs, (h.unique hunique).emails⟩
  taken k htaken := by
    cases k with
    | slug value => exact h.taken (.slug value) htaken
    | email value => exact h.taken (.email value) htaken

/-- Apart from its key the row of the request is one that the table takes: the
columns store it, its id is new and its owner is a user. -/
def Request.Fits (w : World) : Request → Prop
  | .createOrganization rt command => ∀ org, OrganizationAggregate.create rt command.name
      command.slug command.planTier (command.actorId.getD rt.ownerId) command.correlationId =
        .ok org →
      ∃ row, OrganizationOrmEntity.stored { OrganizationMapper.toOrm org with
          updatedAt := rt.savedAt } = some row ∧
        w.organizations.find? row.id = none ∧ ∃ owner ∈ w.users.rows, owner.id = row.ownerId
  | .registerUser bcryptHash rt command => ∀ user, UserAggregate.create bcryptHash rt.generateId
      command.email command.password command.displayName = .ok user →
      ∃ row, UserOrmEntity.stored (UserRepository.table.dated (some rt.savedAt) (some rt.savedAt)
          (UserRepository.toOrm user)) = some row ∧
        w.users.find? row.id = none

/-- A row under a new id is inserted. -/
theorem saveRow_insert {ρ : Type} {key : ρ → String} {stored : ρ → Option ρ}
    {merge : ρ → ρ → ρ} {allowed : ρ → Bool} {table : Table String ρ key} {orm row : ρ}
    (hstored : stored orm = some row) (hnew : table.find? (key row) = none)
    (hallowed : allowed row = true) :
    Typeorm.saveRow stored merge allowed table orm = some (table.put row) := by
  simp only [Typeorm.saveRow, hstored, Option.bind_some, hnew, hallowed, if_true]

/-- Validation is no matter of the database. -/
theorem createOrganization_error {rt : Runtime} {name slug ownerId correlationId : String}
    {planTier : TenantPlanTier} {e : Exception}
    (h : OrganizationAggregate.create rt name slug planTier ownerId correlationId = .error e) :
    e ≠ .database := by
  unfold OrganizationAggregate.create at h
  cases hslug : TenantSlug.create slug with
  | error e' =>
      rw [hslug] at h
      obtain rfl := Except.error.inj h
      unfold TenantSlug.create at hslug
      dsimp only at hslug
      split at hslug
      · cases hslug
      · obtain rfl := Except.error.inj hslug
        simp
  | ok slug =>
      rw [hslug] at h
      cases h

theorem createUser_error {bcryptHash : String → String}
    {generateId email password displayName : String} {e : Exception}
    (h : UserAggregate.create bcryptHash generateId email password displayName = .error e) :
    e ≠ .database := by
  unfold UserAggregate.create at h
  cases hemail : Email.create email with
  | error e' =>
      rw [hemail] at h
      obtain rfl := Except.error.inj h
      unfold Email.create at hemail
      dsimp only at hemail
      split at hemail
      · split at hemail
        · obtain rfl := Except.error.inj hemail
          simp
        · cases hemail
      · obtain rfl := Except.error.inj hemail
        simp
  | ok address =>
      cases hhash : PasswordHash.fromPlaintext bcryptHash password with
      | error e' =>
          rw [hemail, hhash] at h
          obtain rfl := Except.error.inj h
          unfold PasswordHash.fromPlaintext at hhash
          split at hhash
          · obtain rfl := Except.error.inj hhash
            simp
          · cases hhash
      | ok hash =>
          rw [hemail, hhash] at h
          cases h

/-- An organization is provisioned, or the statement is refused. -/
theorem provision_cases (savedAt : Js.Date) (org : OrganizationAggregate) (w : World) :
    ((OrganizationRepository.provision savedAt org).run w = (.error .database, w) ∧
      Typeorm.saveRow OrganizationOrmEntity.stored OrganizationRepository.merge
        (OrganizationRepository.allowed w) w.organizations
        { OrganizationMapper.toOrm org with updatedAt := savedAt } = none) ∨
    ∃ saved row, (OrganizationRepository.provision savedAt org).run w =
        (.ok saved, { w with organizations := w.organizations.put row }) ∧
      OrganizationRepository.allowed w row = true ∧ row.slug = org.slug.value ∧
      saved.domainEvents = [] := by
  have hsave := OrganizationRepository.saveOrm_run savedAt (OrganizationMapper.toOrm org) w
  cases htable : Typeorm.saveRow OrganizationOrmEntity.stored OrganizationRepository.merge
      (OrganizationRepository.allowed w) w.organizations
      { OrganizationMapper.toOrm org with updatedAt := savedAt } with
  | none =>
      rw [htable] at hsave
      left
      rw [OrganizationRepository.provision, Program.bind_run_error hsave]
      exact ⟨rfl, rfl⟩
  | some table =>
      rw [htable] at hsave
      obtain ⟨stored, row, hstored, hallowed, rfl, hmerged⟩ := Typeorm.saveRow_cases htable
      have hstoredSlug : stored.slug = org.slug.value :=
        Pg.varchar_eq (slug_short org.slug.pattern) (OrganizationOrmEntity.storedAs hstored).slug
      have hslug : row.slug = org.slug.value := by
        rcases hmerged with ⟨-, rfl⟩ | ⟨old, -, rfl⟩
        · exact hstoredSlug
        · exact hstoredSlug
      obtain ⟨saved, hdomain, -⟩ := OrganizationMapper.toDomain_of_slug
        { OrganizationMapper.toOrm org with updatedAt := savedAt } org.slug rfl
      right
      rw [OrganizationRepository.provision, Program.bind_run_ok hsave, Program.lift_run, hdomain]
      exact ⟨saved, row, rfl, hallowed, hslug, OrganizationMapper.domainEvents_toDomain hdomain⟩

/-- A new organization has the normal form of the slug. -/
theorem slug_of_create {rt : Runtime} {name slug ownerId correlationId : String}
    {planTier : TenantPlanTier} {org : OrganizationAggregate}
    (h : OrganizationAggregate.create rt name slug planTier ownerId correlationId = .ok org) :
    TenantSlug.create slug = .ok org.slug := by
  obtain ⟨normal, hslug, rfl⟩ := OrganizationAggregate.create_cases h
  exact hslug

/-- A row whose owner is a user and whose slug is free is let in. -/
theorem organization_allowed {w : World} {row : OrganizationOrmEntity}
    (howner : ∃ owner ∈ w.users.rows, owner.id = row.ownerId) (hfree : ¬ w.taken (.slug row.slug)) :
    OrganizationRepository.allowed w row = true := by
  obtain ⟨owner, howner, hid⟩ := howner
  rw [OrganizationRepository.allowed, Bool.and_eq_true]
  constructor
  · exact List.any_eq_true.mpr ⟨owner, howner, by simp [hid]⟩
  · refine List.all_eq_true.mpr fun r hr => ?_
    have hslug : r.slug ≠ row.slug := fun hsame => hfree ⟨r, hr, hsame⟩
    simp [hslug]

theorem user_allowed {w : World} {row : UserOrmEntity} (hfree : ¬ w.taken (.email row.email)) :
    UserRepository.allowed w row = true := by
  refine List.all_eq_true.mpr fun r hr => ?_
  have hemail : r.email ≠ row.email := fun hsame => hfree ⟨r, hr, hsame⟩
  simp [hemail]

/-- A user whose row the columns store under a new id and whose address is free
is saved. -/
theorem save_insert {savedAt : Js.Date} {user : UserAggregate} {w : World} {row : UserOrmEntity}
    (hstored : UserOrmEntity.stored (UserRepository.table.dated (some savedAt) (some savedAt)
      (UserRepository.toOrm user)) = some row)
    (hnew : w.users.find? row.id = none) (hfree : ¬ w.taken (.email row.email)) :
    ∃ w', (UserRepository.save savedAt user).run w = (.ok user, w') := by
  have htable : Typeorm.saveRow UserRepository.table.stored UserRepository.table.merge
      (UserRepository.table.allowed w) (UserRepository.table.table w)
      (UserRepository.table.dated (some savedAt) (some savedAt) (UserRepository.toOrm user)) =
      some (w.users.put row) := saveRow_insert hstored hnew (user_allowed hfree)
  have hrun := UserRepository.table.saveOrm_run savedAt (UserRepository.toOrm user) w
  rw [htable] at hrun
  have hback : ∀ createdAt, UserRepository.toDomain (UserRepository.table.dated createdAt
      (some savedAt) (UserRepository.toOrm user)) = .ok user :=
    fun createdAt => UserRepository.toDomain_toOrm user createdAt _
  rw [UserRepository.save, Program.bind_run_ok hrun, Program.lift_run, hback]
  exact ⟨_, rfl⟩

/-- The second step of a request for an organization. -/
theorem writeOrganization_cases (rt : Runtime) (command : CreateOrganizationCommand)
    (r : Request) (hr : r = .createOrganization rt command) (w : World) :
    (∃ answer, r.write.run w = (answer, w) ∧ (∀ a, answer ≠ .ok (.ok a)) ∧
      (r.Fits w → (∀ k, r.key = .ok k → ¬ w.taken k) → answer ≠ .error .database)) ∨
    ∃ answer k w', r.write.run w = (.ok (.ok answer), w') ∧ r.key = .ok k ∧ Adds w w' k := by
  subst hr
  rw [Request.write]
  have hlift : (Program.lift (OrganizationAggregate.create rt command.name command.slug
      command.planTier (command.actorId.getD rt.ownerId) command.correlationId) :
      App OrganizationAggregate).run w = (_, w) := Program.lift_run _ w
  cases hcreate : OrganizationAggregate.create rt command.name command.slug command.planTier
      (command.actorId.getD rt.ownerId) command.correlationId with
  | error e =>
      rw [hcreate] at hlift
      rw [Program.bind_run_error hlift]
      exact .inl ⟨.error e, rfl, by simp, fun _ _ => by simpa using createOrganization_error hcreate⟩
  | ok org =>
      rw [hcreate] at hlift
      have hkey : Request.key (.createOrganization rt command) = .ok (.slug org.slug.value) := by
        rw [Request.key, slug_of_create hcreate]
        rfl
      rw [Program.bind_run_ok hlift]
      rcases provision_cases rt.savedAt org w with
        ⟨hrun, hrefused⟩ | ⟨saved, row, hrun, hallowed, hslug, hevents⟩
      · rw [Program.bind_run_error hrun]
        refine .inl ⟨.error .database, rfl, by simp, fun hfits hfree => ?_⟩
        obtain ⟨row, hstored, hnew, howner⟩ := hfits org hcreate
        have hslug : row.slug = org.slug.value :=
          Pg.varchar_eq (slug_short org.slug.pattern) (OrganizationOrmEntity.storedAs hstored).slug
        have hallowed := organization_allowed howner (hslug ▸ hfree _ hkey)
        rw [saveRow_insert hstored hnew hallowed] at hrefused
        exact absurd hrefused (Option.some_ne_none _)
      · rw [Program.bind_run_ok hrun, hevents]
        refine .inr ⟨OrganizationDto.fromAggregate saved, _, _, rfl, hkey, ?_⟩
        rw [← hslug]
        exact adds_organization hallowed

/-- The second step of a request for a user. -/
theorem writeUser_cases (bcryptHash : String → String) (rt : Runtime)
    (command : RegisterUserCommand) (r : Request)
    (hr : r = .registerUser bcryptHash rt command) (w : World) :
    (∃ answer, r.write.run w = (answer, w) ∧ (∀ a, answer ≠ .ok (.ok a)) ∧
      (r.Fits w → (∀ k, r.key = .ok k → ¬ w.taken k) → answer ≠ .error .database)) ∨
    ∃ answer k w', r.write.run w = (.ok (.ok answer), w') ∧ r.key = .ok k ∧ Adds w w' k := by
  subst hr
  rw [Request.write]
  have hlift : (Program.lift (UserAggregate.create bcryptHash rt.generateId command.email
      command.password command.displayName) : App UserAggregate).run w = (_, w) :=
    Program.lift_run _ w
  cases hcreate : UserAggregate.create bcryptHash rt.generateId command.email command.password
      command.displayName with
  | error e =>
      rw [hcreate] at hlift
      rw [Program.bind_run_error hlift]
      exact .inl ⟨.error e, rfl, by simp, fun _ _ => by simpa using createUser_error hcreate⟩
  | ok user =>
      rw [hcreate] at hlift
      have hkey : Request.key (.registerUser bcryptHash rt command) =
          .ok (.email user.email.value) := by
        rw [Request.key, (UserAggregate.create_cases hcreate).2]
        rfl
      rw [Program.bind_run_ok hlift]
      rcases UserRepository.save_cases rt.savedAt user w with ⟨e, hrun⟩ | ⟨row, hrun, hwrites⟩
      · rw [Program.bind_run_error hrun]
        refine .inl ⟨.error e, rfl, by simp, fun hfits hfree => ?_⟩
        obtain ⟨row, hstored, hnew⟩ := hfits user hcreate
        have hshort : user.email.value.length ≤ 320 := (Js.length_le _).trans user.email.bounded
        have hemail : row.email = user.email.value :=
          Pg.varchar_eq hshort (UserOrmEntity.storedAs hstored).email
        obtain ⟨w', hsaved⟩ := save_insert hstored hnew (hemail ▸ hfree _ hkey)
        rw [hsaved] at hrun
        cases hrun
      · rw [Program.bind_run_ok hrun]
        have hpublish : (recordingBus (userRegistered rt command user)).run
            { w with users := w.users.put row } = (.ok (), _) := rfl
        rw [Program.bind_run_ok hpublish]
        refine .inr ⟨⟨user.userId, user.email.value, user.displayName⟩, _, _, rfl, hkey, ?_⟩
        rw [← UserRepository.email_of_writes hwrites]
        exact (adds_user hwrites.allowed).publish _

/-- The second step writes nothing, or one row with the key of the request.
The database refuses it only where the row does not fit or the key is taken. -/
theorem write_cases (r : Request) (w : World) :
    (∃ answer, r.write.run w = (answer, w) ∧ (∀ a, answer ≠ .ok (.ok a)) ∧
      (r.Fits w → (∀ k, r.key = .ok k → ¬ w.taken k) → answer ≠ .error .database)) ∨
    ∃ answer k w', r.write.run w = (.ok (.ok answer), w') ∧ r.key = .ok k ∧ Adds w w' k := by
  cases hr : r with
  | createOrganization rt command => exact writeOrganization_cases rt command _ rfl w
  | registerUser bcryptHash rt command => exact writeUser_cases bcryptHash rt command _ rfl w

/-! ## Every interleaving -/

/- `Clean` is what a run keeps where no step goes wrong.  Uniqueness is kept in any case,
by the index alone. -/

/-- Nothing goes wrong in a step: a request that looks its key up does not
overlook it, and a request that writes does so while no other one with its key
is between its two steps. -/
def Undisputed (s : System ι) : Event ι → Prop
  | .check i => (Pg.text (requests i).lookup.value).isSome ∧
      ∀ k, (requests i).key = .ok k → s.world.taken k → s.world.taken (requests i).lookup
  | .write i => (requests i).Fits s.world ∧
      ∀ j, j ≠ i → s.phase j = .checked → ∀ k, (requests i).key = .ok k → (requests j).key ≠ .ok k

/-- A request whose key is taken when it takes its last step returns a conflict
and changes nothing. -/
def Reported (s s' : System ι) : Prop :=
  ∀ i k outcome, (∀ o, s.phase i ≠ .over o) → s'.phase i = .over outcome →
    (requests i).key = .ok k → s.world.taken k →
    outcome = .ok (.error (requests i).conflict) ∧ s'.world = s.world

/-- Who is between its two steps has a free key, and nobody has been rejected by
the database. -/
structure Clean (s : System ι) : Prop where
  free : ∀ i k, s.phase i = .checked → (requests i).key = .ok k → ¬ s.world.taken k
  refused : ∀ i, s.phase i ≠ .over (.error .database)

variable {requests}

theorem step_check {s : System ι} {i : ι} {found : Except Exception Bool} {w : World}
    (hidle : s.phase i = .idle) (hrun : (requests i).check.run s.world = (found, w)) :
    step requests s (.check i) = some (s.move i w (checkedPhase (requests i) found)) := by
  rw [step, hidle]
  show (match (requests i).check.run s.world with
    | (found, w) => some (s.move i w (checkedPhase (requests i) found))) = _
  rw [hrun]

theorem step_write {s : System ι} {i : ι}
    {answer : Except Exception (Result (requests i).Answer)} {w : World}
    (hchecked : s.phase i = .checked)
    (hrun : (requests i).write.run s.world = (answer, w)) :
    step requests s (.write i) = some (s.move i w (.over (outcomeOf answer))) := by
  rw [step, hchecked]
  show (match (requests i).write.run s.world with
    | (answer, w) => some (s.move i w (.over (outcomeOf answer)))) = _
  rw [hrun]

/-- **What one step does**: a look-up leaves the database alone, and a write adds its
row or ends with nothing written. -/
theorem step_cases {s s' : System ι} {event : Event ι} (h : step requests s event = some s') :
    (∃ i, event = .check i ∧ s.phase i = .idle ∧
      ((∃ e, s' = s.move i s.world (.over (.error e)) ∧
          Pg.text (requests i).lookup.value = none) ∨
        (s.world.taken (requests i).lookup ∧
          s' = s.move i s.world (.over (.ok (.error (requests i).conflict)))) ∨
        (¬ s.world.taken (requests i).lookup ∧ s' = s.move i s.world .checked))) ∨
    ∃ i, event = .write i ∧ s.phase i = .checked ∧
      ((∃ outcome, s' = s.move i s.world (.over outcome) ∧
          ((requests i).Fits s.world →
            (∀ k, (requests i).key = .ok k → ¬ s.world.taken k) → outcome ≠ .error .database)) ∨
        ∃ k w, (requests i).key = .ok k ∧ Adds s.world w k ∧
          s' = s.move i w (.over (.ok (.ok ())))) := by
  cases event with
  | check i =>
      cases hphase : s.phase i with
      | idle =>
          refine .inl ⟨i, rfl, hphase, ?_⟩
          rcases check_cases (requests i) s.world with ⟨e, hrun, htext⟩ | ⟨found, hrun, hfound⟩
          · rw [step_check hphase hrun] at h
            exact .inl ⟨e, (Option.some.inj h).symm, htext⟩
          · rw [step_check hphase hrun] at h
            have hs' := (Option.some.inj h).symm
            cases found with
            | true => exact .inr (.inl ⟨hfound.mp rfl, hs'⟩)
            | false => exact .inr (.inr ⟨fun htaken => Bool.noConfusion (hfound.mpr htaken), hs'⟩)
      | checked =>
          rw [step, hphase] at h
          cases h
      | «over» outcome =>
          rw [step, hphase] at h
          cases h
  | write i =>
      cases hphase : s.phase i with
      | checked =>
          refine .inr ⟨i, rfl, hphase, ?_⟩
          rcases write_cases (requests i) s.world with
            ⟨answer, hrun, -, hfits⟩ | ⟨answer, k, w, hrun, hkey, hadds⟩
          · rw [step_write hphase hrun] at h
            refine .inl ⟨_, (Option.some.inj h).symm, fun hrow hfree => ?_⟩
            have hanswer := hfits hrow hfree
            cases answer with
            | ok result => simp [outcomeOf, Except.map]
            | error e => simpa [outcomeOf, Except.map] using hanswer
          · rw [step_write hphase hrun] at h
            exact .inr ⟨k, w, hkey, hadds, (Option.some.inj h).symm⟩
      | idle =>
          rw [step, hphase] at h
          cases h
      | «over» outcome =>
          rw [step, hphase] at h
          cases h

/-- Keys stay unique in every step. -/
theorem unique_step (s : System ι) (event : Event ι) (s' : System ι) (hs : s.world.Unique)
    (h : step requests s event = some s') : s'.world.Unique := by
  rcases step_cases h with ⟨i, -, -, ⟨e, rfl, -⟩ | ⟨-, rfl⟩ | ⟨-, rfl⟩⟩ |
    ⟨i, -, -, ⟨outcome, rfl, -⟩ | ⟨k, w, -, hadds, rfl⟩⟩
  · exact hs
  · exact hs
  · exact hs
  · exact hs
  · exact hadds.unique hs

theorem phase_move (s : System ι) (i j : ι) (w : World) (phase : Phase) :
    (s.move i w phase).phase j = if j = i then phase else s.phase j := by
  by_cases hij : j = i
  · simp [System.move, hij]
  · simp [System.move, hij]

/-- A step that writes nothing keeps the system clean, if the request that
takes it has a free key where it goes on and is not rejected by the database
where it ends. -/
theorem Clean.move {s : System ι} (hs : Clean requests s) {i : ι} {phase : Phase}
    (hfree : phase = .checked → ∀ k, (requests i).key = .ok k → ¬ s.world.taken k)
    (hrefused : phase ≠ .over (.error .database)) :
    Clean requests (s.move i s.world phase) where
  free j k hphase hkey := by
    rw [phase_move] at hphase
    split at hphase
    · next hij => exact hfree hphase k (hij ▸ hkey)
    · exact hs.free j k hphase hkey
  refused j := by
    rw [phase_move]
    split
    · exact hrefused
    · exact hs.refused j

/-- Nothing has to be reported where the request that takes the step goes on,
or has a free key. -/
theorem reported_move {s : System ι} {i : ι} {w : World} {phase : Phase}
    (h : ∀ k outcome, phase = .over outcome → (requests i).key = .ok k → s.world.taken k →
      outcome = .ok (.error (requests i).conflict) ∧ w = s.world) :
    Reported requests s (s.move i w phase) := by
  intro j k outcome hopen hover hkey htaken
  rw [phase_move] at hover
  split at hover
  · next hij =>
      subst hij
      exact h k outcome hover hkey htaken
  · exact absurd hover (hopen outcome)

theorem clean_step (s : System ι) (event : Event ι) (s' : System ι) (hs : Clean requests s)
    (hok : Undisputed requests s event) (h : step requests s event = some s') :
    Clean requests s' ∧ Reported requests s s' := by
  rcases step_cases h with ⟨i, rfl, hidle, ⟨e, rfl, htext⟩ | ⟨htaken, rfl⟩ | ⟨hfree, rfl⟩⟩ |
    ⟨i, rfl, hchecked, ⟨outcome, rfl, hfits⟩ | ⟨k, w, hkey, hadds, rfl⟩⟩
  · exact absurd hok.1 (by simp [htext])
  · constructor
    · exact hs.move (fun hphase => nomatch hphase) (by simp)
    · exact reported_move fun k outcome hover _ _ => ⟨(Phase.over.inj hover).symm, rfl⟩
  · constructor
    · exact hs.move (fun _ k hkey htaken => hfree (hok.2 k hkey htaken)) (by simp)
    · exact reported_move fun k outcome hover => nomatch hover
  · have hfree := fun k => hs.free i k hchecked
    constructor
    · exact hs.move (fun hphase => nomatch hphase) (by simpa using hfits hok.1 hfree)
    · exact reported_move fun k _ _ hkey htaken => absurd htaken (hfree k hkey)
  · constructor
    · constructor
      · intro j k' hphase hkey' htaken
        rw [phase_move] at hphase
        split at hphase
        · cases hphase
        · next hij =>
            rcases hadds.taken k' htaken with htaken | rfl
            · exact hs.free j k' hphase hkey' htaken
            · exact hok.2 j hij hphase k' hkey hkey'
      · intro j
        rw [phase_move]
        split
        · simp
        · exact hs.refused j
    · refine reported_move fun k' _ _ hkey' htaken => ?_
      exact absurd htaken (hs.free i k' hchecked hkey')

/-- **Creating at the same time**: in every interleaving slugs and addresses
stay unique; and where no step goes wrong, no request is rejected by the
database, and each step that finds the key of its request taken reports a
conflict and writes nothing. -/
theorem conflicts_reported (requests : ι → Request) (w : World) (events : List (Event ι))
    (s : System ι) (hunique : w.Unique) (hrun : run requests w events = some s) :
    s.world.Unique ∧
      (Along (step requests) (Undisputed requests) (System.init w) events →
        (∀ i, s.phase i ≠ .over (.error .database)) ∧
        ∀ before event after s₁ s₂, events = before ++ event :: after →
          run requests w before = some s₁ → step requests s₁ event = some s₂ →
          Reported requests s₁ s₂) := by
  have hclean : Clean requests (System.init w : System ι) :=
    ⟨fun i k hphase => Phase.noConfusion hphase, fun i hphase => Phase.noConfusion hphase⟩
  have hkeep : ∀ (s : System ι) event s', Clean requests s → Undisputed requests s event →
      step requests s event = some s' → Clean requests s' :=
    fun s event s' hs hok h => (clean_step s event s' hs hok h).1
  refine ⟨exec_keeps unique_step hunique hrun, fun hok => ⟨?_, ?_⟩⟩
  · exact (exec_invariant hkeep hclean hok hrun).refused
  · rintro before event after s₁ s₂ rfl hbefore hstep
    obtain ⟨hok₁, hok₂⟩ := along_append hok hbefore
    have hs₁ : Clean requests s₁ := exec_invariant hkeep hclean hok₁ hbefore
    exact (clean_step s₁ event s₂ hs₁ hok₂.1 hstep).2

/-! ## Two requests for one slug -/

instance decidableForallOk {ε α : Type} {P : α → Prop} [∀ a, Decidable (P a)]
    (x : Except ε α) : Decidable (∀ a, x = .ok a → P a) :=
  match x with
  | .ok a => decidable_of_iff (P a) (by simp)
  | .error e => isTrue (by simp)

instance decidableExistsSome {α : Type} {P : α → Prop} [∀ a, Decidable (P a)]
    (x : Option α) : Decidable (∃ a, x = some a ∧ P a) :=
  match x with
  | some a => decidable_of_iff (P a) (by simp)
  | none => isFalse (by simp)

instance decidableTaken (w : World) : (k : UniqueKey) → Decidable (w.taken k)
  | .slug value =>
      inferInstanceAs (Decidable (∃ row ∈ w.organizations.rows, row.slug = value))
  | .email value => inferInstanceAs (Decidable (∃ row ∈ w.users.rows, row.email = value))

instance decidableFits (w : World) : (r : Request) → Decidable (r.Fits w)
  | .createOrganization _ _ => decidableForallOk _
  | .registerUser _ _ _ => decidableForallOk _

instance decidableUndisputed [Fintype ι] (s : System ι) :
    (event : Event ι) → Decidable (Undisputed requests s event)
  | .check _ => instDecidableAnd
  | .write _ => instDecidableAnd

/-- Two requests for organizations with one slug. -/
def twoCreations (second : Bool) : Request :=
  .createOrganization
    { sampleRuntime with generateId := if second then Pg.uuidOf 22 else Pg.uuidOf 21 }
    ⟨if second then "Globex" else "Globe", "globex", .FREE, "", Pg.uuidOf 12, some (Pg.uuidOf 2)⟩

/-- The second finds the slug of the first taken. -/
theorem conflicts_reported_serial :
    ∃ s, run twoCreations sampleWorld [.check false, .write false, .check true] = some s ∧
      s.world.Unique ∧ s.phase true = .over (.ok (.error (twoCreations true).conflict)) := by
  have hstates : ((run twoCreations sampleWorld [.check false, .write false]).bind fun s₁ =>
      (step twoCreations s₁ (.check true)).map fun s => (decide (s₁.world.taken (.slug "globex")),
        (s₁.phase true).outcome, (s.phase true).outcome.isSome)) = some (true, none, true) := by
    decide +kernel
  obtain ⟨s₁, hbefore, hrest⟩ := Option.bind_eq_some_iff.mp hstates
  obtain ⟨s, hstep, hs⟩ := Option.map_eq_some_iff.mp hrest
  obtain ⟨htaken, hs⟩ := Prod.mk.inj hs
  obtain ⟨hopen, hover⟩ := Prod.mk.inj hs
  obtain ⟨outcome, hover⟩ := Option.isSome_iff_exists.mp hover
  have hrun : run twoCreations sampleWorld [.check false, .write false, .check true] = some s := by
    unfold run at hbefore ⊢
    have happend := @exec_append _ _ (step twoCreations) (System.init sampleWorld)
      [.check false, .write false] [.check true]
    have hlast : exec (step twoCreations) s₁ [.check true] = some s := by
      simp only [exec, hstep]
    rw [hbefore, Option.bind_some, hlast] at happend
    exact happend
  obtain ⟨hunique, hreported⟩ := conflicts_reported twoCreations sampleWorld _ s
    ⟨by decide +kernel, by decide +kernel⟩ hrun
  obtain ⟨-, hreported⟩ := hreported (by decide +kernel)
  have hconflict := hreported [.check false, .write false] (.check true) [] s₁ s rfl hbefore hstep
    true (.slug "globex") outcome (fun o ho => by simp [ho, Phase.outcome] at hopen)
    (Phase.of_outcome hover) (by decide +kernel) (of_decide_eq_true htaken)
  refine ⟨s, hrun, hunique, ?_⟩
  rw [Phase.of_outcome hover, hconflict.1]

/-- Both find it free when neither has written yet. -/
theorem second_creation_rejected :
    ¬ ∀ (requests : Bool → Request) (w : World) (events : List (Event Bool)) (s : System Bool),
      w.Unique → run requests w events = some s → ∀ i, s.phase i ≠ .over (.error .database) := by
  intro hclaim
  have hphase : (run twoCreations sampleWorld
      [.check false, .check true, .write false, .write true]).map
      (fun s => s.phase true) = some (.over (.error .database)) := by
    decide +kernel
  obtain ⟨s, hrun, hs⟩ := Option.map_eq_some_iff.mp hphase
  exact hclaim twoCreations sampleWorld _ s ⟨by decide +kernel, by decide +kernel⟩ hrun true hs

end Uniqueness

end Atlas
