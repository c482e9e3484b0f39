import Atlas.Constraints
import Atlas.Identity.Handlers
import Atlas.TenantCore.EventPublication

/-!
# Atlas.Identity.Login

What a login answers.

`execute_cases` says it once: a login rejects, or is denied for one of six
reasons, and either way changes nothing; or it answers tokens and writes the
user.
-/

namespace Atlas

open StoreKit

namespace AuthenticateHandler

/-! ## The two lookups -/

/-- The row of the user with an e-mail address. -/
def userFor (w : World) (email : String) : Option UserOrmEntity :=
  w.users.rows.find? fun row => row.email = Js.toLowerCase email

/-- The row of the organization that a login is for. -/
def organizationFor (ties : Typeorm.Arrangement OrganizationOrmEntity) (w : World)
    (userId : String) (organizationSlug : Option String) : Option OrganizationOrmEntity :=
  match Js.truthy organizationSlug with
  | some slug => w.organizations.rows.find? fun row => row.slug = slug
  | none => (Pg.uuid userId).bind fun owner =>
      (ties.arrange (w.organizations.rows.filter fun row => row.ownerId = owner)).head?

/-- The lookup by e-mail rejects, or answers the aggregate of the row. -/
theorem findByEmail_cases (email : String) (w : World) :
    (∃ e, (UserRepository.findByEmail email).run w = (.error e, w)) ∨
    ((UserRepository.findByEmail email).run w = (.ok none, w) ∧ userFor w email = none) ∨
    ∃ row user, (UserRepository.findByEmail email).run w = (.ok (some user), w) ∧
      userFor w email = some row ∧ UserRepository.toDomain row = .ok user := by
  rw [UserRepository.findByEmail]
  exact textLookup_cases UserRepository.toDomain _
    (fun key w => w.users.rows.find? fun row => row.email = key) w

/-- The organization is looked up, and answered as the aggregate of its row. -/
theorem resolveOrganization_cases (ties : Typeorm.Arrangement OrganizationOrmEntity)
    (userId : String) (organizationSlug : Option String) (w : World) :
    (∃ e, (resolveOrganization ties userId organizationSlug).run w = (.error e, w)) ∨
    ((resolveOrganization ties userId organizationSlug).run w = (.ok none, w) ∧
      organizationFor ties w userId organizationSlug = none) ∨
    ∃ row organization,
      (resolveOrganization ties userId organizationSlug).run w = (.ok (some organization), w) ∧
      organizationFor ties w userId organizationSlug = some row ∧
      OrganizationMapper.toDomain row = .ok organization := by
  unfold resolveOrganization organizationFor
  cases Js.truthy organizationSlug with
  | some slug =>
      exact OrganizationRepository.findBySlug_cases slug w
  | none =>
      cases hkey : Pg.uuid userId with
      | none =>
          have hparameter : (uuidParameter userId).run w = (.error .database, w) := by
            rw [uuidParameter, hkey]
            rfl
          simp only [OrganizationRepository.findByOwnerId, Program.bind_run_error hparameter]
          exact .inl ⟨_, rfl⟩
      | some owner =>
          simp only [OrganizationRepository.findByOwnerId,
            Program.bind_run_ok (uuidParameter_run w hkey),
            Program.bind_run_ok (Program.gets_run _ w), Option.bind_some]
          exact foundAs_cases _ _ w

/-! ## What a login does -/

section Login

variable {Token : Type} (bcryptCompare : String → String → Bool)
  (sign : JwtPayload → String → Token) (ties : Typeorm.Arrangement OrganizationOrmEntity)
  (rt : Runtime) (command : AuthenticateCommand) (w : World)

/-- A login that cannot name a tenant of the caller: the address is unknown, the
password is wrong, there is no such organization, or somebody else owns it. -/
inductive Unrecognised : Prop where
  | email (hrow : userFor w command.email = none)
  | password {row : UserOrmEntity} (hrow : userFor w command.email = some row)
      (hpassword : bcryptCompare command.password row.passwordHash = false)
  | organization {row : UserOrmEntity} (hrow : userFor w command.email = some row)
      (hpassword : bcryptCompare command.password row.passwordHash = true)
      (hactive : row.status = .active)
      (horg : organizationFor ties w row.id command.organizationSlug = none)
  | owner {row : UserOrmEntity} {org : OrganizationOrmEntity}
      (hrow : userFor w command.email = some row)
      (hpassword : bcryptCompare command.password row.passwordHash = true)
      (hactive : row.status = .active)
      (horg : organizationFor ties w row.id command.organizationSlug = some org)
      (howner : org.ownerId ≠ row.id)

/-- A user who is known and has a tenant, one of which is not active. -/
inductive Inactive : Exception → Prop where
  | account {row : UserOrmEntity} (hrow : userFor w command.email = some row)
      (hpassword : bcryptCompare command.password row.passwordHash = true)
      (hactive : row.status ≠ .active) :
      Inactive (.unauthorized s!"Account is {row.status.text}")
  | tenant {row : UserOrmEntity} {org : OrganizationOrmEntity}
      (hrow : userFor w command.email = some row)
      (hpassword : bcryptCompare command.password row.passwordHash = true)
      (hactive : row.status = .active)
      (horg : organizationFor ties w row.id command.organizationSlug = some org)
      (howner : org.ownerId = row.id) (hstatus : org.status ≠ .ACTIVE) :
      Inactive (.unauthorized s!"Tenant is {org.status.text}")

/-- A login that is answered with tokens for an organization. -/
structure Admitted (row : UserOrmEntity) (org : OrganizationOrmEntity) (user : UserAggregate) :
    Prop where
  found : userFor w command.email = some row
  domain : UserRepository.toDomain row = .ok user
  password : bcryptCompare command.password row.passwordHash = true
  active : row.status = .active
  resolved : organizationFor ties w row.id command.organizationSlug = some org
  owner : org.ownerId = row.id
  tenant : org.status = .ACTIVE

/-- **What a login does**: it rejects or is denied, and changes nothing, or it
answers tokens and writes the row of the user. -/
theorem execute_cases :
    (∃ e, (execute bcryptCompare sign ties rt command).run w = (.error e, w)) ∨
    ((execute bcryptCompare sign ties rt command).run w =
        (.ok (.error (.unauthorized "Invalid credentials")), w) ∧
      Unrecognised bcryptCompare ties command w) ∨
    (∃ e, (execute bcryptCompare sign ties rt command).run w = (.ok (.error e), w) ∧
      Inactive bcryptCompare ties command w e) ∨
    ∃ row org user written, (execute bcryptCompare sign ties rt command).run w =
        (.ok (.ok (tokens sign (user.recordLogin rt.now) org.id)),
          { w with users := w.users.put written }) ∧
      Admitted bcryptCompare ties command w row org user ∧
      UserRepository.table.Writes rt.savedAt
        (UserRepository.toOrm (user.recordLogin rt.now)) w written := by
  rcases findByEmail_cases command.email w with
    ⟨e, hfind⟩ | ⟨hfind, hrow⟩ | ⟨row, user, hfind, hrow, hdomain⟩
  · rw [execute, Program.bind_run_error hfind]
    exact .inl ⟨e, rfl⟩
  · rw [execute, Program.bind_run_ok hfind]
    exact .inr (.inl ⟨rfl, .email hrow⟩)
  · obtain ⟨-, hid, hhash, hstatus⟩ := UserRepository.toDomain_cases hdomain
    rw [execute, Program.bind_run_ok hfind]
    simp only [PasswordHash.verify, hhash, UserAggregate.isActive, hstatus, hid]
    by_cases hpassword : bcryptCompare command.password row.passwordHash = true
    · by_cases hactive : row.status = .active
      · simp only [hpassword, hactive, decide_true, not_true_eq_false, if_false]
        rcases resolveOrganization_cases ties row.id command.organizationSlug w with
          ⟨e, hresolve⟩ | ⟨hresolve, horg⟩ | ⟨org, organization, hresolve, horg, horganization⟩
        · rw [Program.bind_run_error hresolve]
          exact .inl ⟨e, rfl⟩
        · rw [Program.bind_run_ok hresolve]
          exact .inr (.inl ⟨rfl, .organization hrow hpassword hactive horg⟩)
        · obtain ⟨-, horgId, horgStatus, -⟩ := OrganizationMapper.toDomain_cases horganization
          have horgOwner := OrganizationMapper.ownerId_toDomain horganization
          rw [Program.bind_run_ok hresolve]
          simp only [horgId, horgStatus, horgOwner]
          by_cases howner : org.ownerId = row.id
          · by_cases htenant : org.status = .ACTIVE
            · have hadmitted : Admitted bcryptCompare ties command w row org user :=
                ⟨hrow, hdomain, hpassword, hactive, horg, howner, htenant⟩
              simp only [howner, htenant, ne_eq, not_true_eq_false, if_false]
              rcases UserRepository.save_cases rt.savedAt (user.recordLogin rt.now) w with
                ⟨e, hsave⟩ | ⟨stored, hsave, hwrites⟩
              · rw [Program.bind_run_error hsave]
                exact .inl ⟨e, rfl⟩
              · rw [Program.bind_run_ok hsave]
                exact .inr (.inr (.inr ⟨row, org, user, stored, rfl, hadmitted, hwrites⟩))
            · simp only [howner, htenant, ne_eq, not_true_eq_false, not_false_eq_true, if_true,
                if_false]
              exact .inr (.inr (.inl ⟨_, rfl, .tenant hrow hpassword hactive horg howner htenant⟩))
          · simp only [howner, ne_eq, not_false_eq_true, if_true]
            exact .inr (.inl ⟨rfl, .owner hrow hpassword hactive horg howner⟩)
      · simp only [hpassword, hactive, decide_false, Bool.false_eq_true, not_false_eq_true,
          not_true_eq_false, if_true, if_false]
        exact .inr (.inr (.inl ⟨_, rfl, .account hrow hpassword hactive⟩))
    · have hrefused := Bool.eq_false_iff.mpr hpassword
      simp only [hrefused, Bool.false_eq_true, not_false_eq_true, if_true]
      exact .inr (.inl ⟨rfl, .password hrow hrefused⟩)

/-- An organization that a login is for is stored. -/
theorem organizationFor_mem {ties : Typeorm.Arrangement OrganizationOrmEntity} {w : World}
    {userId : String} {organizationSlug : Option String} {org : OrganizationOrmEntity}
    (h : organizationFor ties w userId organizationSlug = some org) :
    org ∈ w.organizations.rows := by
  unfold organizationFor at h
  split at h
  · exact List.mem_of_find?_eq_some h
  · obtain ⟨owner, -, hhead⟩ := Option.bind_eq_some_iff.mp h
    have harranged := List.mem_of_head? hhead
    rw [(ties.perm _).mem_iff] at harranged
    exact (List.mem_filter.mp harranged).1

/-- Who is not recognised is not told about an account or a tenant. -/
theorem Unrecognised.not_inactive (h : Unrecognised bcryptCompare ties command w) (e : Exception) :
    ¬ Inactive bcryptCompare ties command w e := by
  intro hinactive
  cases hinactive with
  | account hrow hpassword hactive => cases h <;> grind
  | tenant hrow hpassword hactive horg howner hstatus => cases h <;> grind

/-! ## Soundness -/

/-- Tokens issued to an active user who gave the password, for an active
organization of theirs; the second one does not pass for an access token. -/
structure Issued (pair : TokenPair Token) (row : UserOrmEntity) (org : OrganizationOrmEntity) :
    Prop where
  found : userFor w command.email = some row
  active : row.status = .active
  password : bcryptCompare command.password row.passwordHash = true
  stored : org ∈ w.organizations.rows
  tenant : org.status = .ACTIVE
  owner : org.ownerId = row.id
  access : ∃ claims, pair.accessToken = sign claims "15m" ∧ claims.tenantId = org.id
  refresh : ∃ claims, pair.refreshToken = sign claims "7d" ∧ claims.tenantId = org.id ∧
    JwtStrategy.validate claims = .error (.unauthorized "Invalid token type")

theorem Admitted.issued {row : UserOrmEntity} {org : OrganizationOrmEntity} {user : UserAggregate}
    (h : Admitted bcryptCompare ties command w row org user) :
    Issued bcryptCompare sign command w (tokens sign (user.recordLogin rt.now) org.id) row org where
  found := h.found
  active := h.active
  password := h.password
  stored := organizationFor_mem h.resolved
  tenant := h.tenant
  owner := h.owner
  access := ⟨accessClaims (user.recordLogin rt.now) org.id, rfl, rfl⟩
  refresh := ⟨refreshClaims (user.recordLogin rt.now) org.id, rfl, rfl, rfl⟩

/-- **A login is sound**: tokens are only issued to an active user with the
password for an active organization that the user owns, any other outcome
changes no user and no organization, and the caller cannot tell why the
credentials were not recognised. -/
theorem login_sound {r : Except Exception (Result (TokenPair Token))} {w' : World}
    (h : (execute bcryptCompare sign ties rt command).run w = (r, w')) :
    (∀ pair, r = .ok (.ok pair) → ∃ row org, Issued bcryptCompare sign command w pair row org) ∧
    ((∀ pair, r ≠ .ok (.ok pair)) →
      w'.users = w.users ∧ w'.organizations = w.organizations) ∧
    (Unrecognised bcryptCompare ties command w →
      ∀ e, r = .ok (.error e) → e = .unauthorized "Invalid credentials") := by
  rcases execute_cases bcryptCompare sign ties rt command w with
    ⟨e, hrun⟩ | ⟨hrun, -⟩ | ⟨e, hrun, hinactive⟩ | ⟨row, org, user, stored, hrun, hadmitted, -⟩
  · obtain ⟨rfl, rfl⟩ := Prod.mk.inj (hrun.symm.trans h)
    exact ⟨by simp, fun _ => ⟨rfl, rfl⟩, by simp⟩
  · obtain ⟨rfl, rfl⟩ := Prod.mk.inj (hrun.symm.trans h)
    exact ⟨by simp, fun _ => ⟨rfl, rfl⟩, fun _ e he => (Except.error.inj (Except.ok.inj he)).symm⟩
  · obtain ⟨rfl, rfl⟩ := Prod.mk.inj (hrun.symm.trans h)
    exact ⟨by simp, fun _ => ⟨rfl, rfl⟩, fun hunrecognised =>
      absurd hinactive (hunrecognised.not_inactive _ _ _ _ e)⟩
  · obtain ⟨rfl, rfl⟩ := Prod.mk.inj (hrun.symm.trans h)
    have hissued := hadmitted.issued bcryptCompare sign ties rt command w
    refine ⟨fun pair hpair => ⟨row, org, ?_⟩, fun hnone => absurd rfl (hnone _), by simp⟩
    rw [← Except.ok.inj (Except.ok.inj hpair)]
    exact hissued

end Login

/-! ## Completeness -/

/-- A stored user is found by the address. -/
theorem findByEmail_run {w : World} {email : String} {row : UserOrmEntity} (hw : w.Consistent)
    (hrow : userFor w email = some row) :
    ∃ user, (UserRepository.findByEmail email).run w = (.ok (some user), w) ∧
      UserRepository.toDomain row = .ok user := by
  have hmem : row ∈ w.users.rows := List.mem_of_find?_eq_some hrow
  have hkey : row.email = Js.toLowerCase email := by simpa using List.find?_some hrow
  obtain ⟨user, hdomain⟩ := UserRepository.toDomain_of_regular (hw.users row hmem)
  have htext : Pg.text (Js.toLowerCase email) = some (Js.toLowerCase email) := by
    rw [← hkey, Pg.text_varchar (hw.users row hmem).columns.email]
  refine ⟨user, ?_, hdomain⟩
  rw [UserRepository.findByEmail]
  exact textLookup_run htext hrow hdomain

/-- An organization of a stored user is found when no slug is given. -/
theorem resolveOrganization_run {ties : Typeorm.Arrangement OrganizationOrmEntity} {w : World}
    {userId : String} {organizationSlug : Option String} {org : OrganizationOrmEntity}
    (hw : w.Consistent) (hslug : Js.truthy organizationSlug = none)
    (horg : organizationFor ties w userId organizationSlug = some org) :
    ∃ organization,
      (resolveOrganization ties userId organizationSlug).run w = (.ok (some organization), w) ∧
      OrganizationMapper.toDomain org = .ok organization := by
  obtain ⟨organization, hdomain⟩ := OrganizationRepository.toDomain_of_regular
    (hw.organizations org (organizationFor_mem horg))
  refine ⟨organization, ?_, hdomain⟩
  simp only [organizationFor, hslug] at horg
  obtain ⟨owner, howner, hhead⟩ := Option.bind_eq_some_iff.mp horg
  simp only [resolveOrganization, hslug]
  rw [OrganizationRepository.findByOwnerId, Program.bind_run_ok (uuidParameter_run w howner),
    Program.bind_run_ok (Program.gets_run _ w), hhead]
  exact foundAs_run w hdomain

/-- An organization is found by its slug. -/
theorem resolveOrganization_slug {ties : Typeorm.Arrangement OrganizationOrmEntity} {w : World}
    {userId slug : String} {org : OrganizationOrmEntity} (hw : w.Consistent)
    (horg : organizationFor ties w userId (some slug) = some org) (hslug : slug ≠ "") :
    ∃ organization,
      (resolveOrganization ties userId (some slug)).run w = (.ok (some organization), w) ∧
      OrganizationMapper.toDomain org = .ok organization := by
  have hregular := hw.organizations org (organizationFor_mem horg)
  have htruthy : Js.truthy (some slug) = some slug :=
    Js.truthy_of_ne fun h => hslug (Option.some.inj h)
  obtain ⟨organization, hdomain⟩ := OrganizationRepository.toDomain_of_regular hregular
  simp only [organizationFor, htruthy] at horg
  have hkey : org.slug = slug := by simpa using List.find?_some horg
  have htext : Pg.text slug = some slug := by
    rw [← hkey, Pg.text_varchar hregular.columns.slug]
  refine ⟨organization, ?_, hdomain⟩
  simp only [resolveOrganization, htruthy]
  exact OrganizationRepository.findBySlug_run htext horg hdomain

/-- Whichever order the rows come in, an owner of an organization is answered
one of theirs. -/
theorem organizationFor_owner {ties : Typeorm.Arrangement OrganizationOrmEntity} {w : World}
    {userId : String} {organizationSlug : Option String} (hid : Pg.uuid userId = some userId)
    (hslug : Js.truthy organizationSlug = none)
    (howns : ∃ org ∈ w.organizations.rows, org.ownerId = userId) :
    ∃ org, organizationFor ties w userId organizationSlug = some org ∧ org.ownerId = userId := by
  obtain ⟨owned, hmem, howned⟩ := howns
  have harranged : owned ∈ ties.arrange (w.organizations.rows.filter fun row =>
      row.ownerId = userId) := by
    rw [(ties.perm _).mem_iff, List.mem_filter]
    exact ⟨hmem, by simpa using howned⟩
  have hlookup : organizationFor ties w userId organizationSlug =
      (ties.arrange (w.organizations.rows.filter fun row => row.ownerId = userId)).head? := by
    rw [organizationFor, hslug, hid]
    rfl
  rw [hlookup]
  cases hrows : ties.arrange (w.organizations.rows.filter fun row => row.ownerId = userId) with
  | nil =>
      rw [hrows] at harranged
      simp at harranged
  | cons org rest =>
      refine ⟨org, rfl, ?_⟩
      have hfirst : org ∈ ties.arrange (w.organizations.rows.filter fun row =>
          row.ownerId = userId) := by
        rw [hrows]
        exact List.mem_cons_self
      rw [(ties.perm _).mem_iff, List.mem_filter] at hfirst
      simpa using hfirst.2

section Completeness

variable {Token : Type} (bcryptCompare : String → String → Bool)
  (sign : JwtPayload → String → Token) (ties : Typeorm.Arrangement OrganizationOrmEntity)
  (rt : Runtime) (command : AuthenticateCommand) {w : World}

/-- **A login without a slug is decided by the organization that is looked up**:
an active user with the password who owns an active organization is let in when
the lookup answers an active one, and told the status of the other otherwise. -/
theorem login_without_slug {row : UserOrmEntity} (hw : w.Consistent)
    (hclock : Pg.timestamptz rt.now = some rt.now)
    (hslug : Js.truthy command.organizationSlug = none)
    (hrow : userFor w command.email = some row) (hactive : row.status = .active)
    (hpassword : bcryptCompare command.password row.passwordHash = true)
    (howns : ∃ org ∈ w.organizations.rows, org.ownerId = row.id ∧ org.status = .ACTIVE) :
    ∃ org, organizationFor ties w row.id command.organizationSlug = some org ∧
      org.ownerId = row.id ∧
      (org.status = .ACTIVE → ∃ pair w',
        (execute bcryptCompare sign ties rt command).run w = (.ok (.ok pair), w') ∧
          pair.tenantId = org.id ∧ Issued bcryptCompare sign command w pair row org) ∧
      (org.status ≠ .ACTIVE → (execute bcryptCompare sign ties rt command).run w =
        (.ok (.error (.unauthorized s!"Tenant is {org.status.text}")), w)) := by
  have hmem : row ∈ w.users.rows := List.mem_of_find?_eq_some hrow
  obtain ⟨user, hfind, hdomain⟩ := findByEmail_run hw hrow
  obtain ⟨-, hid, hhash, hstatus⟩ := UserRepository.toDomain_cases hdomain
  obtain ⟨owned, howned, howner, -⟩ := howns
  obtain ⟨org, horg, horgOwner⟩ := organizationFor_owner (hw.users row hmem).columns.id hslug
    ⟨owned, howned, howner⟩
  obtain ⟨organization, hresolve, horganization⟩ := resolveOrganization_run hw hslug horg
  obtain ⟨-, horgId, horgStatus, -⟩ := OrganizationMapper.toDomain_cases horganization
  have hdomainOwner := OrganizationMapper.ownerId_toDomain horganization
  refine ⟨org, horg, horgOwner, ?_⟩
  rw [execute, Program.bind_run_ok hfind]
  simp only [PasswordHash.verify, hhash, UserAggregate.isActive, hstatus, hid, hpassword, hactive,
    decide_true, not_true_eq_false, if_false]
  rw [Program.bind_run_ok hresolve]
  simp only [horgId, horgStatus, hdomainOwner, horgOwner, ne_eq, not_true_eq_false, if_false]
  constructor
  · intro htenant
    obtain ⟨w', hsave⟩ := UserRepository.save_recordLogin rt.savedAt hw hmem hdomain hclock
    simp only [htenant, not_true_eq_false, if_false]
    rw [Program.bind_run_ok hsave]
    have hadmitted : Admitted bcryptCompare ties command w row org user :=
      ⟨hrow, hdomain, hpassword, hactive, horg, horgOwner, htenant⟩
    exact ⟨_, w', rfl, rfl, hadmitted.issued bcryptCompare sign ties rt command w⟩
  · intro htenant
    simp only [htenant, not_false_eq_true, if_true]
    rfl

/-- **A login with a slug lets an active user with the password in** to the active
organization of that slug, if the user owns it. -/
theorem login_with_slug {row : UserOrmEntity} {org : OrganizationOrmEntity} {slug : String}
    (hw : w.Consistent) (hclock : Pg.timestamptz rt.now = some rt.now)
    (hgiven : command.organizationSlug = some slug) (hslug : slug ≠ "")
    (hrow : userFor w command.email = some row) (hactive : row.status = .active)
    (hpassword : bcryptCompare command.password row.passwordHash = true)
    (horg : organizationFor ties w row.id (some slug) = some org) (howner : org.ownerId = row.id)
    (htenant : org.status = .ACTIVE) :
    ∃ pair w', (execute bcryptCompare sign ties rt command).run w = (.ok (.ok pair), w') ∧
      pair.tenantId = org.id ∧ Issued bcryptCompare sign command w pair row org := by
  have hmem : row ∈ w.users.rows := List.mem_of_find?_eq_some hrow
  obtain ⟨user, hfind, hdomain⟩ := findByEmail_run hw hrow
  obtain ⟨-, hid, hhash, hstatus⟩ := UserRepository.toDomain_cases hdomain
  obtain ⟨organization, hresolve, horganization⟩ := resolveOrganization_slug hw horg hslug
  obtain ⟨-, horgId, horgStatus, -⟩ := OrganizationMapper.toDomain_cases horganization
  have hdomainOwner := OrganizationMapper.ownerId_toDomain horganization
  obtain ⟨w', hsave⟩ := UserRepository.save_recordLogin rt.savedAt hw hmem hdomain hclock
  have hadmitted : Admitted bcryptCompare ties command w row org user :=
    ⟨hrow, hdomain, hpassword, hactive, hgiven ▸ horg, howner, htenant⟩
  refine ⟨_, w', ?_, rfl, hadmitted.issued bcryptCompare sign ties rt command w⟩
  rw [execute, Program.bind_run_ok hfind]
  simp only [PasswordHash.verify, hhash, UserAggregate.isActive, hstatus, hid, hpassword, hactive,
    decide_true, not_true_eq_false, if_false, hgiven]
  rw [Program.bind_run_ok hresolve]
  simp only [horgId, horgStatus, hdomainOwner, howner, htenant, ne_eq, not_true_eq_false, if_false]
  rw [Program.bind_run_ok hsave]
  rfl

end Completeness

/-- A comparison that accepts one password. -/
def sampleCompare (password hash : String) : Bool :=
  password = "correct horse" && hash = "$2b$12$abcdefghijklmnopqrstuv"

def sampleLogin : AuthenticateCommand :=
  ⟨"Owner@Acme.test", "correct horse", none, Pg.uuidOf 11⟩

/-- The rows come in the order they were written. -/
def insertionOrder (ρ : Type) : Typeorm.Arrangement ρ := ⟨id, fun _ => List.Perm.refl _⟩

theorem sampleLogin_answers :
    answered ((execute sampleCompare Prod.mk (insertionOrder _) sampleRuntime sampleLogin).run
      sampleWorld) = true := by
  decide +kernel

theorem login_sound_owner :
    ∃ pair row org, Issued sampleCompare Prod.mk sampleLogin sampleWorld pair row org := by
  obtain ⟨pair, w', h⟩ := answer_of_answered sampleLogin_answers
  obtain ⟨row, org, hissued⟩ := (login_sound _ _ _ _ _ _ h).1 pair rfl
  exact ⟨pair, row, org, hissued⟩

theorem sampleUser_regular : sampleUser.Regular where
  columns := by constructor <;> decide +kernel
  address := ⟨⟨sampleUser.email, by decide +kernel, by decide +kernel, by decide +kernel⟩, rfl⟩

theorem sampleOrganization_regular : sampleOrganization.Regular where
  columns := {
    id := by decide +kernel
    name := by decide +kernel
    slug := by decide +kernel
    ownerId := by decide +kernel
    provisionedAt := by decide +kernel
    settings := by decide +kernel
    createdAt := by decide +kernel
    updatedAt := by decide +kernel }
  slug := ⟨⟨sampleOrganization.slug, by decide +kernel⟩, rfl⟩

theorem sampleWorld_consistent : sampleWorld.Consistent where
  users := by
    intro row hrow
    obtain rfl := List.mem_singleton.mp hrow
    exact sampleUser_regular
  emails := by
    intro r hr s hs _
    rw [List.mem_singleton.mp hr, List.mem_singleton.mp hs]
  organizations := by
    intro row hrow
    obtain rfl := List.mem_singleton.mp hrow
    exact sampleOrganization_regular
  slugs := by
    intro r hr s hs _
    rw [List.mem_singleton.mp hr, List.mem_singleton.mp hs]

/-- An owner of one active organization is let in. -/
theorem login_without_slug_owner :
    ∃ org, organizationFor (insertionOrder _) sampleWorld sampleUser.id none = some org ∧
      org.status = .ACTIVE ∧ ∃ pair w',
        (execute sampleCompare Prod.mk (insertionOrder _) sampleRuntime sampleLogin).run
          sampleWorld = (.ok (.ok pair), w') ∧ pair.tenantId = org.id := by
  have hrow : userFor sampleWorld sampleLogin.email = some sampleUser := by decide +kernel
  obtain ⟨org, horg, -, hlogin, -⟩ := login_without_slug sampleCompare Prod.mk
    (insertionOrder _) sampleRuntime sampleLogin sampleWorld_consistent (by decide) rfl hrow rfl
    (by decide +kernel) ⟨sampleOrganization, List.mem_singleton_self _, rfl, rfl⟩
  have hlookup : organizationFor (insertionOrder _) sampleWorld sampleUser.id
      sampleLogin.organizationSlug = some sampleOrganization := by decide +kernel
  obtain rfl := Option.some.inj (horg.symm.trans hlookup)
  obtain ⟨pair, w', hrun, htenant, -⟩ := hlogin rfl
  exact ⟨_, hlookup, rfl, pair, w', hrun, htenant⟩

/-- An organization that the same user is provisioning. -/
def provisioningOrganization : OrganizationOrmEntity :=
  { sampleOrganization with
    id := Pg.uuidOf 3, slug := "acme-labs", status := .PROVISIONING, provisionedAt := none }

/-- The database once the user has created a second organization. -/
def twoOrganizations : World :=
  { sampleWorld with organizations := sampleWorld.organizations.put provisioningOrganization }

/-- The row written last comes first. -/
def newestFirst (ρ : Type) : Typeorm.Arrangement ρ := ⟨List.reverse, List.reverse_perm⟩

/-- An owner of an active organization is turned away when the lookup answers
another of theirs. -/
theorem second_organization_locks_out :
    ¬ ∀ (bcryptCompare : String → String → Bool) (ties : Typeorm.Arrangement OrganizationOrmEntity)
      (rt : Runtime) (command : AuthenticateCommand) (w : World) (row : UserOrmEntity),
      Js.truthy command.organizationSlug = none → userFor w command.email = some row →
      row.status = .active → bcryptCompare command.password row.passwordHash = true →
      (∃ org ∈ w.organizations.rows, org.ownerId = row.id ∧ org.status = .ACTIVE) →
      ∃ pair w', (execute bcryptCompare Prod.mk ties rt command).run w = (.ok (.ok pair), w') ∧
        ∃ org ∈ w.organizations.rows, org.ownerId = row.id ∧ org.status = .ACTIVE ∧
          pair.tenantId = org.id := by
  intro hclaim
  obtain ⟨pair, w', hrun, -⟩ := hclaim sampleCompare (newestFirst _) sampleRuntime sampleLogin
    twoOrganizations sampleUser rfl (by decide +kernel) rfl (by decide +kernel)
    ⟨sampleOrganization, by decide +kernel, rfl, rfl⟩
  have hrefused : answered ((execute sampleCompare Prod.mk (newestFirst _) sampleRuntime
      sampleLogin).run twoOrganizations) = false := by
    decide +kernel
  rw [hrun] at hrefused
  contradiction

end AuthenticateHandler

end Atlas
