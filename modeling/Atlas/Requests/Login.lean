import Atlas.Identity.Login
import Atlas.Requests.Soundness

/-!
# Atlas.Requests.Login

Logins between the steps of others.

No request activates a user or an organization, so that what is active when a
login looks was active at the beginning.
-/

namespace Atlas

open StoreKit

variable {moving : String → Prop} {w₀ w : World}

/-- An active user was there from the beginning. -/
theorem origin_user {row : UserOrmEntity} (h : w₀.Evolves moving w) (hrow : row ∈ w.users.rows)
    (hactive : row.status = .active) : ∃ first ∈ w₀.users.rows, first.Becomes row := by
  rcases h.users.origin row hrow with hfirst | ⟨hfresh, -⟩
  · exact hfirst
  · have hpending : row.status = .pending_verification := hfresh
    rw [hactive] at hpending
    cases hpending

/-- An active organization was there from the beginning. -/
theorem origin_organization {org : OrganizationOrmEntity} (h : w₀.Evolves moving w)
    (horg : org ∈ w.organizations.rows) (hactive : org.status = .ACTIVE) :
    ∃ first ∈ w₀.organizations.rows, first.Becomes moving org := by
  rcases h.organizations.origin org horg with hfirst | ⟨hfresh, -⟩
  · exact hfirst
  · have hprovisioning : org.status = .PROVISIONING := hfresh
    rw [hactive] at hprovisioning
    cases hprovisioning

open AuthenticateHandler

/-- The user with an address is the one that has it. -/
theorem userFor_of_mem {email : String} {row : UserOrmEntity} (hw : w.Consistent)
    (hrow : row ∈ w.users.rows) (hemail : row.email = Js.toLowerCase email) :
    userFor w email = some row := by
  cases hfind : userFor w email with
  | none =>
      have hnone := List.find?_eq_none.mp hfind row hrow
      simp [hemail] at hnone
  | some found =>
      have hmem : found ∈ w.users.rows := List.mem_of_find?_eq_some hfind
      have hkey : found.email = Js.toLowerCase email := by simpa using List.find?_some hfind
      rw [w.users.eq_of_key_eq hmem hrow (hw.emails _ hmem _ hrow (hkey.trans hemail.symm))]

variable {Token : Type} (bcryptCompare : String → String → Bool)
  (sign : JwtPayload → String → Token) (ties : Typeorm.Arrangement OrganizationOrmEntity)
  (rt : Runtime) (id : String) (command : AuthenticateCommand)

/-- The tokens that the database at the beginning calls for. -/
def Granted (w₀ : World) (pair : TokenPair Token) (_ : World) : Prop :=
  ∃ row org user, Issued bcryptCompare sign command w₀ pair row org ∧ user.userId = row.id ∧
    pair = tokens sign user org.id ∧
    ∀ slug, Js.truthy command.organizationSlug = some slug → org.slug = slug

/-- The organization that is looked up has the slug that is asked for. -/
theorem slug_of_organizationFor {userId : String} {organizationSlug : Option String}
    {org : OrganizationOrmEntity} (h : organizationFor ties w userId organizationSlug = some org)
    {slug : String} (hslug : Js.truthy organizationSlug = some slug) : org.slug = slug := by
  rw [organizationFor, hslug] at h
  simpa using List.find?_some h

/-- **A login answers tokens only to a user who was active at the beginning, for
an organization of theirs that was.** -/
theorem sound_login (hw₀ : w₀.Intact)
    (hmoving : ∀ org ∈ w₀.organizations.rows, moving org.id → org.status = .ACTIVE) :
    Sound moving id (IfOk (Granted bcryptCompare sign command w₀)) (fun _ _ => True)
      (steps bcryptCompare sign ties rt command) w₀ := by
  unfold steps
  refine sound_read (reads_findByEmail command.email)
    (fun found w₁ w₂ hw₁ hspares hsame hrun => ?_) fun _ _ => trivial
  rcases findByEmail_cases command.email w₁ with
    ⟨e, hfind⟩ | ⟨hfind, -⟩ | ⟨held, user, hfind, hheld, hdomain⟩
  · rw [hfind] at hrun
    cases hrun
  · rw [hfind] at hrun
    cases hrun
    exact .pure trivial
  · rw [hfind] at hrun
    cases hrun
    obtain ⟨-, huserId, hhash, hstatus⟩ := UserRepository.toDomain_cases hdomain
    have hmem : held ∈ w₁.users.rows := List.mem_of_find?_eq_some hheld
    have hemail : held.email = Js.toLowerCase command.email := by
      simpa using List.find?_some hheld
    refine sound_ite (fun _ => .pure trivial) fun hpassword =>
      sound_ite (fun _ => .pure trivial) fun hactive => ?_
    have hactive : held.status = .active := by
      simpa [UserAggregate.isActive, hstatus] using hactive
    obtain ⟨first, hfirst, hbecomes⟩ := origin_user hspares.evolves hmem hactive
    refine sound_read (reads_resolveOrganization ties user.userId command.organizationSlug)
      (fun found w₃ w₄ hw₃ hspares₃ hsame₃ hrun₃ => ?_) fun _ _ => trivial
    have hevolves₃ : w₁.Evolves moving w₃ :=
      (hsame.takes moving id).evolves.trans hspares₃.evolves
    rcases resolveOrganization_cases ties user.userId command.organizationSlug w₃ with
      ⟨e, hfind₃⟩ | ⟨hfind₃, -⟩ | ⟨orgRow, organization, hfind₃, horgRow, horganization⟩
    · rw [hfind₃] at hrun₃
      cases hrun₃
    · rw [hfind₃] at hrun₃
      cases hrun₃
      exact .pure trivial
    · rw [hfind₃] at hrun₃
      cases hrun₃
      obtain ⟨-, horgId, horgStatus, -, horgOwner, -⟩ :=
        OrganizationMapper.toDomain_cases horganization
      unfold issue
      refine sound_ite (fun _ => .pure trivial) fun howner =>
        sound_ite (fun _ => .pure trivial) fun htenant => ?_
      have howner : orgRow.ownerId = held.id :=
        horgOwner.symm.trans ((not_not.mp howner).trans huserId)
      have htenant : orgRow.status = .ACTIVE := horgStatus.symm.trans (not_not.mp htenant)
      obtain ⟨firstOrg, hfirstOrg, hbecomesOrg⟩ := origin_organization
        (hspares.evolves.trans hevolves₃) (organizationFor_mem horgRow) htenant
      refine sound_call fun w₅ hw₅ hspares₅ => ?_
      rcases UserRepository.save_cases rt.savedAt (user.recordLogin rt.now) w₅ with
        ⟨e, hsave⟩ | ⟨row, hsave, hwrites⟩
      · have hsame₅ : w₅.SameTables w₅ := ⟨rfl, rfl, rfl, rfl, rfl, rfl⟩
        exact .inl ⟨e, _, hsave, hsame₅.step hw₅ moving id, trivial⟩
      · obtain ⟨current, hcurrent, hbecomes₅⟩ := (hevolves₃.trans
          ((hsame₃.takes moving id).evolves.trans hspares₅.evolves)).users.kept held hmem
        refine .inr ⟨_, _, hsave, step_recordLogin hw₅ (hw₁.consistent.users held hmem) hdomain
          hbecomes₅ hcurrent hwrites, .pure ⟨first, firstOrg, user.recordLogin rt.now, ?_,
            huserId.trans hbecomes.id, ?_, fun slug hslug =>
              hbecomesOrg.slug.symm.trans (slug_of_organizationFor ties horgRow hslug)⟩⟩
        swap
        · rw [← hbecomesOrg.id, ← horgId]
        exact {
          found := userFor_of_mem hw₀.consistent hfirst (hbecomes.email ▸ hemail)
          active := hbecomes.status ▸ hactive
          password := by
            rw [← hbecomes.passwordHash, ← hhash]
            simpa [PasswordHash.verify] using hpassword
          stored := hfirstOrg
          tenant := by
            rcases hbecomesOrg.status with hkept | ⟨hmoves, -, -⟩
            · exact hkept.symm.trans htenant
            · exact hmoving firstOrg hfirstOrg hmoves
          owner := hbecomesOrg.ownerId.symm.trans (howner.trans hbecomes.id)
          access := ⟨accessClaims (user.recordLogin rt.now) organization.organizationId, rfl,
            horgId.trans hbecomesOrg.id⟩
          refresh := ⟨refreshClaims (user.recordLogin rt.now) organization.organizationId, rfl,
            horgId.trans hbecomesOrg.id, rfl⟩ }

/-! ## Logins that succeed -/

/-- A login overwrites the one before it. -/
theorem recordLogin_becomes {held current : UserOrmEntity} {user user' : UserAggregate}
    (now : Js.Date) (h : UserRepository.toDomain held = .ok user)
    (h' : UserRepository.toDomain current = .ok user') (hbecomes : held.Becomes current) :
    user'.recordLogin now = user.recordLogin now := by
  cases hemail : Email.create held.email with
  | error e =>
      rw [UserRepository.toDomain, hemail] at h
      cases h
  | ok address =>
      rw [UserRepository.toDomain, hemail] at h
      rw [UserRepository.toDomain, hbecomes.email, hemail] at h'
      obtain rfl := Except.ok.inj h
      obtain rfl := Except.ok.inj h'
      simp only [UserAggregate.recordLogin, hbecomes.id, hbecomes.passwordHash,
        hbecomes.displayName, hbecomes.status, hbecomes.emailVerifiedAt]

/-- A login is saved on what the row has become meanwhile. -/
theorem save_recordLogin_becomes {held current : UserOrmEntity} {user : UserAggregate}
    {now : Js.Date} (savedAt : Js.Date) (hw : w.Consistent)
    (hdomain : UserRepository.toDomain held = .ok user) (hbecomes : held.Becomes current)
    (hcurrent : current ∈ w.users.rows) (hnow : Pg.timestamptz now = some now) :
    ∃ w', (UserRepository.save savedAt (user.recordLogin now)).run w =
      (.ok (user.recordLogin now), w') := by
  obtain ⟨user', hdomain'⟩ := UserRepository.toDomain_of_regular (hw.users current hcurrent)
  have hsame := recordLogin_becomes now hdomain hdomain' hbecomes
  obtain ⟨w', hsave⟩ := UserRepository.save_recordLogin savedAt hw hcurrent hdomain' hnow
  rw [hsame] at hsave
  exact ⟨w', hsave⟩

/-- The organization with a slug is the one that has it. -/
theorem organizationFor_of_mem {userId slug : String} {org : OrganizationOrmEntity}
    (hw : w.Consistent) (horg : org ∈ w.organizations.rows) (hslug : org.slug = slug)
    (hgiven : slug ≠ "") : organizationFor ties w userId (some slug) = some org := by
  have htruthy : Js.truthy (some slug) = some slug :=
    Js.truthy_of_ne fun h => hgiven (Option.some.inj h)
  rw [organizationFor, htruthy]
  show (w.organizations.rows.find? fun row => row.slug = slug) = some org
  cases hfind : w.organizations.rows.find? fun row => row.slug = slug with
  | none =>
      have hnone := List.find?_eq_none.mp hfind org horg
      simp [hslug] at hnone
  | some found =>
      have hmem : found ∈ w.organizations.rows := List.mem_of_find?_eq_some hfind
      have hkey : found.slug = slug := by simpa using List.find?_some hfind
      rw [w.organizations.eq_of_key_eq hmem horg
        (hw.slugs _ hmem _ horg (hkey.trans hslug.symm))]

/-- **A login of an active user with the password is let in** to the active
organization of the slug, if the user owns it and nobody suspends it. -/
theorem sound_login_succeeds {row : UserOrmEntity} {org : OrganizationOrmEntity} {slug : String}
    (hclock : Pg.timestamptz rt.now = some rt.now)
    (hgiven : command.organizationSlug = some slug) (hslug : slug ≠ "")
    (hrow : userFor w₀ command.email = some row) (hactive : row.status = .active)
    (hpassword : bcryptCompare command.password row.passwordHash = true)
    (horg : org ∈ w₀.organizations.rows) (hasked : org.slug = slug) (howner : org.ownerId = row.id)
    (htenant : org.status = .ACTIVE) (hstays : ¬ moving org.id) :
    Sound moving id (fun result _ => ∃ pair, result = .ok pair ∧ pair.tenantId = org.id)
      (fun _ _ => False) (steps bcryptCompare sign ties rt command) w₀ := by
  have hmem : row ∈ w₀.users.rows := List.mem_of_find?_eq_some hrow
  have hemail : row.email = Js.toLowerCase command.email := by simpa using List.find?_some hrow
  unfold steps
  refine sound_call fun w₁ hw₁ hspares => ?_
  obtain ⟨held, hheld, hbecomes⟩ := hspares.evolves.users.kept row hmem
  have hfor := userFor_of_mem hw₁.consistent hheld (hbecomes.email.trans hemail)
  obtain ⟨user, hfind, hdomain⟩ := findByEmail_run hw₁.consistent hfor
  obtain ⟨-, huserId, hhash, hstatus⟩ := UserRepository.toDomain_cases hdomain
  have hsame₁ : w₁.SameTables w₁ := ⟨rfl, rfl, rfl, rfl, rfl, rfl⟩
  refine .inr ⟨_, w₁, hfind, hsame₁.step hw₁ moving id, ?_⟩
  have hverified : user.passwordHash.verify bcryptCompare command.password = true := by
    rw [PasswordHash.verify, hhash, hbecomes.passwordHash]
    exact hpassword
  have huserActive : user.isActive = true := by
    simp [UserAggregate.isActive, hstatus, hbecomes.status, hactive]
  refine sound_ite (fun hwrong => absurd hverified hwrong) fun _ =>
    sound_ite (fun hinactive => absurd huserActive hinactive) fun _ => ?_
  refine sound_call fun w₂ hw₂ hspares₂ => ?_
  obtain ⟨orgRow, horgRow, hbecomesOrg⟩ :=
    (hspares.evolves.trans hspares₂.evolves).organizations.kept org horg
  have horgStatus : orgRow.status = .ACTIVE := by
    rcases hbecomesOrg.status with hkept | ⟨hmoves, -, -⟩
    · exact hkept.trans htenant
    · exact absurd hmoves hstays
  have horgFor : organizationFor ties w₂ user.userId (some slug) = some orgRow :=
    organizationFor_of_mem ties hw₂.consistent horgRow (hbecomesOrg.slug.trans hasked) hslug
  obtain ⟨organization, hresolve, horganization⟩ :=
    resolveOrganization_slug hw₂.consistent horgFor hslug
  obtain ⟨-, horgId, hstatusOf, -, hownerOf, -⟩ := OrganizationMapper.toDomain_cases horganization
  have hsame₂ : w₂.SameTables w₂ := ⟨rfl, rfl, rfl, rfl, rfl, rfl⟩
  rw [hgiven]
  refine .inr ⟨_, w₂, hresolve, hsame₂.step hw₂ moving id, ?_⟩
  have hownerSame : organization.ownerId = user.userId := by
    rw [hownerOf, hbecomesOrg.ownerId, howner, huserId, hbecomes.id]
  have hstatusSame : organization.status = .ACTIVE := hstatusOf.trans horgStatus
  unfold issue
  refine sound_ite (fun hother => absurd hownerSame hother) fun _ =>
    sound_ite (fun hinactive => absurd hstatusSame hinactive) fun _ => ?_
  refine sound_call fun w₃ hw₃ hspares₃ => ?_
  obtain ⟨current, hcurrent, hbecomes₃⟩ :=
    (hspares₂.evolves.trans hspares₃.evolves).users.kept held hheld
  obtain ⟨w', hsave⟩ := save_recordLogin_becomes rt.savedAt hw₃.consistent hdomain hbecomes₃
    hcurrent hclock
  rcases UserRepository.save_cases rt.savedAt (user.recordLogin rt.now) w₃ with
    ⟨e, hrefused⟩ | ⟨written, hsaved, hwrites⟩
  · rw [hsave] at hrefused
    cases hrefused
  · exact .inr ⟨_, _, hsaved, step_recordLogin hw₃ (hw₁.consistent.users held hheld) hdomain
      hbecomes₃ hcurrent hwrites, .pure ⟨_, rfl, horgId.trans hbecomesOrg.id⟩⟩

end Atlas
