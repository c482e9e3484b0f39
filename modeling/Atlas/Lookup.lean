import Atlas.Constraints
import Atlas.Lib.Run

/-!
# Atlas.Lookup

Looking up organizations and users by a text that somebody typed.

The value objects store a slug or an address in its normal form.  The lookups
compare with the text itself, or with the text in lower case, so they agree
with the normal form exactly where these two are the same or nothing is stored.
-/

namespace Atlas

open StoreKit

/-! ## Databases the aggregates are stored in -/

/-- A call that stores an aggregate. -/
inductive Save where
  | organization (ctx : Option String) (savedAt : Js.Date) (org : OrganizationAggregate)
  | provision (savedAt : Js.Date) (org : OrganizationAggregate)
  | user (savedAt : Js.Date) (account : UserAggregate)

/-- The call, without its answer. -/
def Save.execute : Save → App Unit
  | .organization ctx savedAt org => do
      let _ ← OrganizationRepository.save ctx savedAt org
      return ()
  | .provision savedAt org => do
      let _ ← OrganizationRepository.provision savedAt org
      return ()
  | .user savedAt account => do
      let _ ← UserRepository.save savedAt account
      return ()

def Save.run (w : World) (save : Save) : Except Exception Unit × World := save.execute.run w

/-- The database after some saves, which began without users and organizations. -/
def afterSaves (w : World) (saves : List Save) : World :=
  final Save.run { w with users := .empty, organizations := .empty } saves

section Consistency

variable {w : World}

/-- What is on record about tenants is no part of consistency. -/
theorem consistent_noting (hw : w.Consistent) (tenant : Option String) :
    (w.noting tenant).Consistent :=
  ⟨hw.users, hw.emails, hw.organizations, hw.slugs⟩

/-- Saving an organization leaves a consistent database, or rejects. -/
theorem consistent_saveOrm (hw : w.Consistent) (savedAt : Js.Date) (org : OrganizationAggregate) :
    ((OrganizationRepository.saveOrm savedAt (OrganizationMapper.toOrm org)).run w).2.Consistent := by
  rw [OrganizationRepository.saveOrm_run]
  split
  · next table htable => exact OrganizationRepository.consistent_save hw htable
  · exact hw

/-- What is built from the saved row is not stored again. -/
theorem consistent_provision (hw : w.Consistent) (savedAt : Js.Date)
    (org : OrganizationAggregate) :
    ((OrganizationRepository.provision savedAt org).run w).2.Consistent := by
  have hstore : ((OrganizationRepository.provision savedAt org).run w).2 =
      ((OrganizationRepository.saveOrm savedAt (OrganizationMapper.toOrm org)).run w).2 :=
    Program.Leaves.part_bind (f := id) (fun _ => .lift _) w
  rw [hstore]
  exact consistent_saveOrm hw savedAt org

/-- Behind the guard, `save` is `provision`. -/
theorem consistent_saveOrganization (hw : w.Consistent) (ctx : Option String) (savedAt : Js.Date)
    (org : OrganizationAggregate) :
    ((OrganizationRepository.save ctx savedAt org).run w).2.Consistent := by
  by_cases hctx : Js.truthy ctx = some org.organizationId
  · have hguard : (TenantAwareRepository.guardTenantRoot OrganizationRepository.name ctx
        org.organizationId).run w = (.ok (), w.noting ctx) :=
      TenantAwareRepository.guardTenant_run _ w hctx
    rw [OrganizationRepository.save, Program.bind_run_ok hguard]
    exact consistent_provision (consistent_noting hw ctx) savedAt org
  · have hguard : ∃ e, (TenantAwareRepository.guardTenantRoot OrganizationRepository.name ctx
        org.organizationId).run w = (.error e, w.noting ctx) :=
      TenantAwareRepository.guardTenant_run_error _ w hctx
    obtain ⟨e, hrejected⟩ := hguard
    rw [OrganizationRepository.save, Program.bind_run_error hrejected]
    exact consistent_noting hw ctx

/-- Saving a user leaves a consistent database, or rejects. -/
theorem consistent_saveUser (hw : w.Consistent) (savedAt : Js.Date) (user : UserAggregate) :
    ((UserRepository.save savedAt user).run w).2.Consistent := by
  rcases UserRepository.save_cases savedAt user w with ⟨e, hrun⟩ | ⟨row, hrun, hwrites⟩
  · rw [hrun]
    exact hw
  · rw [hrun]
    exact UserRepository.consistent_put hw hwrites

/-- Whatever is saved, the database stays consistent. -/
theorem consistent_run (hw : w.Consistent) (save : Save) : (save.run w).2.Consistent := by
  have hanswer : ∀ {α : Type} (m : App α), ((m >>= fun _ => pure ()).run w).2 = (m.run w).2 :=
    fun m => Program.Leaves.part_bind (f := id) (fun _ => .pure ()) w
  cases save with
  | organization ctx savedAt org =>
      rw [Save.run, Save.execute, hanswer]
      exact consistent_saveOrganization hw ctx savedAt org
  | provision savedAt org =>
      rw [Save.run, Save.execute, hanswer]
      exact consistent_provision hw savedAt org
  | user savedAt account =>
      rw [Save.run, Save.execute, hanswer]
      exact consistent_saveUser hw savedAt account

/-- **What the aggregates are stored in is consistent.** -/
theorem consistent_afterSaves (w : World) (saves : List Save) :
    (afterSaves w saves).Consistent := by
  have hempty : World.Consistent { w with users := .empty, organizations := .empty } :=
    ⟨by simp, by simp, by simp, by simp⟩
  rw [afterSaves]
  exact final_keeps (I := World.Consistent) (fun w save hw => consistent_run hw save) saves hempty

end Consistency

/-! ## Lookups -/

section Lookups

variable {ρ α : Type} (rows : World → List ρ) (column : ρ → String)

/-- A row has the key. -/
def Stored (w : World) (key : String) : Prop := ∃ row ∈ rows w, column row = key

/-- What the server does not take as a text is no key. -/
theorem not_stored (w : World) {key : String} (hkey : Pg.text key = none)
    (htext : ∀ row ∈ rows w, Pg.text (column row) = some (column row)) :
    ¬ Stored rows column w key := by
  rintro ⟨row, hrow, rfl⟩
  rw [htext row hrow] at hkey
  cases hkey

/-- The two shapes of a lookup: whether there is a row, and what is built from it. -/
theorem exists_iff (w : World) (key : String)
    (htext : ∀ row ∈ rows w, Pg.text (column row) = some (column row)) :
    ((do
      let key ← written (Pg.text key)
      .gets fun w => (rows w).any fun row => column row = key : App Bool).run w).1 = .ok true ↔
      Stored rows column w key := by
  have hparameter := written_run (Pg.text key) w
  cases hkey : Pg.text key with
  | none =>
      rw [hkey] at hparameter
      rw [Program.bind_run_error hparameter]
      constructor
      · intro h
        cases h
      · intro hstored
        exact absurd hstored (not_stored rows column w hkey htext)
  | some t =>
      obtain rfl := Pg.text_eq hkey
      rw [hkey] at hparameter
      rw [Program.bind_run_ok hparameter, Program.gets_run]
      simp [Stored]

theorem find_iff (w : World) (key : String) (toDomain : ρ → Except Exception α)
    (htext : ∀ row ∈ rows w, Pg.text (column row) = some (column row))
    (hdomain : ∀ row ∈ rows w, ∃ a, toDomain row = .ok a) :
    (∃ a, ((do
      let key ← written (Pg.text key)
      let orm ← .gets fun w => (rows w).find? fun row => column row = key
      foundAs toDomain orm : App (Option α)).run w).1 = .ok (some a)) ↔
      Stored rows column w key := by
  let find : String → World → Option ρ := fun key w => (rows w).find? fun row => column row = key
  constructor
  · rintro ⟨a, h⟩
    rcases textLookup_cases toDomain key find w with
      ⟨e, hrun⟩ | ⟨hrun, -⟩ | ⟨row, b, -, hfind, -⟩
    · rw [hrun] at h
      cases h
    · rw [hrun] at h
      cases h
    · have hcolumn := List.find?_some hfind
      exact ⟨row, List.mem_of_find?_eq_some hfind, by simpa using hcolumn⟩
  · rintro ⟨row, hrow, rfl⟩
    obtain ⟨found, hfind⟩ : ∃ found, find (column row) w = some found := by
      rw [← Option.isSome_iff_exists, List.find?_isSome]
      exact ⟨row, hrow, by simp⟩
    obtain ⟨a, ha⟩ := hdomain found (List.mem_of_find?_eq_some hfind)
    exact ⟨a, congrArg Prod.fst (textLookup_run (htext row hrow) hfind ha)⟩

/-- Where the stored keys are in normal form, looking for a key whose normal form is
`normal` agrees with looking for `normal` exactly when the two are the same or
`normal` is not stored. -/
theorem agrees_iff {stored : String → Prop} {normalize : String → Option String}
    (hstored : ∀ key, stored key → normalize key = some key) {key normal : String}
    (hkey : normalize key = some normal) :
    (stored key ↔ stored normal) ↔ (key = normal ∨ ¬ stored normal) := by
  constructor
  · intro h
    by_cases hnormal : stored normal
    · have hfixed := hstored key (h.mpr hnormal)
      rw [hkey] at hfixed
      exact .inl (Option.some.inj hfixed).symm
    · exact .inr hnormal
  · rintro (rfl | hnone)
    · exact Iff.rfl
    · refine ⟨fun hfound => absurd ?_ hnone, fun hnormal => absurd hnormal hnone⟩
      have hfixed := hstored key hfound
      rw [hkey] at hfixed
      rw [Option.some.inj hfixed]
      exact hfound

end Lookups

/-- An organization with the slug, a user with the address. -/
abbrev SlugStored : World → String → Prop :=
  Stored (fun w => w.organizations.rows) OrganizationOrmEntity.slug

abbrev EmailStored : World → String → Prop :=
  Stored (fun w => w.users.rows) UserOrmEntity.email

/-- Both lookups of a slug find an organization exactly when the normal form is
stored. -/
structure SlugLookupsAgree (w : World) (s : String) (slug : TenantSlug) : Prop where
  existsBySlug : ((OrganizationRepository.existsBySlug s).run w).1 = .ok true ↔
    SlugStored w slug.value
  findBySlug : (∃ org, ((OrganizationRepository.findBySlug s).run w).1 = .ok (some org)) ↔
    SlugStored w slug.value

structure EmailLookupsAgree (w : World) (s : String) (email : Email) : Prop where
  existsByEmail : ((UserRepository.existsByEmail s).run w).1 = .ok true ↔
    EmailStored w email.value
  findByEmail : (∃ user, ((UserRepository.findByEmail s).run w).1 = .ok (some user)) ↔
    EmailStored w email.value

section Agreement

variable {w : World}

/-- `existsBySlug` looks for the slug as it is given. -/
theorem existsBySlug_iff (hw : w.Consistent) (s : String) :
    ((OrganizationRepository.existsBySlug s).run w).1 = .ok true ↔ SlugStored w s := by
  have htext : ∀ row ∈ w.organizations.rows, Pg.text row.slug = some row.slug :=
    fun row hrow => Pg.text_varchar (hw.organizations row hrow).columns.slug
  rw [OrganizationRepository.existsBySlug]
  exact exists_iff (fun w => w.organizations.rows) OrganizationOrmEntity.slug w s htext

/-- `findBySlug` looks for the slug as it is given. -/
theorem findBySlug_iff (hw : w.Consistent) (s : String) :
    (∃ org, ((OrganizationRepository.findBySlug s).run w).1 = .ok (some org)) ↔ SlugStored w s := by
  have htext : ∀ row ∈ w.organizations.rows, Pg.text row.slug = some row.slug :=
    fun row hrow => Pg.text_varchar (hw.organizations row hrow).columns.slug
  have hdomain : ∀ row ∈ w.organizations.rows, ∃ org, OrganizationMapper.toDomain row = .ok org :=
    fun row hrow => OrganizationRepository.toDomain_of_regular (hw.organizations row hrow)
  rw [OrganizationRepository.findBySlug]
  exact find_iff (fun w => w.organizations.rows) OrganizationOrmEntity.slug w s
    OrganizationMapper.toDomain htext hdomain

/-- `existsByEmail` looks for the address in lower case. -/
theorem existsByEmail_iff (hw : w.Consistent) (s : String) :
    ((UserRepository.existsByEmail s).run w).1 = .ok true ↔ EmailStored w (Js.toLowerCase s) := by
  have htext : ∀ row ∈ w.users.rows, Pg.text row.email = some row.email :=
    fun row hrow => Pg.text_varchar (hw.users row hrow).columns.email
  rw [UserRepository.existsByEmail]
  exact exists_iff (fun w => w.users.rows) UserOrmEntity.email w (Js.toLowerCase s) htext

/-- `findByEmail` looks for the address in lower case. -/
theorem findByEmail_iff (hw : w.Consistent) (s : String) :
    (∃ user, ((UserRepository.findByEmail s).run w).1 = .ok (some user)) ↔
      EmailStored w (Js.toLowerCase s) := by
  have htext : ∀ row ∈ w.users.rows, Pg.text row.email = some row.email :=
    fun row hrow => Pg.text_varchar (hw.users row hrow).columns.email
  have hdomain : ∀ row ∈ w.users.rows, ∃ user, UserRepository.toDomain row = .ok user :=
    fun row hrow => UserRepository.toDomain_of_regular (hw.users row hrow)
  rw [UserRepository.findByEmail]
  exact find_iff (fun w => w.users.rows) UserOrmEntity.email w (Js.toLowerCase s)
    UserRepository.toDomain htext hdomain

/-- The look-ups by slug agree with the value object where the slug is normalized
already, or its normal form is not stored. -/
theorem slugLookupsAgree_iff (hw : w.Consistent) {s : String} {slug : TenantSlug}
    (hs : TenantSlug.create s = .ok slug) :
    SlugLookupsAgree w s slug ↔ (s = slug.value ∨ ¬ SlugStored w slug.value) := by
  have hnormal : ∀ key, SlugStored w key →
      (TenantSlug.create key).toOption.map TenantSlug.value = some key := by
    rintro key ⟨row, hrow, rfl⟩
    obtain ⟨stored, hstored⟩ := (hw.organizations row hrow).slug
    rw [hstored, stored.create_value]
    rfl
  have hkey : (TenantSlug.create s).toOption.map TenantSlug.value = some slug.value := by
    rw [hs]
    rfl
  rw [← agrees_iff hnormal hkey]
  constructor
  · intro h
    rw [← existsBySlug_iff hw s]
    exact h.existsBySlug
  · intro h
    constructor
    · rw [existsBySlug_iff hw s]
      exact h
    · rw [findBySlug_iff hw s]
      exact h

/-- The look-ups by address agree with the value object where there is nothing to
trim, or the normal form is not stored. -/
theorem emailLookupsAgree_iff (hw : w.Consistent) {s : String} {email : Email}
    (hs : Email.create s = .ok email) :
    EmailLookupsAgree w s email ↔
      (Js.toLowerCase s = email.value ∨ ¬ EmailStored w email.value) := by
  have hnormal : ∀ key, EmailStored w key →
      (Email.create key).toOption.map Email.value = some key := by
    rintro key ⟨row, hrow, rfl⟩
    obtain ⟨stored, hstored⟩ := (hw.users row hrow).address
    rw [hstored, stored.create_value]
    rfl
  have hkey : (Email.create (Js.toLowerCase s)).toOption.map Email.value = some email.value := by
    rw [Email.create_toLowerCase, hs]
    rfl
  rw [← agrees_iff hnormal hkey]
  constructor
  · intro h
    rw [← existsByEmail_iff hw s]
    exact h.existsByEmail
  · intro h
    constructor
    · rw [existsByEmail_iff hw s]
      exact h
    · rw [findByEmail_iff hw s]
      exact h

end Agreement

/-- Whatever normal forms a text has, the lookups of the text agree with them. -/
structure LookupsAgree (w : World) (s : String) : Prop where
  slug : ∀ slug, TenantSlug.create s = .ok slug → SlugLookupsAgree w s slug
  email : ∀ email, Email.create s = .ok email → EmailLookupsAgree w s email

/-- **The lookups agree with the normal forms** exactly for a text that is its
own normal form, lower case apart for an address, and where the normal form is
not stored. -/
theorem lookups_agree_iff (w : World) (saves : List Save) (s : String) :
    LookupsAgree (afterSaves w saves) s ↔
      (∀ slug, TenantSlug.create s = .ok slug →
        s = slug.value ∨ ¬ SlugStored (afterSaves w saves) slug.value) ∧
      (∀ email, Email.create s = .ok email →
        Js.toLowerCase s = email.value ∨ ¬ EmailStored (afterSaves w saves) email.value) := by
  have hw := consistent_afterSaves w saves
  constructor
  · intro h
    exact ⟨fun slug hs => (slugLookupsAgree_iff hw hs).mp (h.slug slug hs),
      fun email hs => (emailLookupsAgree_iff hw hs).mp (h.email email hs)⟩
  · rintro ⟨hslug, hemail⟩
    exact ⟨fun slug hs => (slugLookupsAgree_iff hw hs).mpr (hslug slug hs),
      fun email hs => (emailLookupsAgree_iff hw hs).mpr (hemail email hs)⟩

/-- A user, and the organization `acme` that the user owns. -/
def sampleSaves : List Save :=
  [.user 1716500000000
    { userId := Pg.uuidOf 2, email := ⟨"owner@acme.test", by decide, by decide, by decide⟩
      passwordHash := ⟨"$2b$12$abcdefghijklmnopqrstuv"⟩, displayName := "Owner"
      status := .active, lastLoginAt := none, emailVerifiedAt := none },
    .provision 1716500000000
    { organizationId := Pg.uuidOf 1, name := "Acme", slug := ⟨"acme", by decide⟩
      plan := .forTier .FREE, status := .PROVISIONING, ownerId := Pg.uuidOf 2
      provisionedAt := none, settings := OrganizationAggregate.defaultSettings
      createdAt := 1716500000000, updatedAt := 1716500000000 }]

/-- The slug `acme` is stored, and is not found as `ACME`. -/
theorem capitals_not_found :
    ¬ ∀ (w : World) (saves : List Save) (s : String), LookupsAgree (afterSaves w saves) s := by
  intro hclaim
  have hagree := (hclaim emptyWorld sampleSaves "ACME").slug ⟨"acme", by decide⟩ (by decide +kernel)
  have hstored : SlugStored (afterSaves emptyWorld sampleSaves) "acme" := by
    rw [SlugStored, Stored]
    decide +kernel
  have hfound := hagree.existsBySlug.mpr hstored
  revert hfound
  decide +kernel

end Atlas
