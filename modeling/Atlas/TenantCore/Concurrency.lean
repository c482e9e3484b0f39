import Mathlib.Data.List.Permutation
import Atlas.Lib.Session
import Atlas.TenantCore.EventPublication

/-!
# Atlas.TenantCore.Concurrency

Updates and suspensions of one organization that run at the same time.

Each execution reads the row (`findById`), changes the aggregate it built, and
writes the whole row back (`save`).  Between the two, others may write: nothing
is locked and no version is compared.  Every interleaving is a run of
`StoreKit.Session`, whose cell is the row (`sim_step`), so the row at the end is
the one some of the executions leave when they run one after another; it is
the one they all leave if no write falls between the read and the write of
another.
-/

namespace Atlas

open StoreKit TenantAwareRepository

namespace OrganizationConcurrency

/-! ## Executions and their two steps -/

inductive Change where
  | update (command : UpdateOrganizationCommand)
  | suspend (command : SuspendOrganizationCommand)
deriving DecidableEq

def Change.organizationId : Change → String
  | .update command => command.organizationId
  | .suspend command => command.organizationId

def Change.apply (rt : Runtime) : Change → OrganizationAggregate →
    Except Exception OrganizationAggregate
  | .update command => command.apply rt
  | .suspend command => command.apply rt

structure Execution where
  ctx : Option String
  rt : Runtime
  change : Change
deriving DecidableEq

/-- The handler of the command. -/
def Execution.execute (e : Execution) : App (Result OrganizationDto) :=
  match e.change with
  | .update command => UpdateOrganizationHandler.execute e.ctx e.rt command
  | .suspend command => SuspendOrganizationHandler.execute recordingBus e.ctx e.rt command

/-- Up to the first store step, and the change to the aggregate it finds. -/
def Execution.find (e : Execution) : App (Option OrganizationAggregate) := do
  let organization ← OrganizationRepository.findById e.ctx e.change.organizationId
  match organization with
  | none => return none
  | some organization => do
      let organization ← .lift (e.change.apply e.rt organization)
      return some organization

/-- The second store step. -/
def Execution.save (e : Execution) (organization : OrganizationAggregate) :
    App OrganizationAggregate :=
  OrganizationRepository.save e.ctx e.rt.savedAt organization

/-- **The two steps are the handler**: where both succeed it returns what was
saved, and leaves the same state. -/
theorem execute_of_steps {e : Execution} {w w₁ w₂ : World} {org saved : OrganizationAggregate}
    (hfind : e.find.run w = (.ok (some org), w₁)) (hsave : (e.save org).run w₁ = (.ok saved, w₂)) :
    e.execute.run w = (.ok (.ok (OrganizationDto.fromAggregate saved)), w₂) := by
  obtain ⟨found, w₃, hfound, hrest⟩ := Program.bind_run_eq_ok hfind
  split at hrest
  · cases hrest
  · next org₀ =>
      obtain ⟨org', w₄, hlift, hpure⟩ := Program.bind_run_eq_ok hrest
      cases hpure
      unfold Execution.execute
      split
      · next command hchange =>
          rw [hchange] at hfound hlift
          exact (Program.bind_run_ok hfound).trans ((Program.bind_run_ok hlift).trans
            (Program.bind_run_ok hsave))
      · next command hchange =>
          rw [hchange] at hfound hlift
          have hpublish : (publishAll recordingBus TENANT_SUSPENDED saved.domainEvents).run w₂ =
              (.ok (), w₂) := by
            obtain ⟨-, table, -, -, hdomain⟩ := OrganizationRepository.save_ok hsave
            rw [OrganizationMapper.domainEvents_toDomain hdomain]
            rfl
          exact (Program.bind_run_ok hfound).trans ((Program.bind_run_ok hlift).trans
            ((Program.bind_run_ok hsave).trans (Program.bind_run_ok hpublish)))

/-! ## Interleavings -/

/-- An execution has not begun; it has the aggregate it will save; it is over,
with `Result.ok` or without. -/
inductive Phase where
  | idle
  | holding (organization : OrganizationAggregate)
  | over (ok : Bool)
deriving DecidableEq

/-- `returned` records the executions that returned `Result.ok`, in the order
of their saves. -/
structure System (ι : Type) where
  world : World
  phase : ι → Phase
  returned : List ι

def System.init {ι : Type} (w : World) : System ι := ⟨w, fun _ => .idle, []⟩

inductive Event (ι : Type) where
  | find (i : ι)
  | save (i : ι)
deriving DecidableEq

variable {ι : Type} [DecidableEq ι] (executions : ι → Execution)

def step (s : System ι) : Event ι → Option (System ι)
  | .find i => match s.phase i with
    | .idle => match (executions i).find.run s.world with
      | (.ok (some org), w) =>
          some { s with world := w, phase := Function.update s.phase i (.holding org) }
      | (_, w) => some { s with world := w, phase := Function.update s.phase i (.over false) }
    | _ => none
  | .save i => match s.phase i with
    | .holding org => match ((executions i).save org).run s.world with
      | (.ok _, w) => some { world := w, phase := Function.update s.phase i (.over true),
                             returned := s.returned ++ [i] }
      | (.error _, w) => some { s with world := w, phase := Function.update s.phase i (.over false) }
    | _ => none

/-- The states an interleaving leads to. -/
abbrev run (w : World) (events : List (Event ι)) : Option (System ι) :=
  exec (step executions) (System.init w) events

/-- The executions one after another, each of which has to return `Result.ok`. -/
def runSerially : World → List ι → Option World
  | w, [] => some w
  | w, i :: is => match (executions i).execute.run w with
    | (.ok (.ok _), w') => runSerially w' is
    | _ => none

/-- No other execution is between its two steps when one saves. -/
def Undisturbed (s : System ι) : Event ι → Prop
  | .find _ => True
  | .save i => ∀ j org, s.phase j = .holding org → j = i

/-! ## The row the steps compute -/

/- What an execution does to the world is a function of one row: it holds what it read,
changed, and `write` is what becomes of it.  So the interleavings are those of sessions on
a single cell. -/

/-- The aggregate the first step ends with, on this row. -/
def Execution.hold (e : Execution) (row : OrganizationOrmEntity) : Option OrganizationAggregate :=
  if Js.truthy e.ctx = some e.change.organizationId then
    match OrganizationMapper.toDomain row with
    | .ok org =>
      match e.change.apply e.rt org with
      | .ok org' => some org'
      | .error _ => none
    | .error _ => none
  else none

/-- The row the second step writes, under the constraints of `w`. -/
def Execution.write (w : World) (e : Execution) (org : OrganizationAggregate) :
    Option OrganizationOrmEntity :=
  if Js.truthy e.ctx = some org.organizationId then
    match { OrganizationMapper.toOrm org with updatedAt := e.rt.savedAt }.stored with
    | some row => if OrganizationRepository.allowed w row then some row else none
    | none => none
  else none

/-- What an execution makes of the row when nobody else writes. -/
def rewrite (w : World) (i : ι) (row : OrganizationOrmEntity) : Option OrganizationOrmEntity :=
  ((executions i).hold row).bind ((executions i).write w)

theorem Change.apply_cases {change : Change} {rt : Runtime} {org org' : OrganizationAggregate}
    (h : change.apply rt org = .ok org') :
    org'.organizationId = org.organizationId ∧ org'.provisionedAt = org.provisionedAt := by
  cases change with
  | update command =>
      obtain ⟨name, plan, updatedAt, rfl⟩ := UpdateOrganizationCommand.apply_cases h
      exact ⟨rfl, rfl⟩
  | suspend command =>
      obtain ⟨-, event, rfl⟩ := OrganizationAggregate.suspend_cases h
      exact ⟨rfl, rfl⟩

theorem Execution.hold_cases {e : Execution} {row : OrganizationOrmEntity}
    {org : OrganizationAggregate} (h : e.hold row = some org) :
    Js.truthy e.ctx = some e.change.organizationId ∧
      ∃ read, OrganizationMapper.toDomain row = .ok read ∧ e.change.apply e.rt read = .ok org := by
  unfold Execution.hold at h
  split at h
  · next hctx =>
      split at h
      · next read hread =>
          split at h
          · next org' happly =>
              obtain rfl := Option.some.inj h
              exact ⟨hctx, read, hread, happly⟩
          · cases h
      · cases h
  · cases h

/-- The key and the provisioning date are those of the row that was read. -/
theorem Execution.hold_same {e : Execution} {row : OrganizationOrmEntity}
    {org : OrganizationAggregate} (h : e.hold row = some org) :
    org.organizationId = row.id ∧ org.provisionedAt = row.provisionedAt := by
  obtain ⟨-, read, hread, happly⟩ := Execution.hold_cases h
  obtain ⟨hid, hprovisioned⟩ := Change.apply_cases happly
  obtain ⟨-, hid', -, hprovisioned', -⟩ := OrganizationMapper.toDomain_cases hread
  exact ⟨hid.trans hid', hprovisioned.trans hprovisioned'⟩

theorem Execution.write_cases {w : World} {e : Execution} {org : OrganizationAggregate}
    {row : OrganizationOrmEntity} (h : e.write w org = some row) :
    Js.truthy e.ctx = some org.organizationId ∧
      { OrganizationMapper.toOrm org with updatedAt := e.rt.savedAt }.stored = some row ∧
      OrganizationRepository.allowed w row = true := by
  unfold Execution.write at h
  split at h
  · next hctx =>
      split at h
      · next stored hstored =>
          split at h
          · next hallowed =>
              obtain rfl := Option.some.inj h
              exact ⟨hctx, hstored, hallowed⟩
          · cases h
      · cases h
  · cases h

/-- The world as far as the executions see it: the users and the other
organizations are those of `w₀`, and the row under `key` is `row`. -/
structure Shows (w₀ : World) (key : String) (provisionedAt : Option Js.Date) (w : World)
    (row : OrganizationOrmEntity) : Prop where
  users : w.users = w₀.users
  others : ∀ r, r.id ≠ key → (r ∈ w.organizations.rows ↔ r ∈ w₀.organizations.rows)
  find : w.organizations.find? key = some row
  provisionedAt : row.provisionedAt = provisionedAt

section Store

variable {w₀ w : World} {key : String} {provisionedAt : Option Js.Date}
  {row : OrganizationOrmEntity} {e : Execution} {org : OrganizationAggregate}

theorem Shows.noting (h : Shows w₀ key provisionedAt w row) (tenant : Option String) :
    Shows w₀ key provisionedAt (w.noting tenant) row :=
  ⟨h.users, h.others, h.find, h.provisionedAt⟩

/-- The row is replaced. -/
theorem Shows.put {row' : OrganizationOrmEntity} (h : Shows w₀ key provisionedAt w row)
    (hid : row'.id = key) (hprovisioned : row'.provisionedAt = provisionedAt) :
    Shows w₀ key provisionedAt { w with organizations := w.organizations.put row' } row' := by
  refine ⟨h.users, fun r hr => ?_, ?_, hprovisioned⟩
  · show r ∈ (w.organizations.put row').rows ↔ _
    rw [Table.mem_put_iff, ← h.others r hr]
    constructor
    · rintro (rfl | ⟨hmem, -⟩)
      · exact absurd hid hr
      · exact hmem
    · exact fun hmem => .inr ⟨hmem, fun heq => hr (heq.trans hid)⟩
  · show (w.organizations.put row').find? key = some row'
    rw [← hid, Table.find?_put_self]

/-- The constraints are those of `w₀`. -/
theorem Shows.allowed (h : Shows w₀ key provisionedAt w row) {row' : OrganizationOrmEntity}
    (hid : row'.id = key) :
    OrganizationRepository.allowed w row' = OrganizationRepository.allowed w₀ row' := by
  have hslug : (w.organizations.rows.all fun r => r.id = row'.id || r.slug ≠ row'.slug) =
      w₀.organizations.rows.all fun r => r.id = row'.id || r.slug ≠ row'.slug := by
    rw [Bool.eq_iff_iff, List.all_eq_true, List.all_eq_true]
    constructor
    · intro hall r hr
      by_cases hkey : r.id = key
      · simp [hkey, hid]
      · exact hall r ((h.others r hkey).mpr hr)
    · intro hall r hr
      by_cases hkey : r.id = key
      · simp [hkey, hid]
      · exact hall r ((h.others r hkey).mp hr)
  rw [OrganizationRepository.allowed, OrganizationRepository.allowed, h.users, hslug]

/-- The first step holds an aggregate exactly when the row gives one, and
changes no table. -/
theorem find_run (hkey : Pg.uuid e.change.organizationId = some key)
    (h : Shows w₀ key provisionedAt w row) : ∃ r, e.find.run w = (r, w.noting e.ctx) ∧
      ∀ org, r = .ok (some org) ↔ e.hold row = some org := by
  by_cases hctx : Js.truthy e.ctx = some e.change.organizationId
  · have hfind := OrganizationRepository.findById_run hctx hkey h.find
    cases hread : OrganizationMapper.toDomain row with
    | error err =>
        rw [hread] at hfind
        refine ⟨.error err, Program.bind_run_error hfind, fun org => ?_⟩
        simp [Execution.hold, hread]
    | ok read =>
        rw [hread] at hfind
        cases happly : e.change.apply e.rt read with
        | error err =>
            have hlift : (Program.lift (e.change.apply e.rt read) : App _).run (w.noting e.ctx) =
                (.error err, w.noting e.ctx) := by
              rw [happly]
              rfl
            refine ⟨.error err, ?_, fun org => ?_⟩
            · refine (Program.bind_run_ok hfind).trans ?_
              exact Program.bind_run_error hlift
            · simp [Execution.hold, hread, happly]
        | ok org' =>
            have hlift : (Program.lift (e.change.apply e.rt read) : App _).run (w.noting e.ctx) =
                (.ok org', w.noting e.ctx) := by
              rw [happly]
              rfl
            refine ⟨.ok (some org'), ?_, fun org => ?_⟩
            · refine (Program.bind_run_ok hfind).trans ?_
              exact Program.bind_run_ok hlift
            · simp [Execution.hold, hctx, hread, happly]
  · obtain ⟨err, hfind⟩ := OrganizationRepository.findById_run_error w hctx
    refine ⟨.error err, Program.bind_run_error hfind, fun org => ?_⟩
    simp [Execution.hold, hctx]

/-- A written row keeps the key and the provisioning date. -/
theorem Execution.write_same (hkey : Pg.uuid key = some key) (hid : org.organizationId = key)
    {row' : OrganizationOrmEntity} (h : e.write w org = some row') :
    row'.id = key ∧ row'.provisionedAt = org.provisionedAt := by
  obtain ⟨-, hstored, -⟩ := Execution.write_cases h
  have hs := OrganizationOrmEntity.storedAs hstored
  have hsid : Pg.uuid org.organizationId = some row'.id := hs.id
  rw [hid, hkey] at hsid
  exact ⟨(Option.some.inj hsid).symm, hs.provisionedAt⟩

/-- What `saveRow` makes of the aggregate is the row of `write`. -/
theorem saveRow_eq (hkey : Pg.uuid key = some key) (h : Shows w₀ key provisionedAt w row)
    (hid : org.organizationId = key) (hprovisioned : org.provisionedAt = provisionedAt)
    (hctx : Js.truthy e.ctx = some org.organizationId) :
    Typeorm.saveRow OrganizationOrmEntity.stored OrganizationRepository.merge
      (OrganizationRepository.allowed w) w.organizations
      { OrganizationMapper.toOrm org with updatedAt := e.rt.savedAt } =
      (e.write w₀ org).map w.organizations.put := by
  unfold Execution.write
  rw [if_pos hctx]
  cases hstored : { OrganizationMapper.toOrm org with updatedAt := e.rt.savedAt }.stored with
  | none => simp [Typeorm.saveRow, hstored]
  | some row' =>
      have hs := OrganizationOrmEntity.storedAs hstored
      have hid' : row'.id = key := by
        have hsid : Pg.uuid org.organizationId = some row'.id := hs.id
        rw [hid, hkey] at hsid
        exact (Option.some.inj hsid).symm
      have hmerge : OrganizationRepository.merge row row' = row' := by
        have hsame : row'.provisionedAt.or row.provisionedAt = row'.provisionedAt := by
          have hp : row'.provisionedAt = org.provisionedAt := hs.provisionedAt
          rw [hp, hprovisioned, h.provisionedAt, Option.or_self]
        rw [OrganizationRepository.merge, hsame]
      have hfind : w.organizations.find? row'.id = some row := hid'.symm ▸ h.find
      rw [Typeorm.saveRow_of_stored hstored (hid'.trans hid.symm) hfind, hmerge, h.allowed hid']
      split
      · next hallowed => simp [hallowed]
      · next hallowed => simp [hallowed]

/-- The second step writes the row exactly when the columns and constraints
take it, and nothing else. -/
theorem save_run (hkey : Pg.uuid key = some key) (h : Shows w₀ key provisionedAt w row)
    (hid : org.organizationId = key) (hprovisioned : org.provisionedAt = provisionedAt) :
    match e.write w₀ org with
    | some row' => ∃ saved, (e.save org).run w =
        (.ok saved, { w.noting e.ctx with organizations := w.organizations.put row' })
    | none => ∃ err, (e.save org).run w = (.error err, w.noting e.ctx) := by
  by_cases hctx : Js.truthy e.ctx = some org.organizationId
  · have hguard : (guardTenantRoot OrganizationRepository.name e.ctx org.organizationId).run w =
        (.ok (), w.noting e.ctx) := guardTenant_run _ w hctx
    have hsave := OrganizationRepository.saveOrm_run e.rt.savedAt (OrganizationMapper.toOrm org)
      (w.noting e.ctx)
    have hrow := saveRow_eq hkey (h.noting e.ctx) hid hprovisioned hctx
    rw [hrow] at hsave
    cases hwrite : e.write w₀ org with
    | none =>
        rw [hwrite] at hsave
        refine ⟨.database, (Program.bind_run_ok hguard).trans ?_⟩
        exact Program.bind_run_error hsave
    | some row' =>
        rw [hwrite] at hsave
        obtain ⟨saved, hsaved, -⟩ := OrganizationMapper.toDomain_of_slug
          { OrganizationMapper.toOrm org with updatedAt := e.rt.savedAt } org.slug rfl
        refine ⟨saved, (Program.bind_run_ok hguard).trans ?_⟩
        refine (Program.bind_run_ok hsave).trans ?_
        rw [hsaved]
        rfl
  · have hguard : ∃ err, (guardTenantRoot OrganizationRepository.name e.ctx
        org.organizationId).run w = (.error err, w.noting e.ctx) := guardTenant_run_error _ w hctx
    obtain ⟨err, hrejected⟩ := hguard
    have hwrite : e.write w₀ org = none := by
      rw [Execution.write, if_neg hctx]
    rw [hwrite]
    exact ⟨err, Program.bind_run_error hrejected⟩

end Store

/-! ## Every interleaving is a run of sessions -/

/- `Sim` ties the system to sessions on one cell, as `Lib.Session` has them: an execution
that holds an aggregate is a session that holds the row it will write.  Each step is then
a read or a write of that session, or leaves the sessions as they are. -/

/-- The aggregate an execution holds stands for the row it will write.  One that
cannot be written is a session that is over. -/
inductive PhaseSim (w₀ : World) (key : String) (provisionedAt : Option Js.Date) (e : Execution) :
    Phase → Session.Phase ι OrganizationOrmEntity → Prop
  | idle : PhaseSim w₀ key provisionedAt e .idle .idle
  | savable {org row chain} (hid : org.organizationId = key)
      (hprovisioned : org.provisionedAt = provisionedAt) (hwrite : e.write w₀ org = some row) :
      PhaseSim w₀ key provisionedAt e (.holding org) (.holding row chain)
  | unsavable {org} (hid : org.organizationId = key)
      (hprovisioned : org.provisionedAt = provisionedAt) (hwrite : e.write w₀ org = none) :
      PhaseSim w₀ key provisionedAt e (.holding org) (.over false)
  | over {ok ok'} : PhaseSim w₀ key provisionedAt e (.over ok) (.over ok')

structure Sim (w₀ : World) (key : String) (provisionedAt : Option Js.Date) (s : System ι)
    (a : Session.State ι OrganizationOrmEntity) : Prop where
  shows : Shows w₀ key provisionedAt s.world a.cell
  returned : a.committed = s.returned
  phase : ∀ i, PhaseSim w₀ key provisionedAt (executions i) (s.phase i) (a.phase i)

section Runs

variable {executions} {w₀ : World} {key : String} {provisionedAt : Option Js.Date}

/-- One phase changes on both sides. -/
theorem PhaseSim.update {phase : ι → Phase} {phase' : ι → Session.Phase ι OrganizationOrmEntity}
    {p : Phase} {p' : Session.Phase ι OrganizationOrmEntity} (i : ι)
    (h : ∀ j, PhaseSim w₀ key provisionedAt (executions j) (phase j) (phase' j))
    (hi : PhaseSim w₀ key provisionedAt (executions i) p p') (j : ι) :
    PhaseSim w₀ key provisionedAt (executions j) (Function.update phase i p j)
      (Function.update phase' i p' j) := by
  by_cases hj : j = i
  · subst hj
    rw [Function.update_self, Function.update_self]
    exact hi
  · rw [Function.update_of_ne hj, Function.update_of_ne hj]
    exact h j

/-- An execution reads the row. -/
theorem sim_find (hkeys : ∀ i, Pg.uuid (executions i).change.organizationId = some key)
    {s s' : System ι} {a : Session.State ι OrganizationOrmEntity} {i : ι}
    (hsim : Sim executions w₀ key provisionedAt s a)
    (h : step executions s (.find i) = some s') :
    ∃ a', Session.step (rewrite executions w₀) a (.read i) = some a' ∧
      Sim executions w₀ key provisionedAt s' a' := by
  simp only [step] at h
  split at h
  · next hphase =>
      have hidle : a.phase i = .idle := by
        have hp := hsim.phase i
        rw [hphase] at hp
        generalize a.phase i = phase' at hp
        cases hp
        rfl
      obtain ⟨r, hrun, hr⟩ := find_run (hkeys i) hsim.shows
      rw [hrun] at h
      cases hhold : (executions i).hold a.cell with
      | none =>
          have hover : some s' = some { s with
              world := s.world.noting (executions i).ctx
              phase := Function.update s.phase i (.over false) } := by
            rw [← h]
            split
            · next org w hok =>
                have hsome := (hr org).mp (Prod.mk.inj hok).1
                rw [hhold] at hsome
                contradiction
            · next w _ hok => rw [(Prod.mk.inj hok).2]
          obtain rfl := Option.some.inj hover
          have hnone : rewrite executions w₀ i a.cell = none := by
            rw [rewrite, hhold]
            rfl
          refine ⟨{ a with phase := Function.update a.phase i (.over false) }, ?_, ?_⟩
          · simp only [Session.step, hidle, hnone]
          · exact ⟨hsim.shows.noting _, hsim.returned, PhaseSim.update i hsim.phase .over⟩
      | some org =>
          have hok : r = .ok (some org) := (hr org).mpr hhold
          rw [hok] at h
          obtain rfl := Option.some.inj h
          obtain ⟨hid, hprovisioned⟩ := Execution.hold_same hhold
          have hrow : a.cell.id = key := Table.key_of_find? hsim.shows.find
          have hid' : org.organizationId = key := hid.trans hrow
          have hp : org.provisionedAt = provisionedAt :=
            hprovisioned.trans hsim.shows.provisionedAt
          have hbody : rewrite executions w₀ i a.cell = (executions i).write w₀ org := by
            rw [rewrite, hhold]
            rfl
          cases hwrite : (executions i).write w₀ org with
          | none =>
              refine ⟨{ a with phase := Function.update a.phase i (.over false) }, ?_, ?_⟩
              · simp only [Session.step, hidle, hbody, hwrite]
              · exact ⟨hsim.shows.noting _, hsim.returned,
                  PhaseSim.update i hsim.phase (.unsavable hid' hp hwrite)⟩
          | some row =>
              refine ⟨{ a with phase := Function.update a.phase i (.holding row a.chain) }, ?_, ?_⟩
              · simp only [Session.step, hidle, hbody, hwrite]
              · exact ⟨hsim.shows.noting _, hsim.returned,
                  PhaseSim.update i hsim.phase (.savable hid' hp hwrite)⟩
  · contradiction

/-- An execution saves: a write, or nothing where the save is refused. -/
theorem sim_save (hkey : Pg.uuid key = some key) {s s' : System ι}
    {a : Session.State ι OrganizationOrmEntity} {i : ι}
    (hsim : Sim executions w₀ key provisionedAt s a)
    (h : step executions s (.save i) = some s') :
    Sim executions w₀ key provisionedAt s' a ∨
      ∃ a', Session.step (rewrite executions w₀) a (.write i) = some a' ∧
        Sim executions w₀ key provisionedAt s' a' := by
  simp only [step] at h
  split at h
  · next org hphase =>
      have hp := hsim.phase i
      rw [hphase] at hp
      generalize hphase' : a.phase i = phase' at hp
      cases hp with
      | @savable _ row chain hid hprovisioned hwrite =>
          have hsave := save_run (e := executions i) hkey hsim.shows hid hprovisioned
          rw [hwrite] at hsave
          obtain ⟨saved, hrun⟩ := hsave
          rw [hrun] at h
          obtain rfl := Option.some.inj h
          obtain ⟨hid', hp'⟩ := Execution.write_same hkey hid hwrite
          refine .inr ⟨{ cell := row, phase := Function.update a.phase i (.over true),
                         chain := chain ++ [i], committed := a.committed ++ [i] }, ?_, ?_⟩
          · simp only [Session.step, hphase']
          refine ⟨(hsim.shows.noting _).put hid' (hp'.trans hprovisioned), ?_, ?_⟩
          · show a.committed ++ [i] = s.returned ++ [i]
            rw [hsim.returned]
          · exact PhaseSim.update i hsim.phase .over
      | unsavable hid hprovisioned hwrite =>
          have hsave := save_run (e := executions i) hkey hsim.shows hid hprovisioned
          rw [hwrite] at hsave
          obtain ⟨err, hrun⟩ := hsave
          rw [hrun] at h
          obtain rfl := Option.some.inj h
          have hself : a.phase = Function.update a.phase i (.over false) := by
            rw [← hphase', Function.update_eq_self]
          refine .inl ⟨hsim.shows.noting _, hsim.returned, fun j => ?_⟩
          have hupdate := PhaseSim.update i hsim.phase
            (.over : PhaseSim w₀ key provisionedAt (executions i) (.over false) (.over false)) j
          rw [← hself] at hupdate
          exact hupdate
  · contradiction

/-- **One step**: a read, a write, or nothing. -/
theorem sim_step (hkeys : ∀ i, Pg.uuid (executions i).change.organizationId = some key)
    (hkey : Pg.uuid key = some key) (s : System ι) (event : Event ι) (s' : System ι)
    (a : Session.State ι OrganizationOrmEntity) (hsim : Sim executions w₀ key provisionedAt s a)
    (h : step executions s event = some s') :
    Sim executions w₀ key provisionedAt s' a ∨
      ∃ event' a', Session.step (rewrite executions w₀) a event' = some a' ∧
        Sim executions w₀ key provisionedAt s' a' ∧
        (Undisturbed s event → Session.NoOverlap a event') := by
  cases event with
  | find i =>
      obtain ⟨a', ha', hsim'⟩ := sim_find hkeys hsim h
      exact .inr ⟨.read i, a', ha', hsim', fun _ => trivial⟩
  | save i =>
      rcases sim_save hkey hsim h with hsim' | ⟨a', ha', hsim'⟩
      · exact .inl hsim'
      · refine .inr ⟨.write i, a', ha', hsim', fun hok j row chain hheld => ?_⟩
        -- what holds a row in the sessions holds an aggregate here
        have hp := hsim.phase j
        rw [hheld] at hp
        generalize hphase : s.phase j = phase at hp
        cases hp with
        | @savable org _ _ _ _ _ => exact hok j org hphase

/-- **Every run**, from a state that no execution has begun in. -/
theorem sim_run (hkeys : ∀ i, Pg.uuid (executions i).change.organizationId = some key)
    (hkey : Pg.uuid key = some key) {row : OrganizationOrmEntity} {events : List (Event ι)}
    {s : System ι} (hshows : Shows w₀ key provisionedAt w₀ row)
    (h : run executions w₀ events = some s) :
    ∃ events' a, exec (Session.step (rewrite executions w₀)) (.init row) events' = some a ∧
      Sim executions w₀ key provisionedAt s a ∧
      (Along (step executions) Undisturbed (System.init w₀) events →
        Along (Session.step (rewrite executions w₀)) Session.NoOverlap (.init row) events') := by
  have hinit : Sim executions w₀ key provisionedAt (System.init w₀) (.init row) :=
    ⟨hshows, rfl, fun _ => .idle⟩
  exact exec_simulates (sim_step hkeys hkey) hinit h

omit [DecidableEq ι] in
/-- What the sessions compute one after another the handlers leave when they run
one after another, each with `Result.ok`. -/
theorem serial_run (hkeys : ∀ i, Pg.uuid (executions i).change.organizationId = some key)
    (hkey : Pg.uuid key = some key) {is : List ι} {w : World} {row row' : OrganizationOrmEntity}
    (hshows : Shows w₀ key provisionedAt w row)
    (h : Session.serial (rewrite executions w₀) row is = some row') :
    ∃ w', runSerially executions w is = some w' ∧ w'.organizations.find? key = some row' := by
  induction is generalizing w row with
  | nil =>
      obtain rfl := Option.some.inj h
      exact ⟨w, rfl, hshows.find⟩
  | cons i is ih =>
      obtain ⟨row₁, hrewrite, hrest⟩ := Option.bind_eq_some_iff.mp h
      obtain ⟨org, hhold, hwrite⟩ := Option.bind_eq_some_iff.mp hrewrite
      obtain ⟨r, hfind, hr⟩ := find_run (hkeys i) hshows
      rw [(hr org).mpr hhold] at hfind
      obtain ⟨hid, hprovisioned⟩ := Execution.hold_same hhold
      have hid' : org.organizationId = key := hid.trans (Table.key_of_find? hshows.find)
      have hp : org.provisionedAt = provisionedAt := hprovisioned.trans hshows.provisionedAt
      have hsave := save_run (e := executions i) hkey (hshows.noting (executions i).ctx) hid' hp
      rw [hwrite] at hsave
      obtain ⟨saved, hsaved⟩ := hsave
      have hexecute := execute_of_steps hfind hsaved
      obtain ⟨hid₁, hp₁⟩ := Execution.write_same hkey hid' hwrite
      have hshows₁ := ((hshows.noting (executions i).ctx).noting (executions i).ctx).put hid₁
        (hp₁.trans hp)
      obtain ⟨w', hserial, hfinal⟩ := ih hshows₁ hrest
      refine ⟨w', ?_, hfinal⟩
      rw [runSerially, hexecute]
      exact hserial

/-! ## The status -/

def Change.suspends : Change → Bool
  | .update _ => false
  | .suspend _ => true

omit [DecidableEq ι] in
/-- A suspension writes `SUSPENDED`; an update writes the status it read. -/
theorem rewrite_status {i : ι} {row row' : OrganizationOrmEntity}
    (h : rewrite executions w₀ i row = some row') :
    row'.status = if (executions i).change.suspends then .SUSPENDED else row.status := by
  obtain ⟨org, hhold, hwrite⟩ := Option.bind_eq_some_iff.mp h
  obtain ⟨-, read, hread, happly⟩ := Execution.hold_cases hhold
  obtain ⟨-, -, hstatus, -⟩ := OrganizationMapper.toDomain_cases hread
  obtain ⟨-, hstored, -⟩ := Execution.write_cases hwrite
  have hwritten : row'.status = org.status := (OrganizationOrmEntity.storedAs hstored).status
  rw [hwritten]
  cases hchange : (executions i).change with
  | update command =>
      rw [hchange] at happly
      obtain ⟨name, plan, updatedAt, rfl⟩ := UpdateOrganizationCommand.apply_cases happly
      exact hstatus
  | suspend command =>
      rw [hchange] at happly
      obtain ⟨-, event, rfl⟩ := OrganizationAggregate.suspend_cases happly
      rfl

omit [DecidableEq ι] in
/-- Whatever runs after a suspension, the row stays suspended. -/
theorem serial_suspended {is : List ι} {i : ι} {row row' : OrganizationOrmEntity}
    (hmem : i ∈ is) (hsuspends : (executions i).change.suspends = true)
    (h : Session.serial (rewrite executions w₀) row is = some row') : row'.status = .SUSPENDED := by
  refine Session.serial_mem (P := fun row => row.status = .SUSPENDED) ?_ ?_ hmem h
  · intro j read written hbody hread
    rw [rewrite_status hbody, hread, ite_self]
  · intro read written hbody
    rw [rewrite_status hbody, if_pos hsuspends]

end Runs

/-! ## The result -/

/- `serial_chain` and `serial_committed` give the cell a run of sessions ends with.  What
is left is to read their sessions as executions again. -/

/-- **Concurrent updates**: the row is the one the executions of a `chain` leave
one after another, some of those that returned `ok`, the last of them included;
where no save falls between the two steps of another execution, they all leave
it in the order of their saves.  A suspension among them is final. -/
theorem concurrent_updates (executions : ι → Execution) (w₀ : World) (organizationId key : String)
    (row₀ : OrganizationOrmEntity) (events : List (Event ι)) (s : System ι)
    (hkey : Pg.uuid organizationId = some key) (hrow : w₀.organizations.find? key = some row₀)
    (hkeys : ∀ i, Pg.uuid (executions i).change.organizationId = some key)
    (h : run executions w₀ events = some s) :
    ∃ row, s.world.organizations.find? key = some row ∧
      (∃ chain w, chain.Sublist s.returned ∧ chain.getLast? = s.returned.getLast? ∧
        runSerially executions w₀ chain = some w ∧ w.organizations.find? key = some row ∧
        ∀ i ∈ chain, (executions i).change.suspends = true → row.status = .SUSPENDED) ∧
      (Along (step executions) Undisturbed (System.init w₀) events →
        (∃ w, runSerially executions w₀ s.returned = some w ∧
          w.organizations.find? key = some row) ∧
        ∀ i ∈ s.returned, (executions i).change.suspends = true → row.status = .SUSPENDED) := by
  have hnormal : Pg.uuid key = some key := Pg.uuid_uuid hkey
  have hshows : Shows w₀ key row₀.provisionedAt w₀ row₀ := ⟨rfl, fun _ _ => Iff.rfl, hrow, rfl⟩
  obtain ⟨events', a, hrun, hsim, hpermitted⟩ := sim_run hkeys hnormal hshows h
  obtain ⟨hsublist, hlast, hchain⟩ := Session.serial_chain hrun
  rw [hsim.returned] at hsublist hlast
  refine ⟨a.cell, hsim.shows.find, ?_, fun hundisturbed => ?_⟩
  · obtain ⟨w, hserial, hfinal⟩ := serial_run hkeys hnormal hshows hchain
    exact ⟨a.chain, w, hsublist, hlast, hserial, hfinal,
      fun i hmem hsuspends => serial_suspended hmem hsuspends hchain⟩
  · have hall := Session.serial_committed (hpermitted hundisturbed) hrun
    rw [hsim.returned] at hall
    obtain ⟨w, hserial, hfinal⟩ := serial_run hkeys hnormal hshows hall
    exact ⟨⟨w, hserial, hfinal⟩,
      fun i hmem hsuspends => serial_suspended hmem hsuspends hall⟩

/-- A new name (`false`) and a suspension (`true`) of one organization. -/
def renameAndSuspend : Bool → Execution
  | false => ⟨some (Pg.uuidOf 1), sampleRuntime,
      .update ⟨Pg.uuidOf 1, some "Acme Ltd", none, Pg.uuidOf 1, Pg.uuidOf 12, some (Pg.uuidOf 2)⟩⟩
  | true => ⟨some (Pg.uuidOf 1), sampleRuntime, .suspend sampleSuspension⟩

theorem renameAndSuspend_keys (i : Bool) :
    Pg.uuid (renameAndSuspend i).change.organizationId = some (Pg.uuidOf 1) := by
  cases i <;> decide +kernel

/-- The suspension saves last, over the new name. -/
theorem concurrent_updates_suspended :
    ∃ s row, run renameAndSuspend sampleWorld [.find false, .find true, .save false, .save true] =
        some s ∧
      s.world.organizations.find? (Pg.uuidOf 1) = some row ∧ row.status = .SUSPENDED := by
  have hreturned : (run renameAndSuspend sampleWorld
      [.find false, .find true, .save false, .save true]).map System.returned =
      some [false, true] := by
    decide +kernel
  obtain ⟨s, hrun, hs⟩ := Option.map_eq_some_iff.mp hreturned
  obtain ⟨row, hrow, ⟨chain, w, -, hlast, -, -, hsuspended⟩, -⟩ :=
    concurrent_updates renameAndSuspend sampleWorld (Pg.uuidOf 1) (Pg.uuidOf 1)
      sampleOrganization _ s (by decide +kernel) (by decide +kernel) renameAndSuspend_keys hrun
  rw [hs] at hlast
  have hmem : true ∈ chain := List.mem_of_getLast? hlast
  exact ⟨s, row, hrun, hrow, hsuspended true hmem rfl⟩

/-- The new name is saved over the suspension: the organization is active, and
in either order one after the other it would be suspended. -/
theorem rename_undoes_suspension :
    ¬ ∀ (executions : Bool → Execution) (w₀ : World) (organizationId key : String)
      (row₀ : OrganizationOrmEntity) (events : List (Event Bool)) (s : System Bool),
      Pg.uuid organizationId = some key → w₀.organizations.find? key = some row₀ →
      (∀ i, Pg.uuid (executions i).change.organizationId = some key) →
      run executions w₀ events = some s →
      ∃ order w row row', order.Perm s.returned ∧ runSerially executions w₀ order = some w ∧
        s.world.organizations.find? key = some row ∧ w.organizations.find? key = some row' ∧
        { row with updatedAt := row'.updatedAt } = row' := by
  intro hclaim
  have hrun : (run renameAndSuspend sampleWorld
      [.find false, .find true, .save true, .save false]).map
        (fun s => (s.returned, (s.world.organizations.find? (Pg.uuidOf 1)).map (·.status))) =
      some ([true, false], some .ACTIVE) := by
    decide +kernel
  have hserial : ∀ order ∈ [[true, false], [false, true]],
      (runSerially renameAndSuspend sampleWorld order).map
        (fun w => (w.organizations.find? (Pg.uuidOf 1)).map (·.status)) =
      some (some .SUSPENDED) := by
    decide +kernel
  obtain ⟨s, hs, hfinal⟩ := Option.map_eq_some_iff.mp hrun
  obtain ⟨hreturned, hactive⟩ := Prod.mk.inj hfinal
  obtain ⟨order, w, row, row', horder, hw, hrow, hrow', hsame⟩ :=
    hclaim renameAndSuspend sampleWorld (Pg.uuidOf 1) (Pg.uuidOf 1) sampleOrganization _ s
      (by decide +kernel) (by decide +kernel) renameAndSuspend_keys hs
  rw [hreturned] at horder
  have hsuspended := hserial order (by simpa using List.perm_pair.mp horder)
  rw [hw, Option.map_some, hrow'] at hsuspended
  rw [hrow] at hactive
  simp only [Option.map_some, Option.some.injEq] at hsuspended hactive
  rw [← hsame, hactive] at hsuspended
  cases hsuspended

end OrganizationConcurrency

end Atlas
