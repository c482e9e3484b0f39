import Atlas.Isolation.Noninterference
import Atlas.Lib.Purge
import Atlas.Requests.Soundness

/-!
# Atlas.Isolation.Interleaving

The operations of many tenants, step by step and in any order.

Between two awaits of one operation the others may move.  What a step leaves of
the database (`World.Confined`) is enough for every other operation to go on as
if it had not been taken (`World.Respects`), so a tenant may still think that
it is alone: without the steps of everybody else its operations end alike.
-/

namespace Atlas

open StoreKit StoreKit.Program TenantAwareRepository

/-! ## Step by step -/

namespace Operation

def publishSteps (op : Operation) (event : TenantAwareEvent) : Handler Unit :=
  .call (op.publish event)

def steps (inet : String → Option String) (op : Operation) : Handler Answer :=
  match op.call with
  | .triggerWorkflow command =>
      Answer.triggered <$> TriggerWorkflowHandler.steps op.publishSteps op.ctx op.rt command
  | .cancelWorkflowExecution command =>
      Answer.execution <$> CancelWorkflowExecutionHandler.steps op.ctx op.rt command
  | .getWorkflowExecution query =>
      Answer.execution <$> .call (GetWorkflowExecutionHandler.execute op.ctx op.rt query)
  | .listWorkflowExecutions ties query =>
      Answer.executions <$> .call (ListWorkflowExecutionsHandler.execute op.ctx ties op.rt query)
  | .updateOrganization command =>
      Answer.organization <$> UpdateOrganizationHandler.steps op.ctx op.rt command
  | .suspendOrganization command =>
      Answer.organization <$>
        SuspendOrganizationHandler.steps op.publishSteps op.ctx op.rt command
  | .recordAuditEvent command =>
      Answer.recorded <$> RecordAuditEventHandler.steps op.publishSteps inet op.ctx op.rt command
  | .queryAuditEvents ties filter options =>
      Answer.auditEvents <$> .call (AuditEventRepository.query op.ctx ties filter options)
  | .findAuditEvent id => Answer.auditEvent <$> .call (AuditEventRepository.findById op.ctx id)

/-- Without interruption the steps are the operation. -/
theorem run_steps (inet : String → Option String) (op : Operation) :
    (op.steps inet).run = op.execute inet := by
  have hpublish : (fun event => (op.publishSteps event).run) = op.publish :=
    funext fun event => Thread.run_call _
  have hmap : ∀ {α : Type} (f : α → Answer) {t : Handler α} {m : App α}, t.run = m →
      (f <$> t).run = f <$> m := by
    intro α f t m h
    rw [Thread.run_map, h]
  cases op with
  | mk ctx rt bus call =>
      cases call with
      | triggerWorkflow command =>
          exact hmap _ ((TriggerWorkflowHandler.run_steps ctx rt command).trans
            (by rw [hpublish]))
      | cancelWorkflowExecution command =>
          exact hmap _ (CancelWorkflowExecutionHandler.run_steps ctx rt command)
      | getWorkflowExecution query => exact hmap _ (Thread.run_call _)
      | listWorkflowExecutions ties query => exact hmap _ (Thread.run_call _)
      | updateOrganization command =>
          exact hmap _ (UpdateOrganizationHandler.run_steps ctx rt command)
      | suspendOrganization command =>
          exact hmap _ ((SuspendOrganizationHandler.run_steps ctx rt command).trans
            (by rw [hpublish]))
      | recordAuditEvent command =>
          exact hmap _ ((RecordAuditEventHandler.run_steps inet ctx rt command).trans
            (by rw [hpublish]))
      | queryAuditEvents ties filter options => exact hmap _ (Thread.run_call _)
      | findAuditEvent id => exact hmap _ (Thread.run_call _)

end Operation

/-! ## What a step leaves -/

/- A step by one tenant is compared with the same step in a run where the others do
nothing.  `Confined` is what the step of another tenant leaves alone, `Shows` what the two
runs have in common for the tenant. -/

/-- Whose execution is under which key. -/
def World.owners (w : World) : List (String × String) :=
  w.workflowExecutions.rows.map fun row => (row.id, row.tenantId)

/-- What a step of an operation leaves of the database: all that tenants share,
the rows of everybody but its tenant, and every key but its own as it was. -/
structure World.Confined (tenant g : Option String) (w w' : World) : Prop where
  users : w'.users = w.users
  definitions : w'.workflowDefinitions = w.workflowDefinitions
  slugs : w'.slugs = w.slugs
  owners : ∀ p ∈ w.owners, p ∈ w'.owners
  others : ∀ selects : String → Bool, (∀ u ∈ tenant, selects u = false) →
    w'.part selects = w.part selects
  keys : ∀ k ∈ w'.keys, k ∈ w.keys ∨ g = some k
  normal : w'.Normal

/-- What an operation whose key is `g` needs of the steps of the others. -/
structure World.Respects (g : Option String) (w w' : World) : Prop where
  slugs : w'.slugs = w.slugs
  owners : ∀ p ∈ w.owners, p ∈ w'.owners
  keys : ∀ k, g = some k → k ∉ w.keys → k ∉ w'.keys

/-- Who does nothing respects every key. -/
theorem World.Respects.refl (g : Option String) (w : World) : w.Respects g w :=
  ⟨rfl, fun _ h => h, fun _ _ h => h⟩

/-- Two steps that respect a key respect it together. -/
theorem World.Respects.trans {g : Option String} {u v w : World} (h : u.Respects g v)
    (h' : v.Respects g w) : u.Respects g w :=
  ⟨h'.slugs.trans h.slugs, fun p hp => h'.owners p (h.owners p hp),
    fun k hg hk => h'.keys k hg (h.keys k hg hk)⟩

/-- An operation with another key has what it needs. -/
theorem World.Confined.respects {tenant g g' : Option String} {w w' : World}
    (h : w.Confined tenant g w') (hapart : ∀ k ∈ g, g' ≠ some k) : w.Respects g' w' where
  slugs := h.slugs
  owners := h.owners
  keys k hg' hk hk' := by
    rcases h.keys k hk' with hold | hg
    · exact hk hold
    · exact hapart k hg hg'

/-- What is on record about tenants is confined to nobody. -/
theorem confined_noting {tenant g : Option String} {w : World} (hw : w.Normal)
    (noted : Option String) : w.Confined tenant g (w.noting noted) :=
  ⟨rfl, rfl, rfl, fun _ h => h, fun _ _ => rfl, fun _ h => .inl h, hw.slugs, hw.executions⟩

/-- A step that keeps what is not the tenant's is confined to the tenant. -/
theorem confined_of_kept {u : String} {g : Option String} {w w' : World} (h : Kept u g w w')
    (howners : ∀ p ∈ w.owners, p ∈ w'.owners) : w.Confined (some u) g w' :=
  ⟨h.users, h.definitions, h.slugs, howners, fun selects hselects => h.others selects
    (hselects u rfl), h.keys, h.normal⟩

/-- Two databases that look the same to a tenant, or to nobody. -/
structure World.Shows (tenant : Option String) (s t : World) : Prop where
  own : ∀ u ∈ tenant, s.own u = t.own u
  users : s.users = t.users
  definitions : s.workflowDefinitions = t.workflowDefinitions
  slugs : s.slugs = t.slugs
  normal : s.Normal ∧ t.Normal

/-- What shows the tenant's part shows its own. -/
theorem World.Shows.self {tenant tenant' : Option String} {s t : World} (h : s.Shows tenant t) :
    s.Shows tenant' s :=
  ⟨fun _ _ => rfl, rfl, rfl, rfl, h.normal.1, h.normal.1⟩

/-- Two states that show the same part of a tenant are alike to it. -/
theorem World.Shows.alike {u : String} {s t : World} (h : s.Shows (some u) t)
    (g : Option String) : Alike u g s t s t :=
  ⟨h.own u rfl, kept_refl u g h.normal.1, kept_refl u g h.normal.2⟩

/-- What is alike to a tenant goes on to show the same part. -/
theorem Alike.shows {u : String} {g : Option String} {s t s' t' : World}
    (h : Alike u g s t s' t') (hshows : s.Shows (some u) t) : s'.Shows (some u) t' where
  own u' hu' := by
    obtain rfl := Option.some.inj hu'
    exact h.own
  users := h.left.users.trans (hshows.users.trans h.right.users.symm)
  definitions := h.left.definitions.trans (hshows.definitions.trans h.right.definitions.symm)
  slugs := h.left.slugs.trans (hshows.slugs.trans h.right.slugs.symm)
  normal := ⟨h.left.normal, h.right.normal⟩

/-- Somebody else's step shows a tenant nothing new. -/
theorem World.Shows.confined {tenant g : Option String} {u : String} {s s' t : World}
    (h : s.Shows (some u) t) (hs : s.Confined tenant g s') (hother : tenant ≠ some u) :
    s'.Shows (some u) t where
  own u' hu' := by
    obtain rfl := Option.some.inj hu'
    refine (hs.others _ fun v hv => decide_eq_false ?_).trans (h.own u rfl)
    rintro rfl
    exact hother hv
  users := hs.users.trans h.users
  definitions := hs.definitions.trans h.definitions
  slugs := hs.slugs.trans h.slugs
  normal := ⟨hs.normal, h.normal.2⟩

/-! ## Rules -/

/- An assumption that a handler makes between two awaits has to be `Stable`: the others
keep it.  `isolated_await` is the one rule for a step; the rest specialises it. -/

/-- The steps of a handler under a tenant show only to the tenant, and show it
nothing of what the others do between them. -/
abbrev Isolated (tenant g : Option String) {α : Type} (x : Handler α) (s t : World) : Prop :=
  x.Twin (World.Shows tenant) (World.Respects g) (World.Confined tenant g) (fun _ _ _ => True) s t

/-- What the others do not change. -/
def Stable (g : Option String) (P : World → Prop) : Prop :=
  ∀ w w', w.Respects g w' → P w → P w'

section Rules

variable {u : String} {g : Option String} {α β : Type} {s t : World}

/-- **A step isolates** if it answers alike on two states that show the same,
leaves them so, and is confined to the tenant. -/
theorem isolated_await {m : App β} {next : β → Handler α} {P : World → Prop}
    {M : β → World → Prop} (hP : Stable g P) (hs : P s) (ht : P t)
    (hagree : ∀ s' t', s'.Shows (some u) t' → P s' → P t' →
      (m.run s').1 = (m.run t').1 ∧ Alike u g s' t' (m.run s').2 (m.run t').2)
    (howners : ∀ w, w.Normal → P w → ∀ p ∈ w.owners, p ∈ (m.run w).2.owners)
    (hnext : ∀ w b w', w.Normal → P w → m.run w = (.ok b, w') → M b w')
    (hf : ∀ b s' t', M b s' → M b t' → Isolated (some u) g (next b) s' t') :
    Isolated (some u) g (Thread.await m next) s t := by
  refine Thread.Twin.await fun s' t' hshows hrespects hrespects' => ?_
  have hs' := hP s s' hrespects hs
  have ht' := hP t t' hrespects' ht
  obtain ⟨hanswer, halike⟩ := hagree s' t' hshows hs' ht'
  have hafter := halike.shows hshows
  have hleft := confined_of_kept halike.left (howners s' hshows.normal.1 hs')
  have hright := confined_of_kept halike.right (howners t' hshows.normal.2 ht')
  cases hrun : m.run s' with
  | mk r x =>
      cases hrun' : m.run t' with
      | mk r' y =>
          rw [hrun, hrun'] at hanswer hafter
          rw [hrun] at hleft
          rw [hrun'] at hright
          obtain rfl : r = r' := hanswer
          cases r with
          | error e => exact .inl ⟨e, x, y, rfl, rfl, hafter, hleft, hright⟩
          | ok b =>
              exact .inr ⟨b, x, y, rfl, rfl, hafter, hleft, hright,
                hf b x y (hnext s' b x hshows.normal.1 hs' hrun)
                  (hnext t' b y hshows.normal.2 ht' hrun')⟩

/-- A program that leaves the tables as they are. -/
theorem isolated_tables {m : App β} {next : β → Handler α} {P : World → Prop}
    {M : β → World → Prop} (hm : Leaves World.tables m) (hP : Stable g P) (hs : P s) (ht : P t)
    (hagree : ∀ s₀ t₀, Agree (Alike u g s₀ t₀) m (fun _ => Alike u g s₀ t₀) (Alike u g s₀ t₀))
    (hnext : ∀ w b w', w.Normal → P w → w.SameTables w' → m.run w = (.ok b, w') → M b w')
    (hf : ∀ b s' t', M b s' → M b t' → Isolated (some u) g (next b) s' t') :
    Isolated (some u) g (Thread.await m next) s t := by
  have hsame := fun w => World.sameTables_of_tables (hm.part_eq w)
  refine isolated_await hP hs ht (fun s' t' hshows _ _ => (hagree s' t').stores (hshows.alike g))
    (fun w _ _ p hp => ?_) (fun w b w' hw hPw hrun => hnext w b w' hw hPw ?_ hrun) hf
  · rw [World.owners, (hsame w).workflowExecutions]
    exact hp
  · have hafter := hsame w
    rw [hrun] at hafter
    exact hafter

/-- A query isolates if it answers alike on two states that show the same. -/
theorem isolated_read {m : App β} {next : β → Handler α} {P : World → Prop}
    {M : β → World → Prop} (hm : Reads m) (hP : Stable g P) (hs : P s) (ht : P t)
    (hagree : ∀ s₀ t₀, Agree (Alike u g s₀ t₀) m (fun _ => Alike u g s₀ t₀) (Alike u g s₀ t₀))
    (hnext : ∀ w b w', w.Normal → P w → w.SameTables w' → m.run w = (.ok b, w') → M b w')
    (hf : ∀ b s' t', M b s' → M b t' → Isolated (some u) g (next b) s' t') :
    Isolated (some u) g (Thread.await m next) s t :=
  isolated_tables hm.tables hP hs ht hagree hnext hf

/-- An exception isolates. -/
theorem isolated_lift {x : Except Exception β} {f : β → Handler α}
    (hf : ∀ b, x = .ok b → Isolated (some u) g (f b) s t) :
    Isolated (some u) g (Thread.lift x >>= f) s t :=
  Thread.Twin.bind (Thread.Twin.lift hf)

/-- An answer isolates. -/
theorem isolated_pure (tenant g : Option String) (a : α) (s t : World) :
    Isolated tenant g (pure a) s t :=
  Thread.Twin.pure trivial

/-- A change of the answer isolates. -/
theorem isolated_map {tenant : Option String} {f : β → α} {x : Handler β}
    (h : Isolated tenant g x s t) : Isolated tenant g (f <$> x) s t :=
  Thread.Twin.map h

/-- A handler that does nothing but read. -/
theorem isolated_program {m : App α} (hm : Reads m)
    (hagree : ∀ s₀ t₀, Agree (Alike u g s₀ t₀) m (fun _ => Alike u g s₀ t₀)
      (Alike u g s₀ t₀)) : Isolated (some u) g (Thread.call m) s t :=
  isolated_read (P := fun _ => True) (M := fun _ _ => True) hm (fun _ _ _ h => h) trivial trivial
    hagree (fun _ _ _ _ _ _ _ => trivial) fun a _ _ _ _ => isolated_pure _ _ a _ _

/-- A handler whose first step asks for a tenant there is not. -/
theorem isolated_rejects {ctx : Option String} {m : App β} {next : β → Handler α}
    (h : Rejects ctx m) : Isolated none g (Thread.await m next) s t := by
  obtain ⟨e, hrun⟩ := h
  refine Thread.Twin.await fun s' t' hshows _ _ => ?_
  have hnoted : ∀ {w : World}, w.Normal → (w.noting ctx).Normal :=
    fun hw => ⟨hw.slugs, hw.executions⟩
  exact .inl ⟨e, _, _, hrun s', hrun t', ⟨by simp, hshows.users, hshows.definitions, hshows.slugs,
    hnoted hshows.normal.1, hnoted hshows.normal.2⟩, confined_noting hshows.normal.1 ctx,
    confined_noting hshows.normal.2 ctx⟩

end Rules

/-! ## The handlers -/

/- Two assumptions are enough for all handlers: that a generated key is in no table
(`NoKey`), and that what was found is still the tenant's (`Owns`, `HasSlug`). -/

section Handlers

variable {u : String} {g : Option String} {ctx : Option String} {s t : World}

/-- The key of an operation is in no table. -/
def NoKey (g : Option String) (w : World) : Prop := ∀ k, g = some k → k ∉ w.keys

/-- A fresh key stays fresh beside the other tenants. -/
theorem stable_noKey : Stable g (NoKey g) :=
  fun _ _ hrespects h k hk => hrespects.keys k hk (h k hk)

theorem World.SameTables.noKey {w w' : World} (h : w.SameTables w') (hw : NoKey g w) :
    NoKey g w' := by
  intro k hk
  rw [World.keys, h.workflowExecutions, h.auditEvents]
  exact hw k hk

/-- A fresh key is new to every table. -/
theorem newKey_of_noKey {key : String} {w : World} (hg : g = Pg.uuid key) (h : NoKey g w) :
    NewKey g key w :=
  fun k hk => ⟨hg.trans hk, h k (hg.trans hk)⟩

/-- Nobody owns a row under a key that is in no table. -/
theorem ownKey_of_noKey {key : String} {w : World} (hg : g = Pg.uuid key) (h : NoKey g w) :
    OwnKey u g w key w := by
  intro k hk
  refine ⟨.inr (hg.trans hk), fun old hold => absurd ?_ (h k (hg.trans hk))⟩
  rw [← Table.key_of_find? hold]
  exact List.mem_append_left _ (List.mem_map_of_mem (Table.mem_of_find? hold))

/-- The tenant owns the execution under a key. -/
def Owns (u key : String) (w : World) : Prop := (key, u) ∈ w.owners

/-- A row of the tenant stays the tenant's. -/
theorem stable_owns (key : String) : Stable g (Owns u key) :=
  fun _ _ hrespects h => hrespects.owners _ h

/-- The id of such a row is the tenant's own. -/
theorem ownKey_of_owns {key : String} {w : World} (hw : w.Normal) (h : Owns u key w) :
    OwnKey u g w key w := by
  obtain ⟨row, hrow, hpair⟩ := List.mem_map.mp h
  obtain ⟨rfl, rfl⟩ := Prod.mk.inj hpair
  intro k hk
  obtain rfl := Option.some.inj ((hw.executions row hrow).symm.trans hk)
  refine ⟨.inl (List.mem_append_left _ (List.mem_map_of_mem hrow)), fun old hold => ?_⟩
  rw [w.workflowExecutions.find?_key hrow] at hold
  rw [Option.some.inj hold]

/-- The organization of the tenant has a slug. -/
def HasSlug (u slug : String) (w : World) : Prop := (u, slug) ∈ w.slugs

/-- An organization keeps its slug beside the other tenants. -/
theorem stable_hasSlug (slug : String) : Stable g (HasSlug u slug) :=
  fun _ _ hrespects h => by
    rw [HasSlug, hrespects.slugs]
    exact h

/-- An aggregate with the stored slug is held in the table. -/
theorem held_of_hasSlug {org : OrganizationAggregate} {w : World}
    (h : HasSlug u org.slug.value w) : Held u org w := by
  obtain ⟨row, hrow, hpair⟩ := List.mem_map.mp h
  obtain ⟨rfl, hslug⟩ := Prod.mk.inj hpair
  exact ⟨row, w.organizations.find?_key hrow, hslug⟩

/-- An aggregate that is held has the stored slug. -/
theorem hasSlug_of_held {org : OrganizationAggregate} {w : World} (h : Held u org w) :
    HasSlug u org.slug.value w := by
  obtain ⟨row, hfind, hslug⟩ := h
  refine List.mem_map.mpr ⟨row, Table.mem_of_find? hfind, ?_⟩
  rw [hslug, Table.key_of_find? hfind]

/-! ### Writes -/

/-- An execution keeps its owner when the tenant writes it. -/
theorem owners_saveExecution (hu : tenantOf ctx = some u) {rt : Runtime}
    {execution : WorkflowExecutionEntity} {w : World}
    (hown : OwnKey u g w execution.executionId w) :
    ∀ p ∈ w.owners, p ∈ ((WorkflowExecutionRepository.save ctx rt execution).run w).2.owners := by
  intro p hp
  rcases WorkflowExecutionRepository.save_cases ctx rt execution w with
    ⟨e, hrun⟩ | ⟨createdAt, row, hrun, hctx, hid, htenant, -⟩
  · rw [hrun]
    exact hp
  · rw [hrun]
    obtain ⟨old, hold, rfl⟩ := List.mem_map.mp hp
    have howner : row.tenantId = u := tenant_unique hu hctx htenant
    by_cases hkey : old.id = row.id
    · have hfind := w.workflowExecutions.find?_key hold
      rw [hkey] at hfind
      refine List.mem_map.mpr
        ⟨row, (w.workflowExecutions.mem_put_iff row row).mpr (.inl rfl), ?_⟩
      rw [hkey, howner, (hown row.id hid).2 old hfind]
    · exact List.mem_map.mpr
        ⟨old, (w.workflowExecutions.mem_put_iff row old).mpr (.inr ⟨hold, hkey⟩), rfl⟩

/-- Saving an execution isolates, under an id that is the tenant's own. -/
theorem isolated_saveExecution {α : Type} (hu : tenantOf ctx = some u) (rt : Runtime)
    (execution : WorkflowExecutionEntity) {next : WorkflowExecutionEntity → Handler α}
    {P : World → Prop} (hP : Stable g P) (hs : P s) (ht : P t)
    (hown : ∀ w, w.Normal → P w → OwnKey u g w execution.executionId w)
    (hnext : ∀ saved s' t', Isolated (some u) g (next saved) s' t') :
    Isolated (some u) g (Thread.await (WorkflowExecutionRepository.save ctx rt execution) next)
      s t :=
  isolated_await (M := fun _ _ => True) hP hs ht
    (fun s' t' hshows hs' ht' => (saveExecution_agree hu hshows.definitions rt execution).stores
      ⟨hshows.alike g, hown s' hshows.normal.1 hs', hown t' hshows.normal.2 ht'⟩)
    (fun w hw hPw => owners_saveExecution hu (hown w hw hPw)) (fun _ _ _ _ _ _ => trivial)
    fun saved s' t' _ _ => hnext saved s' t'

/-- Writing an organization leaves the executions. -/
theorem owners_saveOrganization (ctx : Option String) (savedAt : Js.Date)
    (org : OrganizationAggregate) (w : World) :
    ((OrganizationRepository.save ctx savedAt org).run w).2.owners = w.owners := by
  rcases saveOrganization_run ctx savedAt org w with hnothing | ⟨table, -, hwritten⟩
  · rw [hnothing]
    rfl
  · rw [hwritten]
    rfl

/-- Saving the organization of the tenant isolates: its slug does not change. -/
theorem isolated_saveOrganization {α : Type} (hu : tenantOf ctx = some u) (savedAt : Js.Date)
    (org : OrganizationAggregate) {next : OrganizationAggregate → Handler α}
    (hs : HasSlug u org.slug.value s) (ht : HasSlug u org.slug.value t)
    (hnext : ∀ saved s' t', Isolated (some u) g (next saved) s' t') :
    Isolated (some u) g (Thread.await (OrganizationRepository.save ctx savedAt org) next) s t :=
  isolated_await (M := fun _ _ => True) (stable_hasSlug _) hs ht
    (fun _ _ hshows hs' ht' =>
      (saveOrganization_agree hu hshows.users hshows.slugs savedAt org).stores
        ⟨hshows.alike g, held_of_hasSlug hs', held_of_hasSlug ht'⟩)
    (fun w _ _ _ hp => owners_saveOrganization ctx savedAt org w ▸ hp) (fun _ _ _ _ _ _ => trivial)
    fun saved s' t' _ _ => hnext saved s' t'

/-- What is published is no matter of the tables. -/
theorem isolated_publish {α : Type} (op : Operation) (event : TenantAwareEvent)
    {next : Unit → Handler α} (hnext : ∀ s' t', Isolated (some u) g (next ()) s' t') :
    Isolated (some u) g (op.publishSteps event >>= next) s t := by
  have hpublish : Leaves World.tables (op.publish event) :=
    .bind (.modify fun _ => rfl) fun _ => .lift _
  rw [Operation.publishSteps, Thread.call_bind]
  exact isolated_tables (P := fun _ => True) (M := fun _ _ => True) hpublish (fun _ _ _ h => h)
    trivial trivial (fun _ _ => publish_agree op event) (fun _ _ _ _ _ _ _ => trivial)
    fun _ s' t' _ _ => hnext s' t'

/-- Any number of publishes isolates. -/
theorem isolated_publishAll {α : Type} (op : Operation) (eventType : String)
    (events : List DomainEvent) {next : Unit → Handler α}
    (hnext : ∀ s' t', Isolated (some u) g (next ()) s' t') :
    Isolated (some u) g (publishAllSteps op.publishSteps eventType events >>= next) s t := by
  have hall : ∀ s' t', Isolated (some u) g (publishAllSteps op.publishSteps eventType events)
      s' t' := by
    induction events with
    | nil => exact fun s' t' => isolated_pure _ _ () s' t'
    | cons event events ih => exact fun s' t' => isolated_publish op _ ih
  exact Thread.Twin.bind ((hall s t).weaken fun _ s' t' _ => hnext s' t')

/-! ### Workflows -/

/-- A trigger isolates, with a fresh id. -/
theorem isolated_trigger (hu : tenantOf ctx = some u) (op : Operation)
    (hg : g = Pg.uuid op.rt.generateId) (command : TriggerWorkflowCommand) (hs : NoKey g s)
    (ht : NoKey g t) :
    Isolated (some u) g (TriggerWorkflowHandler.steps op.publishSteps ctx op.rt command) s t := by
  unfold TriggerWorkflowHandler.steps
  rw [Thread.call_bind]
  refine isolated_read (M := fun _ w => NoKey g w)
    (reads_findDefinition ctx op.rt.loadedAt command.definitionId) stable_noKey hs ht
    (fun _ _ => findDefinition_agree steady_alike hu _ _) (fun w _ w' _ hw hsame _ =>
      hsame.noKey hw) fun definition s' t' hs' ht' => ?_
  cases definition with
  | none => exact isolated_pure _ _ _ _ _
  | some definition =>
      by_cases hactive : definition.isActive = true
      · simp only [hactive, not_true, if_false, Thread.call_bind]
        refine isolated_saveExecution hu op.rt _ stable_noKey hs' ht'
          (fun w _ hw => ownKey_of_noKey hg hw) fun saved s'' t'' => ?_
        exact isolated_publish op _ fun _ _ => isolated_pure _ _ _ _ _
      · simp only [hactive, Bool.false_eq_true, not_false_eq_true, if_true]
        exact isolated_pure _ _ _ _ _

/-- An execution that is found is the tenant's. -/
theorem owns_of_findById {loadedAt : Js.Date} {id : String} {w w' : World}
    {execution : WorkflowExecutionEntity} (hu : tenantOf ctx = some u)
    (h : (WorkflowExecutionRepository.findById ctx loadedAt id).run w =
      (.ok (some execution), w')) : Owns u execution.executionId w := by
  rcases WorkflowExecutionRepository.findById_cases ctx loadedAt id w with
    ⟨e, hrun⟩ | ⟨tenant, owner, k, hctx, howner, -, hrun⟩
  · rw [hrun] at h
    cases h
  · rw [hrun] at h
    obtain ⟨hfound, -⟩ := Prod.mk.inj h
    obtain ⟨row, hrow, rfl⟩ := Option.map_eq_some_iff.mp (Except.ok.inj hfound)
    obtain rfl := tenant_unique hu hctx howner
    have hselected := List.find?_some hrow
    simp only [Bool.and_eq_true, decide_eq_true_eq] at hselected
    refine List.mem_map.mpr ⟨row, List.mem_of_find?_eq_some hrow, ?_⟩
    rw [hselected.1]
    rfl

/-- A cancellation isolates: what it saves is what it found. -/
theorem isolated_cancel (hu : tenantOf ctx = some u) (rt : Runtime)
    (command : CancelWorkflowExecutionCommand) :
    Isolated (some u) g (CancelWorkflowExecutionHandler.steps ctx rt command) s t := by
  unfold CancelWorkflowExecutionHandler.steps
  rw [Thread.call_bind]
  refine isolated_read (P := fun _ => True)
    (M := fun found w => ∀ execution, found = some execution → Owns u execution.executionId w)
    (reads_findExecution ctx rt.loadedAt command.executionId) (fun _ _ _ h => h) trivial trivial
    (fun _ _ => .weaken (findExecution_agree hu _ _) (fun _ _ h => h) (fun _ _ _ h => h.1)
      fun _ _ h => h) (fun w found w' _ _ hsame hrun execution hfound => ?_)
    fun found s' t' hs' ht' => ?_
  · rw [hfound] at hrun
    have howns := owns_of_findById hu hrun
    rw [Owns, World.owners, hsame.workflowExecutions]
    exact howns
  · cases found with
    | none => exact isolated_pure _ _ _ _ _
    | some execution =>
        refine isolated_lift fun cancelled hcancel => ?_
        obtain ⟨-, hid, -⟩ := WorkflowExecutionEntity.cancel_cases hcancel
        rw [Thread.call_bind]
        refine isolated_saveExecution hu rt cancelled (stable_owns execution.executionId)
          (hs' _ rfl) (ht' _ rfl) (fun w hw howns => ?_) fun saved _ _ => isolated_pure _ _ _ _ _
        rw [hid]
        exact ownKey_of_owns hw howns

/-! ### Organizations -/

/-- An organization that is found is the tenant's. -/
theorem hasSlug_of_findById {id : String} {w w' : World} {org : OrganizationAggregate}
    (hu : tenantOf ctx = some u) (hw : w.Normal)
    (h : (OrganizationRepository.findById ctx id).run w = (.ok (some org), w')) :
    HasSlug u org.slug.value w := by
  obtain ⟨hctx, -, key, row, hkey, hfind, hdomain⟩ := OrganizationRepository.findById_ok h
  obtain rfl := tenant_unique hu hctx hkey
  exact hasSlug_of_held (held_of_toDomain (kept_refl _ none hw) hfind hdomain)

/-- An organization that a command has changed is saved, if the command leaves
its slug. -/
theorem isolated_change {α : Type} (hu : tenantOf ctx = some u) (savedAt : Js.Date) (id : String)
    (apply : OrganizationAggregate → Except Exception OrganizationAggregate)
    (happly : ∀ org org', apply org = .ok org' → org'.slug = org.slug) (missing : Handler α)
    (hmissing : ∀ s' t', Isolated (some u) g missing s' t')
    {next : OrganizationAggregate → Handler α}
    (hnext : ∀ saved s' t', Isolated (some u) g (next saved) s' t') :
    Isolated (some u) g (do
      let organization ← .call (OrganizationRepository.findById ctx id)
      match organization with
      | none => missing
      | some organization => do
          let organization ← .lift (apply organization)
          let saved ← .call (OrganizationRepository.save ctx savedAt organization)
          next saved) s t := by
  rw [Thread.call_bind]
  refine isolated_read (P := fun _ => True)
    (M := fun found w => ∀ org, found = some org → HasSlug u org.slug.value w)
    (reads_findOrganization ctx id) (fun _ _ _ h => h) trivial trivial
    (fun _ _ => .weaken (findOrganization_agree hu _) (fun _ _ h => h) (fun _ _ _ h => h.1)
      fun _ _ h => h) (fun w found w' hw _ hsame hrun org hfound => ?_)
    fun found s' t' hs' ht' => ?_
  · rw [hfound] at hrun
    have hslug := hasSlug_of_findById hu hw hrun
    rw [HasSlug, World.slugs, hsame.organizations]
    exact hslug
  · cases found with
    | none => exact hmissing s' t'
    | some org =>
        refine isolated_lift fun org' hok => ?_
        have hslug := happly org org' hok
        rw [Thread.call_bind]
        exact isolated_saveOrganization hu savedAt org' (hslug ▸ hs' org rfl)
          (hslug ▸ ht' org rfl) hnext

/-! ### The audit log -/

/-- An audit record isolates, with a fresh id. -/
theorem isolated_record (hu : tenantOf ctx = some u) (op : Operation)
    (hg : g = Pg.uuid op.rt.generateId) (inet : String → Option String)
    (command : RecordAuditEventCommand) (hs : NoKey g s) (ht : NoKey g t) :
    Isolated (some u) g (RecordAuditEventHandler.steps op.publishSteps inet ctx op.rt command)
      s t := by
  unfold RecordAuditEventHandler.steps
  rw [Thread.call_bind]
  refine isolated_await (M := fun _ _ => True) stable_noKey hs ht
    (fun _ _ hshows hs' ht' => (appendAuditEvent_agree hu inet _).stores
      ⟨hshows.alike g, newKey_of_noKey hg hs', newKey_of_noKey hg ht'⟩)
    (fun w _ _ _ hp => ?_) (fun _ _ _ _ _ _ => trivial) fun _ _ _ _ _ =>
      isolated_publish op _ fun _ _ => isolated_pure _ _ _ _ _
  rcases AuditEventRepository.append_cases inet ctx
    (AuditEventEntity.create op.rt.generateId op.rt.occurredAt command) w with
    ⟨e, hrun⟩ | ⟨row, table, hrun, -⟩
  · rw [hrun]
    exact hp
  · rw [hrun]
    exact hp

end Handlers

/-! ## Operations -/

/-- Without a tenant the first step is the last. -/
theorem isolated_nobody {g : Option String} (inet : String → Option String) {op : Operation}
    (h : Js.truthy op.ctx = none) (s t : World) : Isolated none g (op.steps inet) s t := by
  have hrequire := requireTenantId_rejects h
  cases op with
  | mk ctx rt bus call =>
      cases call with
      | triggerWorkflow command =>
          refine isolated_map ?_
          rw [TriggerWorkflowHandler.steps, Thread.call_bind]
          exact isolated_rejects (rejects_bind (rejects_bind (hrequire _)))
      | cancelWorkflowExecution command =>
          refine isolated_map ?_
          rw [CancelWorkflowExecutionHandler.steps, Thread.call_bind]
          exact isolated_rejects (rejects_bind (rejects_bind (hrequire _)))
      | getWorkflowExecution query =>
          exact isolated_map (isolated_rejects (rejects_bind (rejects_bind
            (rejects_bind (hrequire _)))))
      | listWorkflowExecutions ties query =>
          exact isolated_map (isolated_rejects (rejects_bind (rejects_bind (hrequire _))))
      | updateOrganization command =>
          refine isolated_map ?_
          rw [UpdateOrganizationHandler.steps, Thread.call_bind]
          exact isolated_rejects (rejects_bind (rejects_bind (hrequire _)))
      | suspendOrganization command =>
          refine isolated_map ?_
          rw [SuspendOrganizationHandler.steps, Thread.call_bind]
          exact isolated_rejects (rejects_bind (rejects_bind (hrequire _)))
      | recordAuditEvent command =>
          refine isolated_map ?_
          rw [RecordAuditEventHandler.steps, Thread.call_bind]
          exact isolated_rejects (rejects_bind (rejects_bind (hrequire _)))
      | queryAuditEvents ties filter options =>
          exact isolated_map (isolated_rejects (rejects_bind (hrequire _)))
      | findAuditEvent id =>
          exact isolated_map (isolated_rejects (rejects_bind (rejects_bind (hrequire _))))

/-- The operations of a tenant isolate. -/
theorem isolated_somebody {u : String} (inet : String → Option String) {op : Operation}
    (hu : tenantOf op.ctx = some u) {s t : World} (hs : NoKey op.key s) (ht : NoKey op.key t) :
    Isolated (some u) op.key (op.steps inet) s t := by
  cases op with
  | mk ctx rt bus call =>
      cases call with
      | triggerWorkflow command =>
          exact isolated_map (isolated_trigger hu _ rfl command hs ht)
      | cancelWorkflowExecution command => exact isolated_map (isolated_cancel hu rt command)
      | getWorkflowExecution query =>
          exact isolated_map (isolated_program (reads_getWorkflowExecution _ _ _)
            fun _ _ => get_agree hu rt query)
      | listWorkflowExecutions ties query =>
          exact isolated_map (isolated_program (reads_listWorkflowExecutions _ _ _ _)
            fun _ _ => list_agree hu ties rt query)
      | updateOrganization command =>
          refine isolated_map (isolated_change hu rt.savedAt command.organizationId
            (command.apply rt) (fun org org' hok => ?_) _ (fun _ _ => isolated_pure _ _ _ _ _)
            fun _ _ _ => isolated_pure _ _ _ _ _)
          obtain ⟨name, plan, updatedAt, rfl⟩ := UpdateOrganizationCommand.apply_cases hok
          rfl
      | suspendOrganization command =>
          refine isolated_map (isolated_change hu rt.savedAt command.organizationId
            (command.apply rt) (fun org org' hok => ?_) _ (fun _ _ => isolated_pure _ _ _ _ _)
            fun saved _ _ => isolated_publishAll _ _ _ fun _ _ => isolated_pure _ _ _ _ _)
          obtain ⟨-, event, rfl⟩ := OrganizationAggregate.suspend_cases hok
          rfl
      | recordAuditEvent command =>
          exact isolated_map (isolated_record hu _ rfl inet command hs ht)
      | queryAuditEvents ties filter options =>
          exact isolated_map (isolated_program
            (AuditEventRepository.leaves_query (fun _ _ => rfl) _ _ _ _)
            fun _ _ => queryAuditEvents_agree hu ties filter options)
      | findAuditEvent id =>
          exact isolated_map (isolated_program
            (AuditEventRepository.leaves_findById (fun _ _ => rfl) _ _)
            fun _ _ => findAuditEvent_agree hu id)

/-- **Every operation isolates**, with a fresh key of its own. -/
theorem isolated_steps (inet : String → Option String) (op : Operation) {s t : World}
    (hs : NoKey op.key s) (ht : NoKey op.key t) :
    Isolated (tenantOf op.ctx) op.key (op.steps inet) s t := by
  cases hu : tenantOf op.ctx with
  | some u => exact isolated_somebody inet hu hs ht
  | none => exact isolated_nobody inet (Option.map_eq_none_iff.mp hu) s t

/-! ## All of them -/

/- The step lemma of `isolated_steps` goes through a schedule by induction, with the keys
of the operations kept apart. -/

section All

variable {ι : Type}

/-- The operations, before any has taken a step. -/
def begun (inet : String → Option String) (ops : ι → Operation) (w : World) :
    Threads ι World Exception Answer where
  store := w
  thread i := (ops i).steps inet

/-- Generated ids are new to the database, and no two are the same. -/
structure EachFresh (ops : ι → Operation) (w : World) : Prop where
  new : ∀ i, ∀ k ∈ (ops i).key, k ∉ w.keys
  distinct : ∀ i j, i ≠ j → ∀ k ∈ (ops i).key, (ops j).key ≠ some k

variable [DecidableEq ι]

/-- **Noninterference in every interleaving**: a tenant whose operations take
the same steps without those of everybody else gets the same answers, and is
left with the same rows. -/
theorem interleaved_noninterference (inet : String → Option String) (tenant : String)
    {ops : ι → Operation} {w : World} (hnormal : w.Normal) (hfresh : EachFresh ops w)
    {schedule : List ι} {s : Threads ι World Exception Answer}
    (hrun : exec Threads.step (begun inet ops w) schedule = some s) :
    ∃ s', exec Threads.step (begun inet ops w)
        (schedule.filter fun i => (ops i).under tenant) = some s' ∧
      (∀ i, (ops i).under tenant = true → s'.thread i = s.thread i) ∧
      s'.store.own tenant = s.store.own tenant := by
  have hisolated : ∀ i, Isolated (tenantOf (ops i).ctx) (ops i).key ((ops i).steps inet) w w :=
    fun i => isolated_steps inet (ops i) (hfresh.new i) (hfresh.new i)
  have hstart : Threads.Purged (fun i => tenantOf (ops i).ctx) (some tenant) World.Shows
      (fun i => World.Respects (ops i).key)
      (fun i => World.Confined (tenantOf (ops i).ctx) (ops i).key) (begun inet ops w)
      (begun inet ops w) :=
    ⟨⟨fun _ _ => rfl, rfl, rfl, rfl, hnormal, hnormal⟩,
      fun i hi => ⟨rfl, hi ▸ hisolated i⟩, fun i _ => hisolated i⟩
  obtain ⟨s', hrun', hend⟩ := Threads.exec_purge (fun _ _ _ _ h => h.self)
    (fun _ => World.Respects.refl _) (fun _ _ _ _ h h' => h.trans h')
    (fun i j _ _ hij h => h.respects (hfresh.distinct i j hij))
    (fun _ _ _ _ hi h h' => h.confined h' hi) hstart hrun
  refine ⟨s', hrun', fun i hi => ?_, (hend.same.own tenant rfl).symm⟩
  exact (hend.mine i (of_decide_eq_true hi)).1

/-- The four operations of the two tenants, each on its own. -/
def sampleParties (i : Fin 4) : Operation := sampleOperations.get i

/-- Tenant 3 cancels and looks, and tenant 1 suspends and records between the
steps. -/
theorem interleaved_noninterference_sample : ∃ s s',
    exec Threads.step (begun (fun _ => none) sampleParties sampleWorkflows)
      [1, 0, 0, 1, 2, 3, 2] = some s ∧
    exec Threads.step (begun (fun _ => none) sampleParties sampleWorkflows) [1, 1, 3] = some s' ∧
      (s.thread 3).answer?.isSome = true ∧ s'.thread 3 = s.thread 3 := by
  have hshows : (exec Threads.step (begun (fun _ => none) sampleParties sampleWorkflows)
      [1, 0, 0, 1, 2, 3, 2]).any (fun s => (s.thread 3).answer?.isSome) = true := by
    decide +kernel
  obtain ⟨s, hrun, hanswered⟩ := (Option.any_eq_true _ _).mp hshows
  obtain ⟨s', hrun', hsame, -⟩ := interleaved_noninterference (fun _ => none) (Pg.uuidOf 3)
    sampleWorkflows_normal ⟨by decide +kernel, by decide +kernel⟩ hrun
  have hvisible : [1, 0, 0, 1, 2, 3, 2].filter
      (fun i => (sampleParties i).under (Pg.uuidOf 3)) = [1, 1, 3] := by
    decide +kernel
  exact ⟨s, s', hrun, hvisible ▸ hrun', hanswered, hsame 3 (by decide +kernel)⟩

end All

end Atlas
