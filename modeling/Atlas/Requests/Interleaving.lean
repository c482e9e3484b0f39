import Atlas.Requests.Serve

/-!
# Atlas.Requests.Interleaving

Any number of requests at once, in whatever order their steps come.

A `Job` is what the server has to do: a request to the API, a trigger, or an
event for the audit log.  `Requests` is a family of them on one database, each
with its own random id; a run is a list that says whose turn it is.  After any
run the database is intact, it is what the first one can turn into, and every
answer that was given holds of it.
-/

namespace Atlas

open StoreKit

/-! ## Jobs -/

/- Every job is a thread, so the results on threads apply: `sound` is the one fact about
all jobs, one case per job, and refers to the handlers by name. -/

inductive Job (Token : Type) where
  | serve (api : ApiServer Token) (request : ApiRequest)
  | trigger (bus : EventBus) (ctx : Option String) (rt : Runtime)
      (command : TriggerWorkflowCommand)
  | record (bus : EventBus) (inet : String → Option String) (ctx : Option String) (rt : Runtime)
      (command : RecordAuditEventCommand)

/-- What a job answers. -/
inductive JobAnswer (Token : Type) where
  | response (response : ApiResponse Token)
  | triggered (result : Result TriggerWorkflowResult)
  | recorded (auditEventId : Result String)

namespace Job

variable {Token : Type}

def rt : Job Token → Runtime
  | .serve api _ => api.rt
  | .trigger _ _ rt _ => rt
  | .record _ _ _ rt _ => rt

/-- The id of the row that the job may insert. -/
def generateId (job : Job Token) : String := job.rt.generateId

def steps : Job Token → Handler (JobAnswer Token)
  | .serve api request => JobAnswer.response <$> api.steps request
  | .trigger bus ctx rt command =>
      JobAnswer.triggered <$> TriggerWorkflowHandler.steps bus.steps ctx rt command
  | .record bus inet ctx rt command =>
      JobAnswer.recorded <$> RecordAuditEventHandler.steps bus.steps inet ctx rt command

/-- The job is to suspend the organization with a key. -/
def Suspends (job : Job Token) (key : String) : Prop :=
  match job with
  | .serve _ request => request.Suspends key
  | .trigger _ _ _ _ => False
  | .record _ _ _ _ _ => False

/-- What an answer says of the database, where that was `w₀` at first. -/
def Holds (w₀ : World) (job : Job Token) (answer : JobAnswer Token) (w : World) : Prop :=
  match job with
  | .serve api request => ∃ response, answer = .response response ∧
      api.Holds w₀ request response w
  | .trigger _ _ _ command => ∃ result, answer = .triggered result ∧
      IfOk (Triggered command) result w
  | .record _ inet _ rt command => ∃ result, answer = .recorded result ∧
      IfOk (Recorded inet rt command) result w

/-- Later requests take nothing back. -/
theorem Holds.evolves {moving : String → Prop} {w₀ w w' : World} {job : Job Token}
    {answer : JobAnswer Token} (h : job.Holds w₀ answer w) (hw : w.Evolves moving w') :
    job.Holds w₀ answer w' := by
  cases job with
  | serve api request =>
      obtain ⟨response, hanswer, hresponse⟩ := h
      exact ⟨response, hanswer, hresponse.evolves hw⟩
  | trigger bus ctx rt command =>
      obtain ⟨result, hanswer, hresult⟩ := h
      exact ⟨result, hanswer, hresult.mono fun _ h => h.evolves hw⟩
  | record bus inet ctx rt command =>
      obtain ⟨result, hanswer, hresult⟩ := h
      exact ⟨result, hanswer, hresult.mono fun _ h => h.evolves hw⟩

/-- **A job is sound** among others. -/
theorem sound {moving : String → Prop} {w₀ : World} (job : Job Token) (hw₀ : w₀.Intact)
    (hunused : w₀.Unused job.generateId) (hmoves : Moves job.Suspends moving w₀)
    (hmoving : ∀ org ∈ w₀.organizations.rows, moving org.id → org.status = .ACTIVE) :
    Sound moving job.generateId (job.Holds w₀) (fun _ _ => True) job.steps w₀ := by
  cases job with
  | serve api request =>
      exact Thread.Sound.map ((api.sound request hw₀ hunused hmoves hmoving).weaken
        (fun response _ h => ⟨response, rfl, h⟩) fun _ _ _ => trivial)
  | trigger bus ctx rt command =>
      exact Thread.Sound.map ((sound_trigger bus ctx rt command hunused).weaken
        (fun result _ h => ⟨result, rfl, h⟩) fun _ _ _ => trivial)
  | record bus inet ctx rt command =>
      exact Thread.Sound.map ((sound_record bus inet ctx rt _ command).weaken
        (fun result _ h => ⟨result, rfl, h⟩) fun _ _ _ => trivial)

end Job

/-! ## All of them -/

/- `exec_sound` turns the soundness of every job, taken alone, into a statement on the
database after any schedule and on the answers given in it. -/

section Requests

open AuthenticateHandler

variable {ι Token : Type}

/-- Jobs that may be started on a database: it is intact, and each of them has
a random id that is in no table and that no other has. -/
structure Ready (jobs : ι → Job Token) (w : World) : Prop where
  intact : w.Intact
  unused : ∀ i, w.Unused (jobs i).generateId
  apart : ∀ i j, i ≠ j → Apart (jobs i).generateId (jobs j).generateId

/-- The jobs, before any has taken a step. -/
def started (jobs : ι → Job Token) (w : World) : Threads ι World Exception (JobAnswer Token) where
  store := w
  thread i := (jobs i).steps

/-- The organizations that may change status: they are active, and a job is to
suspend them. -/
def Suspendable (jobs : ι → Job Token) (w : World) (key : String) : Prop :=
  (∃ i, (jobs i).Suspends key) ∧ ∃ org ∈ w.organizations.rows, org.id = key ∧ org.status = .ACTIVE

/-- Only an active organization is to be suspended. -/
theorem suspendable_active {jobs : ι → Job Token} {w : World} {org : OrganizationOrmEntity}
    (horg : org ∈ w.organizations.rows) (h : Suspendable jobs w org.id) : org.status = .ACTIVE := by
  obtain ⟨-, active, hactive, hid, hstatus⟩ := h
  rw [w.organizations.eq_of_key_eq hactive horg hid] at hstatus
  exact hstatus

/-- What a job is to suspend is suspendable. -/
theorem moves_suspendable (jobs : ι → Job Token) (w : World) (i : ι) :
    Moves (jobs i).Suspends (Suspendable jobs w) w := by
  intro w' org hevolves horg hsuspends hactive
  obtain ⟨first, hfirst, hbecomes⟩ := origin_organization hevolves horg hactive
  refine ⟨⟨i, hsuspends⟩, first, hfirst, hbecomes.id.symm, ?_⟩
  rcases hbecomes.status with hsame | ⟨hmoving, -, -⟩
  · exact hsame.symm.trans hactive
  · exact suspendable_active hfirst hmoving

variable [DecidableEq ι]

/-- What holds after any run of the jobs, where each of them is sound. -/
theorem run_sound {jobs : ι → Job Token} {w : World} (hready : Ready jobs w)
    {Q : ι → JobAnswer Token → World → Prop} {E : ι → Exception → World → Prop}
    (hQ : ∀ i a u v, Q i a u → u.Evolves (Suspendable jobs w) v → Q i a v)
    (hE : ∀ i e u v, E i e u → u.Evolves (Suspendable jobs w) v → E i e v)
    (hsound : ∀ i, Sound (Suspendable jobs w) (jobs i).generateId (Q i) (E i) (jobs i).steps w)
    {schedule : List ι} {s : Threads ι World Exception (JobAnswer Token)}
    (hrun : exec Threads.step (started jobs w) schedule = some s) :
    s.store.Intact ∧ w.Evolves (Suspendable jobs w) s.store ∧
      ∀ i, Sound (Suspendable jobs w) (jobs i).generateId (Q i) (E i) (s.thread i) s.store :=
  Threads.exec_sound (World.Evolves.refl _) (fun _ _ _ h h' => h.trans h')
    (fun _ => World.Spares.refl _ _) (fun _ _ _ _ h h' => h.trans h')
    (fun i j _ _ hij h => h.spares (hready.apart i j hij)) (fun _ _ _ h => h.evolves)
    (fun i a u v h hspares => hQ i a u v h hspares.evolves)
    (fun i e u v h hspares => hE i e u v h hspares.evolves) hready.intact hsound hrun

/-- What holds after any run: the database is intact, it has evolved, and the answers
hold. -/
theorem run_jobs {jobs : ι → Job Token} {w : World} (hready : Ready jobs w)
    {schedule : List ι} {s : Threads ι World Exception (JobAnswer Token)}
    (hrun : exec Threads.step (started jobs w) schedule = some s) :
    s.store.Intact ∧ w.Evolves (Suspendable jobs w) s.store ∧
      ∀ i answer, (s.thread i).answer? = some answer → (jobs i).Holds w answer s.store := by
  obtain ⟨hintact, hevolves, hthreads⟩ := run_sound hready
    (fun i answer _ _ (h : (jobs i).Holds w answer _) hevolves => h.evolves hevolves)
    (fun _ _ _ _ _ _ => trivial)
    (fun i => (jobs i).sound hready.intact (hready.unused i) (moves_suspendable jobs w i)
      fun _ horg => suspendable_active horg) hrun
  refine ⟨hintact, hevolves, fun i answer hanswer => ?_⟩
  have hthread := hthreads i
  rw [Thread.eq_answer hanswer] at hthread
  exact hthread.of_answer

/-! ### A run -/

/-- The server that handles a job with an id. -/
def sampleApi (generateId : String) : ApiServer String :=
  { sampleServer with
    rt := { sampleRuntime with generateId }
    eventBus := ⟨true, .ok (), ⟨Pg.uuidOf 7, 1716500001000, true⟩, fun _ => none⟩
    bcryptHash := fun _ => "$2b$12$abcdefghijklmnopqrstuv"
    bcryptCompare := sampleCompare
    sign := fun claims _ => claims.tenantId
    organizationTies := insertionOrder _ }

def sampleLoginBody : LoginBody := ⟨"owner@acme.test", "correct horse", some "acme"⟩

/-- Two registrations of one address, and a login of somebody else. -/
def sampleJobs : Fin 3 → Job String
  | 0 => .serve (sampleApi (Pg.uuidOf 4))
      (.register ⟨none, none⟩ ⟨"ada@acme.test", "correct horse", "Ada"⟩ none)
  | 1 => .serve (sampleApi (Pg.uuidOf 5))
      (.register ⟨none, none⟩ ⟨"Ada@acme.test", "correct horse", "Ada"⟩ none)
  | 2 => .serve (sampleApi (Pg.uuidOf 6)) (.login ⟨none, none⟩ sampleLoginBody none)

/-- Both registrations look for the address before one of them saves it. -/
def sampleSchedule : List (Fin 3) := [0, 1, 0, 1, 2, 0, 2, 0, 2]

theorem sampleWorld_intact : sampleWorld.Intact where
  consistent := sampleWorld_consistent
  owners := by
    intro org horg
    obtain rfl := List.mem_singleton.mp horg
    exact ⟨sampleUser, List.mem_singleton_self _, rfl⟩
  definitions _ h := absurd h List.not_mem_nil
  executions _ h := absurd h List.not_mem_nil
  defined _ h := absurd h List.not_mem_nil

/-- The jobs of the sample find their ids free, and share none. -/
theorem sampleJobs_ready : Ready sampleJobs sampleWorld := by
  have hid : ∀ i, Pg.uuid (sampleJobs i).generateId = some (sampleJobs i).generateId := by
    decide +kernel
  have hfree : ∀ i, (sampleJobs i).generateId ∉ sampleWorld.users.rows.map UserOrmEntity.id ∧
      (sampleJobs i).generateId ∉ sampleWorld.organizations.rows.map OrganizationOrmEntity.id := by
    decide +kernel
  have hapart : ∀ i j, (sampleJobs i).generateId = (sampleJobs j).generateId → i = j := by
    decide +kernel
  refine ⟨sampleWorld_intact, fun i => ⟨?_, ?_, ?_⟩, fun i j hij k hk hk' => ?_⟩
  · intro k hk
    obtain rfl := Option.some.inj ((hid i).symm.trans hk)
    exact (hfree i).1
  · intro k hk
    obtain rfl := Option.some.inj ((hid i).symm.trans hk)
    exact (hfree i).2
  · exact fun _ _ => List.not_mem_nil
  · exact hij (hapart i j (Option.some.inj
      (((hid i).symm.trans hk).trans ((hid j).symm.trans hk').symm)))

/-- The first registration is answered, and so is the login. -/
theorem sampleRun_ends : ∃ s,
    exec Threads.step (started sampleJobs sampleWorld) sampleSchedule = some s ∧
      s.store.users.rows.length = 2 ∧ (s.thread 0).answer?.isSome = true ∧
      (Threads.step s 2).isNone = true := by
  have hshows : (exec Threads.step (started sampleJobs sampleWorld) sampleSchedule).any
      (fun s => s.store.users.rows.length = 2 && ((s.thread 0).answer?.isSome &&
        (Threads.step s 2).isNone)) = true := by
    decide +kernel
  obtain ⟨s, hrun, hs⟩ := (Option.any_eq_true _ _).mp hshows
  simp only [Bool.and_eq_true, decide_eq_true_eq] at hs
  exact ⟨s, hrun, hs⟩

/-- **Requests keep the database intact**, however their steps come. -/
theorem requests_keep_intact {jobs : ι → Job Token} {w : World} (hready : Ready jobs w)
    {schedule : List ι} {s : Threads ι World Exception (JobAnswer Token)}
    (hrun : exec Threads.step (started jobs w) schedule = some s) : s.store.Intact :=
  (run_jobs hready hrun).1

/-- A run that ends with a second user. -/
theorem requests_keep_intact_sample : ∃ s,
    exec Threads.step (started sampleJobs sampleWorld) sampleSchedule = some s ∧
      s.store.users.rows.length = 2 ∧ s.store.Intact := by
  obtain ⟨s, hrun, husers, -⟩ := sampleRun_ends
  exact ⟨s, hrun, husers, requests_keep_intact sampleJobs_ready hrun⟩

/-- **Requests only add to the database**, and change of its rows what `Evolves`
says. -/
theorem requests_evolve {jobs : ι → Job Token} {w : World} (hready : Ready jobs w)
    {schedule : List ι} {s : Threads ι World Exception (JobAnswer Token)}
    (hrun : exec Threads.step (started jobs w) schedule = some s) :
    w.Evolves (Suspendable jobs w) s.store :=
  (run_jobs hready hrun).2.1

theorem requests_evolve_sample : ∃ s,
    exec Threads.step (started sampleJobs sampleWorld) sampleSchedule = some s ∧
      sampleWorld.Evolves (Suspendable sampleJobs sampleWorld) s.store := by
  obtain ⟨s, hrun, -⟩ := sampleRun_ends
  exact ⟨s, hrun, requests_evolve sampleJobs_ready hrun⟩

/-- **What was answered holds**, whatever else has happened since. -/
theorem answers_hold {jobs : ι → Job Token} {w : World} (hready : Ready jobs w)
    {schedule : List ι} {s : Threads ι World Exception (JobAnswer Token)}
    (hrun : exec Threads.step (started jobs w) schedule = some s) {i : ι}
    {answer : JobAnswer Token} (hanswer : (s.thread i).answer? = some answer) :
    (jobs i).Holds w answer s.store :=
  (run_jobs hready hrun).2.2 i answer hanswer

/-- The answer of the first job holds at the end. -/
theorem answers_hold_sample : ∃ s answer,
    exec Threads.step (started sampleJobs sampleWorld) sampleSchedule = some s ∧
      (s.thread 0).answer? = some answer ∧ (sampleJobs 0).Holds sampleWorld answer s.store := by
  obtain ⟨s, hrun, -, hanswered, -⟩ := sampleRun_ends
  obtain ⟨answer, hanswer⟩ := Option.isSome_iff_exists.mp hanswered
  exact ⟨s, answer, hrun, hanswer, answers_hold sampleJobs_ready hrun hanswer⟩

/-! ### Tenants that are not active -/

/- A tenant that is not active at first is read as such by every job, and no command makes
it active.  Only an organization that is `Suspendable` changes its status. -/

/-- Tokens are answered to a login that the first database calls for. -/
theorem granted_of_tokens {w₀ w : World} {job : Job Token} {pair : TokenPair Token}
    (h : job.Holds w₀ (.response (.tokens pair)) w) :
    ∃ api headers body invalid row org user, job = .serve api (.login headers body invalid) ∧
      Issued api.bcryptCompare api.sign (IdentityController.loginCommand api body) w₀ pair row org ∧
      user.userId = row.id ∧ pair = tokens api.sign user org.id := by
  cases job with
  | serve api request =>
      obtain ⟨response, hresponse, hholds⟩ := h
      obtain rfl := JobAnswer.response.inj hresponse
      cases request with
      | register headers body invalid =>
          obtain ⟨result, hresult, -⟩ := hholds
          cases hresult
      | login headers body invalid =>
          obtain ⟨pair', hpair, row, org, user, hissued, huser, htokens, -⟩ := hholds
          obtain rfl := ApiResponse.tokens.inj hpair
          exact ⟨api, headers, body, invalid, row, org, user, rfl, hissued, huser, htokens⟩
      | guarded request =>
          obtain ⟨user, inner, -, hinner, -⟩ := hholds
          cases hinner
  | trigger bus ctx rt command =>
      obtain ⟨result, hresult, -⟩ := h
      cases hresult
  | record bus inet ctx rt command =>
      obtain ⟨result, hresult, -⟩ := h
      cases hresult

/-- **A tenant that is not active is locked out**: it stays as it is, and no
login is answered with tokens for it. -/
theorem inactive_locked_out {jobs : ι → Job Token} {w : World} (hready : Ready jobs w)
    {schedule : List ι} {s : Threads ι World Exception (JobAnswer Token)}
    (hrun : exec Threads.step (started jobs w) schedule = some s) {org : OrganizationOrmEntity}
    (horg : org ∈ w.organizations.rows) (hinactive : org.status ≠ .ACTIVE) :
    (∃ org' ∈ s.store.organizations.rows, org'.id = org.id ∧ org'.status = org.status) ∧
      ∀ i pair, (s.thread i).answer? = some (.response (.tokens pair)) →
        pair.tenantId ≠ org.id := by
  constructor
  · obtain ⟨org', horg', hbecomes⟩ := (run_jobs hready hrun).2.1.organizations.kept org horg
    refine ⟨org', horg', hbecomes.id, ?_⟩
    rcases hbecomes.status with hsame | ⟨hmoving, -, -⟩
    · exact hsame
    · exact absurd (suspendable_active horg hmoving) hinactive
  · intro i pair hanswer htenant
    obtain ⟨api, headers, body, invalid, row, granted, user, -, hissued, -, rfl⟩ :=
      granted_of_tokens ((run_jobs hready hrun).2.2 i _ hanswer)
    have hsame := w.organizations.eq_of_key_eq hissued.stored horg htenant
    exact hinactive (hsame ▸ hissued.tenant)

/-- The database after the organization was suspended. -/
def suspendedWorld : World :=
  { sampleWorld with
    organizations := ⟨[{ sampleOrganization with status := .SUSPENDED }],
      List.nodup_singleton _⟩ }

theorem suspendedWorld_intact : suspendedWorld.Intact where
  consistent := {
    users := sampleWorld_consistent.users
    emails := sampleWorld_consistent.emails
    organizations := by
      intro row hrow
      obtain rfl := List.mem_singleton.mp hrow
      obtain ⟨⟨hid, hname, hslug, howner, hdate, hsettings, hcreated, hupdated⟩, haddress⟩ :=
        sampleOrganization_regular
      exact ⟨⟨hid, hname, hslug, howner, hdate, hsettings, hcreated, hupdated⟩, haddress⟩
    slugs := by
      intro r hr s hs _
      rw [List.mem_singleton.mp hr, List.mem_singleton.mp hs] }
  owners := by
    intro org horg
    obtain rfl := List.mem_singleton.mp horg
    exact ⟨sampleUser, List.mem_singleton_self _, rfl⟩
  definitions _ h := absurd h List.not_mem_nil
  executions _ h := absurd h List.not_mem_nil
  defined _ h := absurd h List.not_mem_nil

/-- The login of its owner ends without tokens. -/
theorem inactive_locked_out_sample : ∃ s,
    exec Threads.step (started sampleJobs suspendedWorld) [0, 2, 1, 2] = some s ∧
      (Threads.step s 2).isNone = true ∧ ∀ i pair,
        (s.thread i).answer? = some (.response (.tokens pair)) → pair.tenantId ≠ Pg.uuidOf 1 := by
  have hshows : (exec Threads.step (started sampleJobs suspendedWorld) [0, 2, 1, 2]).any
      (fun s => (Threads.step s 2).isNone) = true := by
    decide +kernel
  obtain ⟨s, hrun, hended⟩ := (Option.any_eq_true _ _).mp hshows
  have hready : Ready sampleJobs suspendedWorld :=
    ⟨suspendedWorld_intact, fun i => ⟨(sampleJobs_ready.unused i).users,
      (sampleJobs_ready.unused i).organizations, (sampleJobs_ready.unused i).workflowExecutions⟩,
      sampleJobs_ready.apart⟩
  exact ⟨s, hrun, hended,
    (inactive_locked_out hready hrun (List.mem_singleton_self _) (by decide)).2⟩

/-! ### Logins -/

/-- An active user with the password asks for an active organization of theirs. -/
structure Entitled (api : ApiServer Token) (body : LoginBody) (row : UserOrmEntity)
    (org : OrganizationOrmEntity) (w : World) : Prop where
  found : userFor w body.email = some row
  active : row.status = .active
  password : api.bcryptCompare body.password row.passwordHash = true
  stored : org ∈ w.organizations.rows
  asked : body.organizationSlug = some org.slug
  owner : org.ownerId = row.id
  tenant : org.status = .ACTIVE

/-- The login of a user who is entitled to it. -/
theorem sound_entitled {moving : String → Prop} {id : String} {api : ApiServer Token}
    {headers : Headers} {body : LoginBody} {row : UserOrmEntity} {org : OrganizationOrmEntity}
    {w : World} (hw : w.Intact) (hclock : Pg.timestamptz api.rt.now = some api.rt.now)
    (h : Entitled api body row org w) (hstays : ¬ moving org.id) :
    Sound moving id
      (fun answer _ => ∃ pair, answer = .response (.tokens pair) ∧ pair.tenantId = org.id)
      (fun _ _ => False) (Job.serve api (.login headers body none)).steps w := by
  obtain ⟨-, slug, hslug⟩ := hw.consistent.organizations org h.stored
  have hnonempty : org.slug ≠ "" := by
    intro hempty
    have hpattern := slug.pattern
    rw [← hslug, hempty] at hpattern
    exact absurd hpattern (by decide)
  have hlogin := sound_login_succeeds api.bcryptCompare api.sign api.organizationTies api.rt id
    (IdentityController.loginCommand api body) hclock h.asked hnonempty h.found h.active h.password
    h.stored rfl h.owner h.tenant hstays
  unfold Job.steps ApiServer.steps
  refine Thread.Sound.map ?_
  refine sound_lift (fun _ _ => sound_lift (fun _ _ => ?_) fun e he => ?_) fun e he => ?_
  · refine Thread.Sound.map (Thread.Sound.bind (hlogin.weaken (fun result w' hresult => ?_)
      fun _ _ hfalse => hfalse))
    obtain ⟨pair, rfl, htenant⟩ := hresult
    exact .pure ⟨pair, rfl, htenant⟩
  · cases he
  · cases he

/-- **A login succeeds among other requests**: unless one of them is to suspend
the organization, the login ends with tokens for it. -/
theorem login_succeeds {jobs : ι → Job Token} {w : World} (hready : Ready jobs w)
    {schedule : List ι} {s : Threads ι World Exception (JobAnswer Token)}
    (hrun : exec Threads.step (started jobs w) schedule = some s) {i : ι} {api : ApiServer Token}
    {headers : Headers} {body : LoginBody} {row : UserOrmEntity} {org : OrganizationOrmEntity}
    (hjob : jobs i = .serve api (.login headers body none))
    (hclock : Pg.timestamptz api.rt.now = some api.rt.now) (hentitled : Entitled api body row org w)
    (hnobody : ∀ j, ¬ (jobs j).Suspends org.id) (hended : Threads.step s i = none) :
    ∃ pair, (s.thread i).answer? = some (.response (.tokens pair)) ∧ pair.tenantId = org.id := by
  have hstays : ¬ Suspendable jobs w org.id := fun ⟨⟨j, hsuspends⟩, _⟩ => hnobody j hsuspends
  obtain ⟨-, -, hthreads⟩ := run_sound hready
    (fun j answer _ _ (h : j = i → ∃ pair, answer = JobAnswer.response (.tokens pair) ∧
      pair.tenantId = org.id) _ => h)
    (fun j _ _ _ (h : j ≠ i) _ => h)
    (fun j => by
      by_cases hj : j = i
      · subst hj
        rw [hjob]
        exact (sound_entitled hready.intact hclock hentitled hstays).weaken
          (fun _ _ h _ => h) fun _ _ h => h.elim
      · exact ((jobs j).sound hready.intact (hready.unused j) (moves_suspendable jobs w j)
          fun _ horg => suspendable_active horg).weaken (fun _ _ _ h => absurd h hj)
          fun _ _ _ => hj) hrun
  have hi := hthreads i
  rcases Threads.ended_of_step hended with ⟨answer, hanswer⟩ | ⟨e, hreject⟩
  · rw [hanswer] at hi
    obtain ⟨pair, rfl, htenant⟩ := hi.of_answer rfl
    exact ⟨pair, by rw [hanswer]; rfl, htenant⟩
  · rw [hreject] at hi
    exact absurd rfl hi.of_reject

theorem sampleJobs_suspend_nobody : ∀ j key, ¬ (sampleJobs j).Suspends key
  | 0, _, ⟨_, _, _, hrequest, _⟩ => nomatch hrequest
  | 1, _, ⟨_, _, _, hrequest, _⟩ => nomatch hrequest
  | 2, _, ⟨_, _, _, hrequest, _⟩ => nomatch hrequest

theorem login_succeeds_sample : ∃ s pair,
    exec Threads.step (started sampleJobs sampleWorld) sampleSchedule = some s ∧
      (s.thread 2).answer? = some (.response (.tokens pair)) ∧
      pair.tenantId = sampleOrganization.id := by
  obtain ⟨s, hrun, -, -, hended⟩ := sampleRun_ends
  have hentitled : Entitled (sampleApi (Pg.uuidOf 6)) sampleLoginBody sampleUser
      sampleOrganization sampleWorld :=
    ⟨by decide +kernel, rfl, by decide +kernel, List.mem_singleton_self _, rfl, rfl, rfl⟩
  obtain ⟨pair, hanswer, htenant⟩ := login_succeeds sampleJobs_ready hrun rfl (by decide)
    hentitled (fun j => sampleJobs_suspend_nobody j _) (Option.isNone_iff_eq_none.mp hended)
  exact ⟨s, pair, hrun, hanswer, htenant⟩

end Requests

end Atlas
