import Atlas.Pagination

/-!
# Atlas.Audit.Filtering

Which events `AuditEventRepository.query` counts and shows.

A criterion takes part in the query when it is truthy, and the two dates only
together.  So the events counted are those asked for (`satisfiedBy`) as long as
the criteria that are left out (`leftOut`) would not have excluded any.  The total
of a page that is not full is read off the page, which makes a difference where the
offset or the limit has a fraction (`WholePaging`).
-/

namespace Atlas

open StoreKit TenantAwareRepository

/-! ## Pages -/

namespace Typeorm

/-- The server takes the numbers of a page. -/
structure PageAccepted (skip take : Js.Number) : Prop where
  numbers : checkNumbers skip take = .ok ()
  offset : skip = 0 ∨ ∃ n, clause skip = .ok n
  limit : take = 0 ∨ ∃ n, clause take = .ok n

/-- A number of rows is left out when it is zero, taken, or refused. -/
theorem clauseUnlessZero_cases (number : Js.Number) (absent : Nat) :
    (∃ n, (if number = 0 then .ok absent else clause number : Except Exception Nat) = .ok n ∧
      (number = 0 ∨ ∃ n, clause number = .ok n)) ∨
    ∃ e, (if number = 0 then .ok absent else clause number : Except Exception Nat) = .error e ∧
      ¬ (number = 0 ∨ ∃ n, clause number = .ok n) := by
  by_cases hzero : number = 0
  · rw [if_pos hzero]
    exact .inl ⟨absent, rfl, .inl hzero⟩
  · rw [if_neg hzero]
    cases hclause : clause number with
    | ok n => exact .inl ⟨n, rfl, .inr ⟨n, rfl⟩⟩
    | error e =>
        refine .inr ⟨e, rfl, ?_⟩
        rintro (h | ⟨n, hn⟩)
        · exact hzero h
        · cases hn

/-- The page is cut in PostgreSQL, by the two clauses. -/
theorem paginate_eq {ρ : Type} (skip take : Js.Number) (rows : List ρ) :
    paginate skip take rows =
      (if skip = 0 then .ok 0 else clause skip : Except Exception Nat).bind fun offset =>
        (if take = 0 then .ok rows.length else clause take : Except Exception Nat).bind fun limit =>
          .ok ((rows.drop offset).take limit) := by
  unfold paginate
  by_cases hskip : skip = 0
  · by_cases htake : take = 0
    · simp only [hskip, htake, if_true]
      rfl
    · simp only [hskip, htake, if_true, if_false]
      rfl
  · by_cases htake : take = 0
    · simp only [hskip, htake, if_true, if_false]
      rfl
    · simp only [hskip, htake, if_false]
      rfl

/-- The rows shown are some of those there are. -/
theorem paginate_cases {ρ : Type} (skip take : Js.Number) (rows : List ρ) :
    (∃ data, paginate skip take rows = .ok data ∧ (∀ row ∈ data, row ∈ rows) ∧
      (skip = 0 ∨ ∃ n, clause skip = .ok n) ∧ (take = 0 ∨ ∃ n, clause take = .ok n)) ∨
    ∃ e, paginate skip take rows = .error e ∧
      ¬ ((skip = 0 ∨ ∃ n, clause skip = .ok n) ∧ (take = 0 ∨ ∃ n, clause take = .ok n)) := by
  rcases clauseUnlessZero_cases skip 0 with ⟨offset, hoffset, hskip⟩ | ⟨e, hoffset, hskip⟩
  · rcases clauseUnlessZero_cases take rows.length with ⟨limit, hlimit, htake⟩ | ⟨e, hlimit, htake⟩
    · refine .inl ⟨(rows.drop offset).take limit, ?_, ?_, hskip, htake⟩
      · rw [paginate_eq, hoffset, hlimit]
        rfl
      · intro row hrow
        exact List.mem_of_mem_drop (List.mem_of_mem_take hrow)
    · refine .inr ⟨e, ?_, fun h => htake h.2⟩
      rw [paginate_eq, hoffset, hlimit]
      rfl
  · refine .inr ⟨e, ?_, fun h => hskip h.1⟩
    rw [paginate_eq, hoffset]
    rfl

end Typeorm

/-- The total is read off a page of some rows: it is not a full page, and not an
empty one behind an offset. -/
def Typeorm.ReadOffPage (skip take : Js.Number) (entities : Nat) : Prop :=
  (entities : Js.Number) ≠ take ∧ (entities = 0 → Js.Number.lt 0 skip = false)

/-- What it is then: these rows and those before them. -/
def Typeorm.totalOfPage (arithmetic : Js.Arithmetic) (skip : Js.Number) (entities : Nat) :
    Js.Number := arithmetic.add entities (if Js.Number.lt 0 skip then skip else 0)

/-- The total is read off the page, or counted. -/
theorem Typeorm.lazyCount_cases (arithmetic : Js.Arithmetic) (skip take : Js.Number)
    (entities : Nat) :
    (ReadOffPage skip take entities ∧
      lazyCount arithmetic skip take entities = some (totalOfPage arithmetic skip entities)) ∨
    (¬ ReadOffPage skip take entities ∧ lazyCount arithmetic skip take entities = none) := by
  simp only [lazyCount]
  by_cases hfull : (entities : Js.Number) = take
  · rw [if_pos hfull]
    exact .inr ⟨fun h => h.1 hfull, rfl⟩
  · by_cases hnone : entities = 0 ∧ Js.Number.lt 0 skip = true
    · rw [if_neg hfull, if_pos hnone]
      refine .inr ⟨fun h => ?_, rfl⟩
      exact Bool.eq_false_iff.mp (h.2 hnone.1) hnone.2
    · rw [if_neg hfull, if_neg hnone]
      refine .inl ⟨⟨hfull, fun hzero => ?_⟩, rfl⟩
      exact Bool.eq_false_iff.mpr fun hskip => hnone ⟨hzero, hskip⟩

/-- The rows shown are a page of those that meet the condition. -/
theorem getManyAndCount_cases {ρ : Type} (arithmetic : Js.Arithmetic) (rows : World → List ρ)
    (ties : Typeorm.Arrangement ρ) (date : ρ → Js.Date) (condition : ρ → Bool)
    (skip take : Js.Number) (w : World) :
    (∃ data, Typeorm.paginate skip take
        (Typeorm.orderByDesc ties date ((rows w).filter condition)) = .ok data ∧
      (getManyAndCount arithmetic rows ties date condition skip take).run w =
        (.ok (data, (Typeorm.lazyCount arithmetic skip take data.length).getD
          ((rows w).filter condition).length), w) ∧
      (skip = 0 ∨ ∃ n, Typeorm.clause skip = .ok n) ∧ (take = 0 ∨ ∃ n, Typeorm.clause take = .ok n)) ∨
    ((∃ e, (getManyAndCount arithmetic rows ties date condition skip take).run w = (.error e, w)) ∧
      ¬ ((skip = 0 ∨ ∃ n, Typeorm.clause skip = .ok n) ∧
        (take = 0 ∨ ∃ n, Typeorm.clause take = .ok n))) := by
  have hgets : (Program.gets (fun w => (rows w).filter condition) : App (List ρ)).run w =
      (.ok ((rows w).filter condition), w) := rfl
  rw [getManyAndCount, Program.bind_run_ok hgets]
  rcases Typeorm.paginate_cases skip take
      (Typeorm.orderByDesc ties date ((rows w).filter condition)) with
    ⟨data, hpage, -, hskip, htake⟩ | ⟨e, hpage, hrefused⟩
  · rw [hpage]
    exact .inl ⟨data, rfl, Program.bind_run_ok (Program.lift_run _ _), hskip, htake⟩
  · rw [hpage]
    exact .inr ⟨⟨e, Program.bind_run_error (Program.lift_run _ _)⟩, hrefused⟩

/-! ## Filters -/

namespace AuditEventRepository

namespace AuditEventFilter

/-- What a filter asks for: every criterion that is given, each on its own.
An actor is an identifier, in any of its spellings. -/
def satisfiedBy (filter : AuditEventFilter) (row : AuditEventOrmEntity) : Bool :=
  filter.actorId.all (fun actorId => (Pg.uuid actorId).isSome && Pg.uuid actorId = row.actorId) &&
  filter.action.all (row.action = ·) &&
  filter.resourceType.all (row.resourceType = ·) &&
  filter.resourceId.all (row.resourceId = ·) &&
  filter.outcome.all (row.outcome = ·) &&
  filter.fromDate.all (· ≤ row.occurredAt) &&
  filter.toDate.all (row.occurredAt ≤ ·)

/-- A row would meet the criteria that the query leaves out: texts that are
empty, and a date without the other one. -/
def leftOut (filter : AuditEventFilter) (row : AuditEventOrmEntity) : Bool :=
  filter.actorId ≠ some "" &&
  (filter.action ≠ some "" || row.action = "") &&
  (filter.resourceType ≠ some "" || row.resourceType = "") &&
  (filter.resourceId ≠ some "" || row.resourceId = "") &&
  match filter.fromDate, filter.toDate with
  | some fromDate, none => fromDate ≤ row.occurredAt
  | none, some toDate => row.occurredAt ≤ toDate
  | _, _ => true

/-- A text is compared where it is not empty. -/
theorem all_text_iff (given : Option String) (text : String) :
    given.all (text = ·) = ((Js.truthy given).all (text = ·) && (given ≠ some "" || text = "")) := by
  cases given with
  | none => rfl
  | some s =>
      by_cases hempty : s = ""
      · simp [Js.truthy, hempty]
      · simp [Js.truthy, hempty]

/-- The condition on the actor, as the column has it. -/
theorem all_actor_iff {given actorId : Option String} (column : Option String)
    (h : Pg.nullable Pg.uuid (Js.truthy given) = some actorId) :
    given.all (fun actorId => (Pg.uuid actorId).isSome && Pg.uuid actorId = column) =
      (actorId.all (column = some ·) && given ≠ some "") := by
  cases given with
  | none =>
      obtain rfl := Option.some.inj h
      rfl
  | some s =>
      by_cases hempty : s = ""
      · obtain rfl : none = actorId := by simpa [Js.truthy, hempty, Pg.nullable] using h
        have hrefused : Pg.uuid "" = none := by decide
        simp [hempty, hrefused]
      · simp only [Js.truthy, hempty, if_false, Pg.nullable, Option.map_eq_some_iff] at h
        obtain ⟨id, hid, rfl⟩ := h
        simp [hid, hempty, eq_comm]

/-- The condition on the dates, whichever of them are given. -/
theorem all_dates_iff (fromDate toDate : Option Js.Date) (date : Js.Date) :
    (fromDate.all (· ≤ date) && toDate.all (date ≤ ·)) =
      ((match fromDate, toDate with
        | some fromDate, some toDate => fromDate ≤ date && date ≤ toDate
        | _, _ => true) &&
      match fromDate, toDate with
        | some fromDate, none => decide (fromDate ≤ date)
        | none, some toDate => date ≤ toDate
        | _, _ => true) := by
  cases fromDate with
  | none => cases toDate <;> simp
  | some fromDate => cases toDate <;> simp

/-- **The query's condition and what it leaves out make up the filter.** -/
theorem satisfiedBy_eq {filter : AuditEventFilter} {actorId : Option String}
    (h : Pg.nullable Pg.uuid (Js.truthy filter.actorId) = some actorId)
    (row : AuditEventOrmEntity) :
    filter.satisfiedBy row = (filter.matches actorId row && filter.leftOut row) := by
  have hdates := all_dates_iff filter.fromDate filter.toDate row.occurredAt
  rw [satisfiedBy, Bool.and_assoc _ (filter.fromDate.all _), hdates, all_actor_iff row.actorId h,
    all_text_iff filter.action, all_text_iff filter.resourceType, all_text_iff filter.resourceId,
    AuditEventFilter.matches, leftOut]
  ac_rfl

end AuditEventFilter

/-! ## The query -/

/-- `limit` of `query`. -/
def limitOf (options : PaginationOptions) : Js.Number := (options.limit.getD 50).min 200

/-- `skip` of `query`, as the machine computes it. -/
def skipOf (options : PaginationOptions) : Js.Number :=
  Js.Arithmetic.binary64.mul (Js.Arithmetic.binary64.pred (options.page.getD 1)) (limitOf options)

/-- The numbers that the query computes from its options are taken by the server. -/
def OptionsAccepted (options : PaginationOptions) : Prop :=
  Typeorm.PageAccepted (skipOf options) (limitOf options)

/-- The rows of the page that the query shows. -/
def shown (ties : Typeorm.Arrangement AuditEventOrmEntity) (options : PaginationOptions)
    (rows : List AuditEventOrmEntity) : List AuditEventOrmEntity :=
  (Typeorm.paginate (skipOf options) (limitOf options)
    (Typeorm.orderByDesc ties AuditEventOrmEntity.occurredAt rows)).toOption.getD []

/-- The tenant's events that a filter asks for. -/
def satisfying (tenant : String) (filter : AuditEventFilter) (w : World) :
    List AuditEventOrmEntity :=
  w.auditEvents.rows.filter fun row => row.tenantId = tenant && filter.satisfiedBy row

/-- Offset and limit are whole numbers, and there are not more rows than a double
counts. -/
def WholePaging (options : PaginationOptions) (rows : List AuditEventOrmEntity) : Prop :=
  rows.length < 2 ^ 53 ∧ ∃ k n : Nat, skipOf options = k ∧ limitOf options = n

/-- Events that the criteria left out would exclude are neither counted nor
shown.  Where the total is read off the page, only its events are looked at. -/
structure PageAskedFor (ties : Typeorm.Arrangement AuditEventOrmEntity)
    (options : PaginationOptions) (tenant : String) (filter : AuditEventFilter) (w : World) :
    Prop where
  read : Typeorm.ReadOffPage (skipOf options) (limitOf options)
      (shown ties options (matching tenant filter w)).length →
    Typeorm.totalOfPage .binary64 (skipOf options)
        (shown ties options (matching tenant filter w)).length =
      ((satisfying tenant filter w).length : Js.Number) ∧
    ∀ row ∈ shown ties options (matching tenant filter w), filter.leftOut row = true
  counted : ¬ Typeorm.ReadOffPage (skipOf options) (limitOf options)
      (shown ties options (matching tenant filter w)).length →
    ∀ row ∈ matching tenant filter w, filter.leftOut row = true

/-- The criteria left out would exclude no event that matches.  Where the page has a
fractional offset or limit, it is the events on it that count. -/
structure OnlyAskedFor (ties : Typeorm.Arrangement AuditEventOrmEntity)
    (options : PaginationOptions) (tenant : String) (filter : AuditEventFilter) (w : World) :
    Prop where
  whole : WholePaging options (matching tenant filter w) →
    ∀ row ∈ matching tenant filter w, filter.leftOut row = true
  fractional : ¬ WholePaging options (matching tenant filter w) →
    PageAskedFor ties options tenant filter w

/-- The rows shown are some of those that match. -/
theorem mem_of_shown {ties : Typeorm.Arrangement AuditEventOrmEntity} {options : PaginationOptions}
    {rows : List AuditEventOrmEntity} {row : AuditEventOrmEntity}
    (h : row ∈ shown ties options rows) : row ∈ rows := by
  rw [shown] at h
  have hlisting := Typeorm.listing_orderByDesc ties AuditEventOrmEntity.occurredAt rows
  rcases Typeorm.paginate_cases (skipOf options) (limitOf options)
      (Typeorm.orderByDesc ties AuditEventOrmEntity.occurredAt rows) with
    ⟨data, hpage, hdata, -⟩ | ⟨e, hpage, -⟩
  · rw [hpage] at h
    exact hlisting.perm.mem_iff.mp (hdata row h)
  · rw [hpage] at h
    cases h

/-- **A whole page tells how many rows there are**, whether it is asked or not. -/
theorem total_whole (ties : Typeorm.Arrangement AuditEventOrmEntity) {options : PaginationOptions}
    {rows : List AuditEventOrmEntity} {k n : Nat} (hoptions : OptionsAccepted options)
    (hskip : skipOf options = k) (hlimit : limitOf options = n) (hrows : rows.length < 2 ^ 53) :
    (Typeorm.lazyCount .binary64 (skipOf options) (limitOf options)
      (shown ties options rows).length).getD rows.length = (rows.length : Js.Number) := by
  have hclause : ∀ m absent : Nat, ((m : Js.Number) = 0 ∨ ∃ i, Typeorm.clause m = .ok i) →
      (if (m : Js.Number) = 0 then .ok absent else Typeorm.clause m : Except Exception Nat) =
        .ok (if m = 0 then absent else m) := by
    intro m absent h
    have hzero : (m : Js.Number) = 0 ↔ m = 0 := Js.Number.natCast_inj
    by_cases hm : m = 0
    · rw [if_pos (hzero.mpr hm), if_pos hm]
    · rw [if_neg fun h => hm (hzero.mp h), if_neg hm]
      obtain ⟨i, hi⟩ := h.resolve_left fun h => hm (hzero.mp h)
      rw [Typeorm.clause_natCast] at hi ⊢
      split at hi
      · next hend => rw [if_pos hend]
      · cases hi
  have hlength : (Typeorm.orderByDesc ties AuditEventOrmEntity.occurredAt rows).length =
      rows.length := (Typeorm.listing_orderByDesc ties _ rows).perm.length_eq
  obtain ⟨-, hoffset, htake⟩ := hoptions
  rw [hskip] at hoffset
  rw [hlimit] at htake
  have hentities : (shown ties options rows).length =
      min (if n = 0 then rows.length else n) (rows.length - k) := by
    have hfirst : (if k = 0 then 0 else k) = k := by
      split <;> omega
    rw [shown, hskip, hlimit, Typeorm.paginate_eq, hclause k 0 hoffset, hfirst, hclause n _ htake,
      hlength]
    exact (List.length_take).trans (by rw [List.length_drop, hlength])
  have hadd : ∀ a b : Nat, a + b = rows.length →
      Js.Arithmetic.binary64.add a b = (rows.length : Js.Number) := by
    intro a b hab
    have hsum : Js.Arithmetic.binary64.add a b = ((a : Js.Number).add b).rounded := rfl
    rw [hsum, Js.Number.add_natCast, hab]
    exact Js.Double.rounded_natCast hrows
  rw [hskip, hlimit]
  exact Typeorm.lazyCount_natCast hadd hentities

section Query

variable {ctx : Option String} {tenantId tenant : String} (hctx : Js.truthy ctx = some tenantId)
  (htenant : Pg.uuid tenantId = some tenant) (ties : Typeorm.Arrangement AuditEventOrmEntity)
  (filter : AuditEventFilter) (options : PaginationOptions) (w : World)

section Answers

include hctx htenant

/-- The query answers with a page of the events that match, or is refused. -/
theorem query_cases :
    (∃ result, (queryWith .binary64 ctx ties filter options).run w = (.ok result, w.noting ctx) ∧
      result.meta.total = (Typeorm.lazyCount .binary64 (skipOf options) (limitOf options)
        (shown ties options (matching tenant filter w)).length).getD
          (matching tenant filter w).length ∧
      result.data = (shown ties options (matching tenant filter w)).map toDomain ∧
      OptionsAccepted options ∧ filter.accepted = true) ∨
    ((∃ e, (queryWith .binary64 ctx ties filter options).run w = (.error e, w.noting ctx)) ∧
      ¬ (OptionsAccepted options ∧ filter.accepted = true)) := by
  have hscope : (scopedQb name ctx).run w = (.ok tenantId, w.noting ctx) :=
    requireTenantId_run w hctx
  have hlimit : (options.limit.getD 50).min 200 = limitOf options := rfl
  have hskip : Js.Arithmetic.binary64.mul (Js.Arithmetic.binary64.pred (options.page.getD 1))
      (limitOf options) = skipOf options := rfl
  rw [queryWith, Program.bind_run_ok hscope, hlimit, hskip]
  cases hnumbers : Typeorm.checkNumbers (skipOf options) (limitOf options) with
  | error e =>
      refine .inr ⟨⟨e, Program.bind_run_error (Program.lift_run _ _)⟩, fun h => ?_⟩
      rw [h.1.numbers] at hnumbers
      cases hnumbers
  | ok u =>
      have hlift : (Program.lift (.ok u) : App Unit).run (w.noting ctx) = (.ok u, w.noting ctx) :=
        Program.lift_run _ _
      rw [Program.bind_run_ok hlift, Program.bind_run_ok (uuidParameter_run _ htenant)]
      rcases criteria_cases filter (w.noting ctx) with
        ⟨hrefused, hrun⟩ | ⟨haccepted, actorId, hselected, hrun⟩
      · rw [hrun]
        exact .inr ⟨⟨_, rfl⟩, fun h => Bool.eq_false_iff.mp hrefused h.2⟩
      · have hmatching : (w.noting ctx).auditEvents.rows.filter (fun row =>
            row.tenantId = tenant && filter.matches actorId row) = matching tenant filter w :=
          hselected tenant
        have hread := getManyAndCount_cases .binary64 (fun w => w.auditEvents.rows) ties
          AuditEventOrmEntity.occurredAt
          (fun row => row.tenantId = tenant && filter.matches actorId row) (skipOf options)
          (limitOf options) (w.noting ctx)
        rw [hmatching] at hread
        rw [hrun]
        rcases hread with ⟨data, hpage, hread, hoffset, htake⟩ | ⟨⟨e, hread⟩, hrefused⟩
        · have hshown : shown ties options (matching tenant filter w) = data := by
            rw [shown, hpage]
            rfl
          rw [hshown]
          exact .inl ⟨_, Program.bind_run_ok hread, rfl, rfl, ⟨hnumbers, hoffset, htake⟩, haccepted⟩
        · exact .inr ⟨⟨e, Program.bind_run_error hread⟩,
            fun h => hrefused ⟨h.1.offset, h.1.limit⟩⟩

end Answers

/-- The filter asks for the events that match and that the criteria left out
would not exclude. -/
theorem satisfying_eq (tenant : String) (haccepted : filter.accepted = true) :
    satisfying tenant filter w = (matching tenant filter w).filter filter.leftOut := by
  rw [AuditEventFilter.accepted, Bool.and_eq_true, Option.isSome_iff_exists] at haccepted
  obtain ⟨⟨actorId, hid⟩, -⟩ := haccepted
  rw [matching, hid, List.filter_filter, satisfying]
  refine List.filter_congr fun row _ => ?_
  rw [AuditEventFilter.satisfiedBy_eq hid, Option.any_some, ← Bool.and_assoc, Bool.and_comm]

/-- What a page shows is asked for where the criteria left out exclude none of
its events. -/
theorem shown_satisfy_iff (tenant : String) (haccepted : filter.accepted = true) :
    (∀ event ∈ (shown ties options (matching tenant filter w)).map toDomain,
      ∃ row ∈ satisfying tenant filter w, toDomain row = event) ↔
    ∀ row ∈ shown ties options (matching tenant filter w), filter.leftOut row = true := by
  rw [satisfying_eq filter w tenant haccepted]
  constructor
  · intro h row hrow
    obtain ⟨row', hrow', hsame⟩ := h _ (List.mem_map_of_mem hrow)
    obtain rfl : row' = row := congrArg toOrm hsame
    exact (List.mem_filter.mp hrow').2
  · intro h event hevent
    obtain ⟨row, hrow, rfl⟩ := List.mem_map.mp hevent
    exact ⟨row, List.mem_filter.mpr ⟨mem_of_shown hrow, h row hrow⟩, rfl⟩

include hctx htenant

/-- The events counted and shown are those asked for exactly where the server takes
the values, and the criteria the query leaves out exclude no event that is counted
or shown. -/
theorem answers_iff :
    (∃ result, (queryWith .binary64 ctx ties filter options).run w = (.ok result, w.noting ctx) ∧
      result.meta.total = ((satisfying tenant filter w).length : Js.Number) ∧
      ∀ event ∈ result.data, ∃ row ∈ satisfying tenant filter w, toDomain row = event) ↔
    OptionsAccepted options ∧ filter.accepted = true ∧
      PageAskedFor ties options tenant filter w := by
  rcases query_cases hctx htenant ties filter options w with
    ⟨result, hrun, htotal, hdata, hoptions, haccepted⟩ | ⟨⟨e, hrun⟩, hrefused⟩
  · have hshown := shown_satisfy_iff ties filter options w tenant haccepted
    have hsatisfying := satisfying_eq filter w tenant haccepted
    rw [← hdata] at hshown
    have hanswer : (∃ answer, (queryWith .binary64 ctx ties filter options).run w =
          (.ok answer, w.noting ctx) ∧
        answer.meta.total = ((satisfying tenant filter w).length : Js.Number) ∧
        ∀ event ∈ answer.data, ∃ row ∈ satisfying tenant filter w, toDomain row = event) ↔
        result.meta.total = ((satisfying tenant filter w).length : Js.Number) ∧
          ∀ row ∈ shown ties options (matching tenant filter w), filter.leftOut row = true := by
      rw [← hshown]
      constructor
      · rintro ⟨answer, hanswer, hcount⟩
        obtain rfl := Except.ok.inj (Prod.mk.inj (hrun.symm.trans hanswer)).1
        exact hcount
      · exact fun h => ⟨result, hrun, h⟩
    rw [hanswer, htotal]
    rcases Typeorm.lazyCount_cases .binary64 (skipOf options) (limitOf options)
        (shown ties options (matching tenant filter w)).length with
      ⟨hread, hlazy⟩ | ⟨hcounted, hlazy⟩
    · rw [hlazy, Option.getD_some]
      constructor
      · exact fun h => ⟨hoptions, haccepted, fun _ => h, fun hnot => absurd hread hnot⟩
      · exact fun h => h.2.2.read hread
    · rw [hlazy, Option.getD_none, Js.Number.natCast_inj, hsatisfying, eq_comm,
        List.length_filter_eq_length_iff]
      constructor
      · exact fun h => ⟨hoptions, haccepted, fun hread => absurd hread hcounted, fun _ => h.1⟩
      · intro h
        have hall := h.2.2.counted hcounted
        exact ⟨hall, fun row hrow => hall row (mem_of_shown hrow)⟩
  · constructor
    · rintro ⟨answer, hanswer, -⟩
      rw [hrun] at hanswer
      cases hanswer
    · rintro ⟨hoptions, haccepted, -⟩
      exact absurd ⟨hoptions, haccepted⟩ hrefused

omit hctx htenant

/-- **For whole numbers of rows** it does not matter how the total is found: the
criteria left out may exclude none of the events that match. -/
theorem pageAskedFor_whole (tenant : String) {k n : Nat} (hoptions : OptionsAccepted options)
    (haccepted : filter.accepted = true) (hskip : skipOf options = k) (hlimit : limitOf options = n)
    (hrows : (matching tenant filter w).length < 2 ^ 53) :
    PageAskedFor ties options tenant filter w ↔
      ∀ row ∈ matching tenant filter w, filter.leftOut row = true := by
  have htotal := total_whole ties hoptions hskip hlimit hrows
  have hsatisfying := satisfying_eq filter w tenant haccepted
  rcases Typeorm.lazyCount_cases .binary64 (skipOf options) (limitOf options)
      (shown ties options (matching tenant filter w)).length with
    ⟨hread, hlazy⟩ | ⟨hcounted, hlazy⟩
  · rw [hlazy, Option.getD_some] at htotal
    constructor
    · intro h
      have hcount := htotal.symm.trans (h.read hread).1
      rw [Js.Number.natCast_inj, hsatisfying, eq_comm] at hcount
      exact List.length_filter_eq_length_iff.mp hcount
    · intro hall
      refine ⟨fun _ => ⟨?_, fun row hrow => hall row (mem_of_shown hrow)⟩, fun _ => hall⟩
      rw [htotal, hsatisfying, List.filter_eq_self.mpr hall]
  · exact ⟨fun h => h.counted hcounted, fun hall => ⟨fun hread => absurd hread hcounted, fun _ => hall⟩⟩

/-- For whole numbers the condition has the short form. -/
theorem onlyAskedFor_iff (tenant : String) (hoptions : OptionsAccepted options)
    (haccepted : filter.accepted = true) :
    OnlyAskedFor ties options tenant filter w ↔ PageAskedFor ties options tenant filter w := by
  by_cases hwhole : WholePaging options (matching tenant filter w)
  · obtain ⟨k, n, hskip, hlimit⟩ := hwhole.2
    rw [pageAskedFor_whole ties filter options w tenant hoptions haccepted hskip hlimit hwhole.1]
    exact ⟨fun h => h.whole hwhole, fun h => ⟨fun _ => h, fun hnot => absurd hwhole hnot⟩⟩
  · exact ⟨fun h => h.fractional hwhole, fun h => ⟨fun hyes => absurd hyes hwhole, fun _ => h⟩⟩

include hctx htenant

end Query

-- A limit of 1.4 makes a page of one row, and the total that is read off it is 1.
example : ¬ OnlyAskedFor (alternating 1) ⟨none, some (.of (Binary64.round (7 / 5)))⟩ (Pg.uuidOf 3)
    allEvents (twoEvents 10) := by
  intro h
  have hfraction : ¬ WholePaging ⟨none, some (.of (Binary64.round (7 / 5)))⟩
      (matching (Pg.uuidOf 3) allEvents (twoEvents 10)) := by
    rintro ⟨-, k, n, -, hlimit⟩
    have hden := congrArg Rat.den (Js.Number.of.inj hlimit)
    rw [Rat.den_natCast] at hden
    exact absurd hden (by decide +kernel)
  exact absurd ((h.fractional hfraction).read ⟨by decide +kernel, by decide +kernel⟩).1
    (by decide +kernel)

/-- The events since the instant 15, and up to the instant given if one is. -/
def since15 (toDate : Option Js.Date) : AuditEventFilter :=
  { allEvents with fromDate := some 15, toDate }

theorem skipOf_default : skipOf ⟨none, none⟩ = (0 : Nat) := by decide +kernel

theorem limitOf_default : limitOf ⟨none, none⟩ = (50 : Nat) := by decide +kernel

theorem optionsAccepted_default : OptionsAccepted ⟨none, none⟩ :=
  ⟨by decide +kernel, .inl skipOf_default, .inr ⟨50, by decide +kernel⟩⟩

end AuditEventRepository

end Atlas
