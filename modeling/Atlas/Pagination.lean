import Atlas.Audit.Repository
import Atlas.Lib.Paging
import Atlas.Workflow.Repository
import Mathlib.Algebra.Order.Field.Basic
import Mathlib.Algebra.Order.Ring.Rat

/-!
# Atlas.Pagination

Walking the pages of `AuditEventRepository.query` and
`WorkflowExecutionRepository.findMany`.

Both order by a date alone, and every page is a query of its own, so the server
may break a tie one way for one page and another way for the next.  Rows of
equal dates are safe inside a page; on both sides of a boundary between pages
one of them can be shown twice and the other never.
-/

namespace Atlas

open StoreKit TenantAwareRepository

/-! ## Page arithmetic -/

/- Page and limit are numbers of JavaScript, and so is what is computed from them.  The
lemmas are for whole ones: the arithmetic is exact on them, and `lazyCount` gives the
number of rows. -/

namespace Js.Number

theorem natCast_eq (n : Nat) : (n : Number) = .of n := rfl

/-- Two whole numbers that are the same number are one. -/
theorem natCast_inj {m n : Nat} : (m : Number) = n ↔ m = n := by
  rw [natCast_eq, natCast_eq, Number.of.injEq, Nat.cast_inj]

/-- Whole numbers are added exactly. -/
theorem add_natCast (m n : Nat) : (m : Number).add n = ((m + n : Nat) : Number) := by
  rw [natCast_eq, natCast_eq, add, natCast_eq, Nat.cast_add]

/-- Taking one away is exact above zero. -/
theorem pred_natCast (p : Nat) : ((p + 1 : Nat) : Number).pred = (p : Number) := by
  rw [natCast_eq, pred, natCast_eq, Nat.cast_succ, add_sub_cancel_right]

/-- Whole numbers are multiplied exactly. -/
theorem mul_natCast (p n : Nat) : (p : Number).mul n = ((p * n : Nat) : Number) := by
  rw [natCast_eq, natCast_eq, mul, natCast_eq, Nat.cast_mul]

/-- The smaller of two whole numbers is whole. -/
theorem min_natCast (m n : Nat) : (m : Number).min n = ((Min.min m n : Nat) : Number) := by
  simp only [natCast_eq, min, Nat.min_def, Nat.cast_le]
  split <;> rfl

/-- Whole numbers are compared as such. -/
theorem lt_natCast (m n : Nat) : (m : Number).lt n = decide (m < n) := by
  rw [natCast_eq, natCast_eq, lt]
  simp only [Nat.cast_lt]

/-- `Math.ceil(total / limit)` is the number of pages. -/
theorem ceil_div_natCast (t : Nat) {n : Nat} (hn : 0 < n) :
    ((t : Number).div n).ceil = ((pageCount t n : Nat) : Number) := by
  have hpos : (0 : Rat) < n := Nat.cast_pos.mpr hn
  have hceil : ((t : Rat) / n).ceil = pageCount t n := by
    refine le_antisymm (Rat.ceil_le_iff.mpr ?_) ?_
    · rw [div_le_iff₀ hpos]
      exact_mod_cast le_pageCount_mul hn t
    · have hlt : (pageCount t n : Rat) * n < t + n := by exact_mod_cast pageCount_mul_lt hn t
      refine Int.le_of_sub_one_lt (Rat.lt_ceil_iff.mpr ?_)
      rw [lt_div_iff₀ hpos]
      push_cast
      grind
  rw [natCast_eq, natCast_eq, div, if_neg (ne_of_gt hpos), ceil, hceil]
  rfl

end Js.Number

/-- The end of the numbers an `OFFSET` may have. -/
def bigintEnd : Nat := 9223372036854775808

namespace Typeorm

/-- TypeORM takes every whole number. -/
theorem checkNumbers_natCast (skip take : Nat) : checkNumbers skip take = .ok () := by
  have hnan : ∀ n : Nat, (n : Js.Number) ≠ .nan := fun n h => by cases h
  rw [checkNumbers, if_neg (hnan skip), if_neg (hnan take)]

/-- PostgreSQL takes a whole number below `2 ^ 63`. -/
theorem clause_natCast (k : Nat) :
    clause (k : Js.Number) = if k < bigintEnd then .ok k else .error .database := by
  have hfloor : ((k : Rat) + 1 / 2).floor = k := by
    refine le_antisymm (Int.lt_add_one_iff.mp (Rat.floor_lt_iff.mpr ?_)) (Rat.le_floor_iff.mpr ?_)
    · push_cast
      grind
    · push_cast
      grind
  have hzero : (0 : Rat) ≤ k := Nat.cast_nonneg k
  rw [Js.Number.natCast_eq, clause]
  simp only [if_pos hzero, hfloor]
  have hend : bigintEnd = 9223372036854775808 := rfl
  by_cases hk : k < bigintEnd
  · rw [if_pos hk, if_pos (by omega)]
    rfl
  · rw [if_neg hk, if_neg (by omega)]

/-- A page is cut out where its offset is one the server takes. -/
theorem paginate_natCast {ρ : Type} (p : Nat) {n : Nat} (hn : 0 < n) (hend : n < bigintEnd)
    (rows : List ρ) : paginate ((p * n : Nat) : Js.Number) (n : Js.Number) rows =
      if p * n < bigintEnd then .ok (page n p rows) else .error .database := by
  have htake : ¬ (n : Js.Number) = 0 := fun h => Nat.ne_of_gt hn (Js.Number.natCast_inj.mp h)
  by_cases hfirst : p * n = 0
  · simp only [paginate, if_neg htake, clause_natCast, if_pos hend, page, hfirst]
    rfl
  · have hskip : ¬ ((p * n : Nat) : Js.Number) = 0 := fun h => hfirst (Js.Number.natCast_inj.mp h)
    simp only [paginate, if_neg hskip, if_neg htake, clause_natCast, if_pos hend]
    by_cases hoffset : p * n < bigintEnd
    · rw [if_pos hoffset, if_pos hoffset]
      rfl
    · rw [if_neg hoffset, if_neg hoffset]
      rfl

/-- **The rows of a page and those before it tell how many there are**, wherever
`lazyCount` relies on them and the numbers are whole. -/
theorem lazyCount_natCast {arithmetic : Js.Arithmetic} {total skip take : Nat}
    (hadd : ∀ a b : Nat, a + b = total → arithmetic.add a b = (total : Js.Number)) {entities : Nat}
    (hentities : entities = min (if take = 0 then total else take) (total - skip)) :
    (lazyCount arithmetic skip take entities).getD total = (total : Js.Number) := by
  have hskip : Js.Number.lt 0 skip = decide (0 < skip) := Js.Number.lt_natCast 0 skip
  simp only [lazyCount, Js.Number.natCast_inj, hskip, decide_eq_true_eq]
  by_cases hfull : entities = take
  · rw [if_pos hfull]
    rfl
  · by_cases hnone : entities = 0 ∧ 0 < skip
    · rw [if_neg hfull, if_pos hnone]
      rfl
    · rw [if_neg hfull, if_neg hnone]
      have hsum : entities + skip = total := by
        split at hentities <;> omega
      by_cases hfirst : 0 < skip
      · rw [if_pos hfirst]
        exact hadd entities skip hsum
      · rw [if_neg hfirst]
        exact hadd entities 0 (by omega)

/-- A query orders the rows by their date, newest first. -/
theorem listing_orderByDesc {ρ : Type} (ties : Arrangement ρ) (date : ρ → Js.Date)
    (rows : List ρ) : Listing date rows (orderByDesc ties date rows) := by
  have htotal : Std.Total fun a b : ρ => date b ≤ date a := ⟨fun a b => le_total (date b) (date a)⟩
  have htrans : IsTrans ρ fun a b => date b ≤ date a := ⟨fun _ _ _ hab hbc => le_trans hbc hab⟩
  exact ⟨(List.perm_insertionSort _ _).trans (ties.perm rows), List.pairwise_insertionSort _ _⟩

/-- Any listing of the rows may be what the server answers. -/
theorem exists_arrangement {ρ : Type} {date : ρ → Js.Date} {rows o : List ρ}
    (h : Listing date rows o) : ∃ ties : Arrangement ρ, orderByDesc ties date rows = o := by
  classical
  refine ⟨⟨fun given => if given = rows then o else given, fun given => ?_⟩, ?_⟩
  · by_cases hgiven : given = rows
    · rw [if_pos hgiven, hgiven]
      exact h.perm
    · rw [if_neg hgiven]
  · simp only [orderByDesc, if_true]
    exact h.sorted.insertionSort_eq

end Typeorm

/-! ## Walks -/

/- A walk is a list of pages, each read by a query of its own.  `Lib.Paging` says when
pages of different orders make up a list; `walksOnce_iff` puts the answers of a query for
the pages, for either repository. -/

section Walks

variable {ρ α : Type}

/-- The options that ask for a page. -/
def pageOptions (limit : Option Nat) (page : Nat) : PaginationOptions :=
  { page := some page, limit := limit.map fun n => n }

/-- The rows a page has for a limit. -/
def pageSize (standard maximum : Nat) (limit : Option Nat) : Nat :=
  min (limit.getD standard) maximum

/-- The pages read are as many as each of them says, and show every row once,
the latest first.  `shows` relates a row to the entity built from it. -/
structure VisitsOnce (shows : ρ → α → Prop) (date : ρ → Js.Date) (rows : List ρ)
    (results : List (PaginatedResult α)) : Prop where
  totalPages : ∃ n : Nat, results.length = max 1 n ∧ ∀ r ∈ results, r.meta.totalPages = n
  data : ∃ visited, visited.Perm rows ∧ (visited.Pairwise fun a b => date b ≤ date a) ∧
    List.Forall₂ shows visited (results.flatMap PaginatedResult.data)

/-- Asking for page 1, 2, … until `hasNextPage` is false comes to an end and
visits each of the rows once. -/
def WalksOnce (shows : ρ → α → Prop) (date : ρ → Js.Date) (rows : List ρ)
    (query : Nat → App (PaginatedResult α)) (w : World) : Prop :=
  ∃ results w', Walks query (fun r => r.meta.hasNextPage) 1 w results w' ∧
    VisitsOnce shows date rows results

/-- What a query answers for page `p + 1`. -/
def resultAt (toDomain : ρ → α) (date : ρ → Js.Date) (rows : List ρ) (n p : Nat)
    (ties : Typeorm.Arrangement ρ) : PaginatedResult α :=
  { data := (page n p (Typeorm.orderByDesc ties date rows)).map toDomain
    «meta» := buildPaginationMeta .exact ((p + 1 : Nat) : Js.Number) (n : Js.Number) rows.length }

/-- `totalPages` is the number of pages. -/
theorem resultAt_totalPages (toDomain : ρ → α) (date : ρ → Js.Date) (rows : List ρ) {n : Nat}
    (hn : 0 < n) (p : Nat) (ties : Typeorm.Arrangement ρ) :
    (resultAt toDomain date rows n p ties).meta.totalPages =
      ((pageCount rows.length n : Nat) : Js.Number) :=
  Js.Number.ceil_div_natCast rows.length hn

/-- `hasNextPage` says that another page follows. -/
theorem resultAt_hasNextPage (toDomain : ρ → α) (date : ρ → Js.Date) (rows : List ρ) {n : Nat}
    (hn : 0 < n) (p : Nat) (ties : Typeorm.Arrangement ρ) :
    (resultAt toDomain date rows n p ties).meta.hasNextPage =
      decide (p + 1 < max 1 (pageCount rows.length n)) := by
  have hnext : (resultAt toDomain date rows n p ties).meta.hasNextPage =
      ((p + 1 : Nat) : Js.Number).lt ((rows.length : Js.Number).div n).ceil := rfl
  rw [hnext, Js.Number.ceil_div_natCast rows.length hn, Js.Number.lt_natCast, decide_eq_decide]
  omega

/-- The query that both repositories end with. -/
theorem getManyAndCount_run (rows : World → List ρ) (ties : Typeorm.Arrangement ρ)
    (date : ρ → Js.Date) (condition : ρ → Bool) (p : Nat) {n : Nat} (hn : 0 < n)
    (hend : n < bigintEnd) (w : World) :
    (getManyAndCount .exact rows ties date condition ((p * n : Nat) : Js.Number)
      (n : Js.Number)).run w =
      (if p * n < bigintEnd then
        .ok (page n p (Typeorm.orderByDesc ties date ((rows w).filter condition)),
          (((rows w).filter condition).length : Js.Number))
      else .error .database, w) := by
  have hgets : (Program.gets (fun w => (rows w).filter condition) : App (List ρ)).run w =
      (.ok ((rows w).filter condition), w) := rfl
  rw [getManyAndCount, Program.bind_run_ok hgets, Typeorm.paginate_natCast p hn hend]
  by_cases hp : p * n < bigintEnd
  · have hlength : (Typeorm.orderByDesc ties date ((rows w).filter condition)).length =
        ((rows w).filter condition).length :=
      (Typeorm.listing_orderByDesc ties date _).perm.length_eq
    have hentities : (page n p (Typeorm.orderByDesc ties date ((rows w).filter condition))).length =
        min (if n = 0 then ((rows w).filter condition).length else n)
          (((rows w).filter condition).length - p * n) := by
      rw [page, List.length_take, List.length_drop, hlength, if_neg (by omega)]
    have hadd : ∀ a b : Nat, a + b = ((rows w).filter condition).length →
        Js.Arithmetic.exact.add a b = (((rows w).filter condition).length : Js.Number) :=
      fun a b hab => hab ▸ Js.Number.add_natCast a b
    have hcount := Typeorm.lazyCount_natCast hadd hentities
    rw [if_pos hp, if_pos hp]
    refine (Program.bind_run_ok (Program.lift_run _ w)).trans ?_
    rw [hcount]
    rfl
  · rw [if_neg hp, if_neg hp]
    rfl

variable {shows : ρ → α → Prop} {toDomain : Nat → ρ → α} {date : ρ → Js.Date} {rows : List ρ}
  {n : Nat} {accepted : Bool} {S : World → Prop} {key : ρ → String} {id : α → String}
  {q : (Nat → Typeorm.Arrangement ρ) → Nat → App (PaginatedResult α)}

/-- The data of all pages shows the rows of these pages, one by one. -/
theorem forall₂_pages (hshows : ∀ p row, shows row (toDomain p row))
    (ties : Nat → Typeorm.Arrangement ρ) (k : Nat) :
    List.Forall₂ shows (pages (fun p => Typeorm.orderByDesc (ties p) date rows) n k)
      (((List.range k).map fun p => resultAt (toDomain p) date rows n p (ties p)).flatMap
        PaginatedResult.data) := by
  rw [pages, List.flatMap_map]
  refine List.rel_flatMap (R := Eq) (List.forall₂_refl _) ?_
  rintro p _ rfl
  exact List.forall₂_map_right_iff.mpr (List.forall₂_same.mpr fun row _ => hshows p row)

/-- A query that reads only what the walk leaves alone answers every page. -/
theorem answers_of_run {ctx : Option String} (hn : 0 < n)
    (hS : ∀ w tenant, S w → S (World.noting w tenant))
    (hrun : ∀ ties p w, S w → (q ties (p + 1)).run w =
      (if accepted = true ∧ p * n < bigintEnd then
        .ok (resultAt (toDomain p) date rows n p (ties (p + 1)))
      else .error .database, w.noting ctx)) (ties : Nat → Typeorm.Arrangement ρ) :
    Answers (q ties) (fun r => r.meta.hasNextPage) S
      (fun p => accepted = true ∧ p * n < bigintEnd)
      (fun p => resultAt (toDomain p) date rows n p (ties (p + 1)))
      (max 1 (pageCount rows.length n)) where
  ok p w hw hfits := ⟨w.noting ctx, by rw [hrun ties p w hw, if_pos hfits], hS w ctx hw⟩
  error p w hw hfits := ⟨.database, w.noting ctx, by rw [hrun ties p w hw, if_neg hfits]⟩
  more p := resultAt_hasNextPage _ date rows hn p _

/-- What is shown has the ids of the rows it shows. -/
theorem map_of_forall₂ (hkey : ∀ row a, shows row a → id a = key row) {visited : List ρ}
    {data : List α} (h : List.Forall₂ shows visited data) : data.map id = visited.map key := by
  induction h with
  | nil => rfl
  | cons hshows _ ih => rw [List.map_cons, List.map_cons, hkey _ _ hshows, ih]

/-- The ids shown by a walk that visits every row once are those of the rows. -/
theorem ids_of_walksOnce (hshows : ∀ p row, shows row (toDomain p row))
    (hkey : ∀ row a, shows row a → id a = key row) {ties : Nat → Typeorm.Arrangement ρ}
    {query : Nat → App (PaginatedResult α)} (hanswers : Answers query (fun r => r.meta.hasNextPage) S
      (fun p => accepted = true ∧ p * n < bigintEnd)
      (fun p => resultAt (toDomain p) date rows n p (ties (p + 1)))
      (max 1 (pageCount rows.length n))) {w : World} (hw : S w)
    (h : WalksOnce shows date rows query w) :
    (accepted = true ∧ (pageCount rows.length n - 1) * n < bigintEnd) ∧
      ((pages (fun p => Typeorm.orderByDesc (ties (p + 1)) date rows) n
        (max 1 (pageCount rows.length n))).map key).Perm (rows.map key) := by
  obtain ⟨results, w', hwalks, -, visited, hperm, -, hvisited⟩ := h
  obtain ⟨hfits, rfl⟩ := (hanswers.walks_iff (by omega) hw results).mp ⟨w', hwalks⟩
  constructor
  · exact hfits (pageCount rows.length n - 1) (by omega)
  · have hpages : List.Forall₂ shows (pages (fun p => Typeorm.orderByDesc (ties (p + 1)) date rows)
        n (max 1 (pageCount rows.length n))) _ := forall₂_pages hshows (fun p => ties (p + 1)) _
    rw [← map_of_forall₂ hkey hpages, map_of_forall₂ hkey hvisited]
    exact hperm.map key

/-- **When a walk visits every row once**: the server takes the parameters and
the last offset, and no boundary between pages parts rows of equal dates. -/
theorem walksOnce_iff (hn : 0 < n) (hnodup : (rows.map key).Nodup)
    (hshows : ∀ p row, shows row (toDomain p row)) (hkey : ∀ row a, shows row a → id a = key row)
    (hanswers : ∀ ties, Answers (q ties) (fun r => r.meta.hasNextPage) S
      (fun p => accepted = true ∧ p * n < bigintEnd)
      (fun p => resultAt (toDomain p) date rows n p (ties (p + 1)))
      (max 1 (pageCount rows.length n))) {w : World} (hw : S w) :
    (∀ ties, WalksOnce shows date rows (q ties) w) ↔
      accepted = true ∧ (pageCount rows.length n - 1) * n < bigintEnd ∧
        TieFree n (sortedKeys date rows) := by
  have hcount : rows.length ≤ max 1 (pageCount rows.length n) * n :=
    Nat.le_trans (le_pageCount_mul hn rows.length) (Nat.mul_le_mul_right n (by omega))
  constructor
  · intro h
    have hids := fun ties => ids_of_walksOnce hshows hkey (hanswers ties) hw (h ties)
    obtain ⟨hfits, -⟩ := hids fun _ => ⟨fun given => given, fun _ => .refl _⟩
    refine ⟨hfits.1, hfits.2, tieFree_of_nodup hcount fun lists hlists => ?_⟩
    -- the server may answer page `p + 1` with the listing `lists p`
    choose ties hties using fun p => Typeorm.exists_arrangement (hlists p)
    obtain ⟨-, hperm⟩ := hids fun p => ties (p - 1)
    simp only [Nat.add_sub_cancel, hties] at hperm
    exact List.Nodup.of_map key (hperm.nodup_iff.mpr hnodup)
  · rintro ⟨haccepted, hend, hfree⟩ ties
    have hlistings : ∀ p, Listing date rows (Typeorm.orderByDesc (ties (p + 1)) date rows) :=
      fun p => Typeorm.listing_orderByDesc _ _ _
    have hfits : ∀ p < max 1 (pageCount rows.length n), accepted = true ∧ p * n < bigintEnd := by
      intro p hp
      have hle : p * n ≤ (pageCount rows.length n - 1) * n := Nat.mul_le_mul_right n (by omega)
      exact ⟨haccepted, Nat.lt_of_le_of_lt hle hend⟩
    obtain ⟨w', hwalks⟩ := ((hanswers ties).walks_iff (by omega) hw _).mpr ⟨hfits, rfl⟩
    refine ⟨_, w', hwalks, ⟨pageCount rows.length n, ?_, ?_⟩, _, pages_perm hlistings hfree hcount,
      pages_sorted hlistings _ _, forall₂_pages hshows (fun p => ties (p + 1)) _⟩
    · rw [List.length_map, List.length_range]
    · intro r hr
      obtain ⟨p, -, rfl⟩ := List.mem_map.mp hr
      exact resultAt_totalPages _ date rows hn p _

/-- A limit other than zero gives a page of one row at least. -/
theorem pageSize_pos {standard maximum : Nat} (hstandard : 0 < standard) (hmaximum : 0 < maximum)
    {limit : Option Nat} (hlimit : limit ≠ some 0) : 0 < pageSize standard maximum limit := by
  have hgiven : 0 < limit.getD standard := by
    cases limit with
    | none => exact hstandard
    | some n => exact Nat.pos_of_ne_zero fun h => hlimit (congrArg some h)
  exact Nat.lt_min.mpr ⟨hgiven, hmaximum⟩

/-- A page is never too large for PostgreSQL. -/
theorem pageSize_lt_bigintEnd {standard maximum : Nat} (hmaximum : maximum < bigintEnd)
    (limit : Option Nat) : pageSize standard maximum limit < bigintEnd :=
  Nat.lt_of_le_of_lt (Nat.min_le_right _ _) hmaximum

theorem pageSize_natCast (standard maximum : Nat) (limit : Option Nat) :
    ((limit.map fun n => (n : Js.Number)).getD standard).min maximum =
      ((pageSize standard maximum limit : Nat) : Js.Number) := by
  cases limit with
  | none => exact Js.Number.min_natCast standard maximum
  | some n => exact Js.Number.min_natCast n maximum

/-- The steps both queries begin with: the tenant is known, and the numbers are
numbers. -/
theorem scopedQb_run {name : String} {ctx : Option String} {tenantId tenant : String}
    {β : Type} (hctx : Js.truthy ctx = some tenantId) (htenant : Pg.uuid tenantId = some tenant)
    (skip take : Nat) (next : String → App β) (w : World) :
    (scopedQb name ctx >>= fun tenantId =>
      Program.lift (Typeorm.checkNumbers (skip : Js.Number) (take : Js.Number)) >>= fun _ =>
        uuidParameter tenantId >>= next).run w = (next tenant).run (w.noting ctx) := by
  have hscope : (scopedQb name ctx).run w = (.ok tenantId, w.noting ctx) :=
    requireTenantId_run w hctx
  have hnumbers : (Program.lift (Typeorm.checkNumbers (skip : Js.Number) (take : Js.Number)) :
      App Unit).run (w.noting ctx) = (.ok (), w.noting ctx) := by
    rw [Typeorm.checkNumbers_natCast]
    rfl
  rw [Program.bind_run_ok hscope, Program.bind_run_ok hnumbers,
    Program.bind_run_ok (uuidParameter_run _ htenant)]

end Walks

/-! ## Audit events -/

namespace AuditEventRepository

/-- The server takes the values of a filter. -/
def AuditEventFilter.accepted (filter : AuditEventFilter) : Bool :=
  (Pg.nullable Pg.uuid (Js.truthy filter.actorId)).isSome && filter.parameters.isSome

/-- The tenant's events that meet a filter. -/
def matching (tenant : String) (filter : AuditEventFilter) (w : World) :
    List AuditEventOrmEntity :=
  w.auditEvents.rows.filter fun row => row.tenantId = tenant &&
    (Pg.nullable Pg.uuid (Js.truthy filter.actorId)).any fun actorId => filter.matches actorId row

/-- The values of a filter are refused, or select the events that meet it. -/
theorem criteria_cases (filter : AuditEventFilter) (w : World) :
    (filter.accepted = false ∧ ∀ {β : Type} (next : Option String → App β),
      (columnParameter (Js.truthy filter.actorId) >>= fun actorId =>
        written filter.parameters >>= fun _ => next actorId).run w = (.error .database, w)) ∨
    filter.accepted = true ∧ ∃ actorId,
      (∀ tenant, w.auditEvents.rows.filter (fun row =>
        row.tenantId = tenant && filter.matches actorId row) = matching tenant filter w) ∧
      ∀ {β : Type} (next : Option String → App β),
        (columnParameter (Js.truthy filter.actorId) >>= fun actorId =>
          written filter.parameters >>= fun _ => next actorId).run w = (next actorId).run w := by
  have hactor := columnParameter_nullable (Js.truthy filter.actorId) w
  cases hid : Pg.nullable Pg.uuid (Js.truthy filter.actorId) with
  | none =>
      rw [hid] at hactor
      refine .inl ⟨by simp [AuditEventFilter.accepted, hid], fun next => ?_⟩
      exact Program.bind_run_error hactor
  | some actorId =>
      rw [hid] at hactor
      have hwritten := written_run filter.parameters w
      cases hparameters : filter.parameters with
      | none =>
          rw [hparameters] at hwritten
          refine .inl ⟨by simp [AuditEventFilter.accepted, hparameters], fun next => ?_⟩
          exact (Program.bind_run_ok hactor).trans (Program.bind_run_error hwritten)
      | some u =>
          rw [hparameters] at hwritten
          refine .inr ⟨by simp [AuditEventFilter.accepted, hid, hparameters], actorId,
            fun tenant => ?_, fun next => ?_⟩
          · rw [matching, hid]
            rfl
          · exact (Program.bind_run_ok hactor).trans (Program.bind_run_ok hwritten)

theorem query_run {ctx : Option String} {tenantId tenant : String}
    (hctx : Js.truthy ctx = some tenantId) (htenant : Pg.uuid tenantId = some tenant)
    {limit : Option Nat} (hlimit : limit ≠ some 0)
    (ties : Typeorm.Arrangement AuditEventOrmEntity) (filter : AuditEventFilter) (p : Nat)
    (w : World) :
    (query ctx ties filter (pageOptions limit (p + 1))).run w =
      (if filter.accepted = true ∧ p * pageSize 50 200 limit < bigintEnd then
        .ok (resultAt toDomain AuditEventOrmEntity.occurredAt (matching tenant filter w)
          (pageSize 50 200 limit) p ties)
      else .error .database, w.noting ctx) := by
  have hsize : 0 < pageSize 50 200 limit := pageSize_pos (by decide) (by decide) hlimit
  have hend : pageSize 50 200 limit < bigintEnd := pageSize_lt_bigintEnd (by decide) limit
  have hgiven : ((limit.map fun n => (n : Js.Number)).getD 50).min 200 =
      ((pageSize 50 200 limit : Nat) : Js.Number) := pageSize_natCast 50 200 limit
  simp only [query, queryWith, Js.Arithmetic.exact_pred, Js.Arithmetic.exact_mul, pageOptions,
    Option.getD_some, hgiven, Js.Number.pred_natCast, Js.Number.mul_natCast]
  rw [scopedQb_run hctx htenant]
  rcases criteria_cases filter (w.noting ctx) with
    ⟨hrefused, hrun⟩ | ⟨haccepted, actorId, hselected, hrun⟩
  · rw [hrun, if_neg fun h => Bool.eq_false_iff.mp hrefused h.1]
  · have hmatching : (w.noting ctx).auditEvents.rows.filter (fun row =>
        row.tenantId = tenant && filter.matches actorId row) = matching tenant filter w :=
      hselected tenant
    have hread := getManyAndCount_run (fun w => w.auditEvents.rows) ties
      AuditEventOrmEntity.occurredAt
      (fun row => row.tenantId = tenant && filter.matches actorId row) p hsize hend (w.noting ctx)
    rw [hmatching] at hread
    rw [hrun]
    by_cases hoffset : p * pageSize 50 200 limit < bigintEnd
    · rw [if_pos hoffset] at hread
      rw [Program.bind_run_ok hread, if_pos ⟨haccepted, hoffset⟩]
      rfl
    · rw [if_neg hoffset] at hread
      rw [Program.bind_run_error hread, if_neg fun h => hoffset h.2]

section Walk

variable {ctx : Option String} {tenantId tenant : String} (hctx : Js.truthy ctx = some tenantId)
  (htenant : Pg.uuid tenantId = some tenant) {limit : Option Nat} (hlimit : limit ≠ some 0)
  (filter : AuditEventFilter) (w : World)

include hctx htenant hlimit

theorem answers_query (ties : Nat → Typeorm.Arrangement AuditEventOrmEntity) :
    Answers (fun page => query ctx (ties page) filter (pageOptions limit page))
      (fun r => r.meta.hasNextPage) (fun w' => w'.auditEvents = w.auditEvents)
      (fun p => filter.accepted = true ∧ p * pageSize 50 200 limit < bigintEnd)
      (fun p => resultAt toDomain AuditEventOrmEntity.occurredAt (matching tenant filter w)
        (pageSize 50 200 limit) p (ties (p + 1)))
      (max 1 (pageCount (matching tenant filter w).length (pageSize 50 200 limit))) := by
  have hkeep : ∀ w' tenantId, w'.auditEvents = w.auditEvents →
      (World.noting w' tenantId).auditEvents = w.auditEvents := fun _ _ hw' => hw'
  have hrun : ∀ (ties : Nat → Typeorm.Arrangement AuditEventOrmEntity) p w',
      w'.auditEvents = w.auditEvents →
      (query ctx (ties (p + 1)) filter (pageOptions limit (p + 1))).run w' =
        (if filter.accepted = true ∧ p * pageSize 50 200 limit < bigintEnd then
          .ok (resultAt toDomain AuditEventOrmEntity.occurredAt (matching tenant filter w)
            (pageSize 50 200 limit) p (ties (p + 1)))
        else .error .database, w'.noting ctx) := by
    intro ties p w' hw'
    have hmatching : matching tenant filter w' = matching tenant filter w := by
      rw [matching, hw', matching]
    rw [query_run hctx htenant hlimit, hmatching]
  exact answers_of_run
    (q := fun ties page => query ctx (ties page) filter (pageOptions limit page))
    (pageSize_pos (by decide) (by decide) hlimit) hkeep hrun ties

/-- When the pages of a query are walked over every event once. -/
theorem walksOnce_query :
    (∀ ties : Nat → Typeorm.Arrangement AuditEventOrmEntity,
      WalksOnce (fun row event => toDomain row = event) AuditEventOrmEntity.occurredAt
        (matching tenant filter w)
        (fun page => query ctx (ties page) filter (pageOptions limit page)) w) ↔
      filter.accepted = true ∧
        (pageCount (matching tenant filter w).length (pageSize 50 200 limit) - 1) *
          pageSize 50 200 limit < bigintEnd ∧
        TieFree (pageSize 50 200 limit)
          (sortedKeys AuditEventOrmEntity.occurredAt (matching tenant filter w)) := by
  have hnodup : ((matching tenant filter w).map AuditEventOrmEntity.id).Nodup :=
    w.auditEvents.nodup.sublist (List.filter_sublist.map _)
  have hid : ∀ row event, toDomain row = event → event.auditEventId = row.id := by
    rintro row _ rfl
    rfl
  exact walksOnce_iff (pageSize_pos (by decide) (by decide) hlimit) hnodup
    (fun _ row => Eq.refl (toDomain row)) hid (answers_query hctx htenant hlimit filter w) rfl

end Walk

end AuditEventRepository

/-! ## Workflow executions -/

namespace WorkflowExecutionRepository

/-- The tenant's executions of a status. -/
def matching (tenant : String) (status : Option WorkflowExecutionStatus) (w : World) :
    List WorkflowExecutionOrmEntity :=
  w.workflowExecutions.rows.filter fun row => row.tenantId = tenant && status.all (row.status = ·)

/-- The column the executions are ordered by, which the database sets. -/
def createdAt (row : WorkflowExecutionOrmEntity) : Js.Date := row.createdAt.getD 0

theorem findMany_run {ctx : Option String} {tenantId tenant : String}
    (hctx : Js.truthy ctx = some tenantId) (htenant : Pg.uuid tenantId = some tenant)
    {limit : Option Nat} (hlimit : limit ≠ some 0)
    (ties : Typeorm.Arrangement WorkflowExecutionOrmEntity) (loadedAt : Js.Date)
    (status : Option WorkflowExecutionStatus) (p : Nat) (w : World) :
    (findMany ctx ties loadedAt status (pageOptions limit (p + 1))).run w =
      (if true = true ∧ p * pageSize 20 100 limit < bigintEnd then
        .ok (resultAt (toDomain loadedAt) createdAt (matching tenant status w)
          (pageSize 20 100 limit) p ties)
      else .error .database, w.noting ctx) := by
  have hsize : 0 < pageSize 20 100 limit := pageSize_pos (by decide) (by decide) hlimit
  have hend : pageSize 20 100 limit < bigintEnd := pageSize_lt_bigintEnd (by decide) limit
  have hgiven : ((limit.map fun n => (n : Js.Number)).getD 20).min 100 =
      ((pageSize 20 100 limit : Nat) : Js.Number) := pageSize_natCast 20 100 limit
  simp only [findMany, pageOptions, Option.getD_some, hgiven, Js.Number.pred_natCast,
    Js.Number.mul_natCast]
  rw [scopedQb_run hctx htenant]
  have hread := getManyAndCount_run (fun w => w.workflowExecutions.rows) ties createdAt
    (fun row => row.tenantId = tenant && status.all (row.status = ·)) p hsize hend (w.noting ctx)
  have hmatching : (w.noting ctx).workflowExecutions.rows.filter (fun row =>
      row.tenantId = tenant && status.all (row.status = ·)) = matching tenant status w := rfl
  rw [hmatching] at hread
  simp only [true_and]
  by_cases hoffset : p * pageSize 20 100 limit < bigintEnd
  · rw [if_pos hoffset] at hread
    rw [if_pos hoffset]
    refine (Program.bind_run_ok hread).trans ?_
    rfl
  · rw [if_neg hoffset] at hread
    rw [if_neg hoffset]
    exact Program.bind_run_error hread

section Walk

variable {ctx : Option String} {tenantId tenant : String} (hctx : Js.truthy ctx = some tenantId)
  (htenant : Pg.uuid tenantId = some tenant) {limit : Option Nat} (hlimit : limit ≠ some 0)
  (loadedAt : Nat → Js.Date) (status : Option WorkflowExecutionStatus) (w : World)

include hctx htenant hlimit

theorem answers_findMany (ties : Nat → Typeorm.Arrangement WorkflowExecutionOrmEntity) :
    Answers (fun page => findMany ctx (ties page) (loadedAt page) status (pageOptions limit page))
      (fun r => r.meta.hasNextPage) (fun w' => w'.workflowExecutions = w.workflowExecutions)
      (fun p => true = true ∧ p * pageSize 20 100 limit < bigintEnd)
      (fun p => resultAt (toDomain (loadedAt (p + 1))) createdAt (matching tenant status w)
        (pageSize 20 100 limit) p (ties (p + 1)))
      (max 1 (pageCount (matching tenant status w).length (pageSize 20 100 limit))) := by
  have hkeep : ∀ w' tenantId, w'.workflowExecutions = w.workflowExecutions →
      (World.noting w' tenantId).workflowExecutions = w.workflowExecutions := fun _ _ hw' => hw'
  have hrun : ∀ (ties : Nat → Typeorm.Arrangement WorkflowExecutionOrmEntity) p w',
      w'.workflowExecutions = w.workflowExecutions →
      (findMany ctx (ties (p + 1)) (loadedAt (p + 1)) status (pageOptions limit (p + 1))).run w' =
        (if true = true ∧ p * pageSize 20 100 limit < bigintEnd then
          .ok (resultAt (toDomain (loadedAt (p + 1))) createdAt (matching tenant status w)
            (pageSize 20 100 limit) p (ties (p + 1)))
        else .error .database, w'.noting ctx) := by
    intro ties p w' hw'
    have hmatching : matching tenant status w' = matching tenant status w := by
      rw [matching, hw', matching]
    rw [findMany_run hctx htenant hlimit, hmatching]
  exact answers_of_run
    (q := fun ties page => findMany ctx (ties page) (loadedAt page) status (pageOptions limit page))
    (pageSize_pos (by decide) (by decide) hlimit) hkeep hrun ties

/-- When the pages of `findMany` are walked over every execution once.  An
entity is built at some instant, which fills in for a missing date. -/
theorem walksOnce_findMany :
    (∀ ties : Nat → Typeorm.Arrangement WorkflowExecutionOrmEntity,
      WalksOnce (fun row execution => ∃ loadedAt, toDomain loadedAt row = execution) createdAt
        (matching tenant status w)
        (fun page => findMany ctx (ties page) (loadedAt page) status (pageOptions limit page)) w) ↔
      (pageCount (matching tenant status w).length (pageSize 20 100 limit) - 1) *
          pageSize 20 100 limit < bigintEnd ∧
        TieFree (pageSize 20 100 limit) (sortedKeys createdAt (matching tenant status w)) := by
  have hnodup : ((matching tenant status w).map WorkflowExecutionOrmEntity.id).Nodup :=
    w.workflowExecutions.nodup.sublist (List.filter_sublist.map _)
  have hid : ∀ row execution, (∃ loadedAt, toDomain loadedAt row = execution) →
      execution.executionId = row.id := by
    rintro row _ ⟨loadedAt, rfl⟩
    rfl
  have hiff := walksOnce_iff (pageSize_pos (by decide) (by decide) hlimit) hnodup
    (fun p row => ⟨loadedAt (p + 1), rfl⟩) hid
    (answers_findMany hctx htenant hlimit loadedAt status w) rfl
  rw [hiff, eq_self_iff_true, true_and]

end Walk

end WorkflowExecutionRepository

/-! ## Both -/

/- The two repositories differ in the column they order by and the values the server has
to accept, and the theorem takes these from the two sections above. -/

/-- **When walking the pages visits every row once**: the server takes the
values of the filter and the offset of the last page, and no two rows of equal
dates stand on both sides of a boundary between pages. -/
theorem pages_visited_once_iff {ctx : Option String} {tenantId tenant : String}
    (hctx : Js.truthy ctx = some tenantId) (htenant : Pg.uuid tenantId = some tenant)
    {limit : Option Nat} (hlimit : limit ≠ some 0) (w : World) :
    (∀ filter : AuditEventRepository.AuditEventFilter,
      (∀ ties : Nat → Typeorm.Arrangement AuditEventOrmEntity,
        WalksOnce (fun row event => AuditEventRepository.toDomain row = event)
          AuditEventOrmEntity.occurredAt (AuditEventRepository.matching tenant filter w)
          (fun page => AuditEventRepository.query ctx (ties page) filter (pageOptions limit page))
          w) ↔
        filter.accepted = true ∧
          (pageCount (AuditEventRepository.matching tenant filter w).length
            (pageSize 50 200 limit) - 1) * pageSize 50 200 limit < bigintEnd ∧
          TieFree (pageSize 50 200 limit) (sortedKeys AuditEventOrmEntity.occurredAt
            (AuditEventRepository.matching tenant filter w))) ∧
    ∀ (status : Option WorkflowExecutionStatus) (loadedAt : Nat → Js.Date),
      (∀ ties : Nat → Typeorm.Arrangement WorkflowExecutionOrmEntity,
        WalksOnce (fun row execution => ∃ loadedAt,
            WorkflowExecutionRepository.toDomain loadedAt row = execution)
          WorkflowExecutionRepository.createdAt
          (WorkflowExecutionRepository.matching tenant status w)
          (fun page => WorkflowExecutionRepository.findMany ctx (ties page) (loadedAt page) status
            (pageOptions limit page)) w) ↔
        (pageCount (WorkflowExecutionRepository.matching tenant status w).length
            (pageSize 20 100 limit) - 1) * pageSize 20 100 limit < bigintEnd ∧
          TieFree (pageSize 20 100 limit) (sortedKeys WorkflowExecutionRepository.createdAt
            (WorkflowExecutionRepository.matching tenant status w)) :=
  ⟨fun filter => AuditEventRepository.walksOnce_query hctx htenant hlimit filter w,
    fun status loadedAt =>
      WorkflowExecutionRepository.walksOnce_findMany hctx htenant hlimit loadedAt status w⟩

/-! ## Two events -/

/-- A row of a tenant's sign-in. -/
def signIn (id : String) (occurredAt : Js.Date) : AuditEventOrmEntity :=
  { id, tenantId := Pg.uuidOf 3, actorId := some (Pg.uuidOf 2), actorType := .user
    action := "user.login", resourceType := "user", resourceId := Pg.uuidOf 2, outcome := .success
    metadata := [], correlationId := "c-1", ipAddress := none, userAgent := none, occurredAt }

theorem twoEvents_nodup (occurredAt : Js.Date) :
    ([signIn (Pg.uuidOf 8) occurredAt, signIn (Pg.uuidOf 9) 20].map AuditEventOrmEntity.id).Nodup := by
  have hids : [Pg.uuidOf 8, Pg.uuidOf 9].Nodup := by decide +kernel
  exact hids

/-- Two events are on record: one of the instant given and one of the instant 20. -/
def twoEvents (occurredAt : Js.Date) : World :=
  { emptyWorld with
    auditEvents :=
      ⟨[signIn (Pg.uuidOf 8) occurredAt, signIn (Pg.uuidOf 9) 20], twoEvents_nodup occurredAt⟩ }

/-- No criteria. -/
def allEvents : AuditEventRepository.AuditEventFilter := ⟨none, none, none, none, none, none, none⟩

/-- Where the instants differ, a page for each is enough; where they are one, it
is not. -/
theorem two_instants_visited_once :
    ((∀ ties : Nat → Typeorm.Arrangement AuditEventOrmEntity,
      WalksOnce (fun row event => AuditEventRepository.toDomain row = event)
        AuditEventOrmEntity.occurredAt
        (AuditEventRepository.matching (Pg.uuidOf 3) allEvents (twoEvents 10))
        (fun page => AuditEventRepository.query (some (Pg.uuidOf 3)) (ties page) allEvents
          (pageOptions (some 1) page)) (twoEvents 10)) ∧
    ∀ ties : Nat → Typeorm.Arrangement WorkflowExecutionOrmEntity,
      WalksOnce (fun row execution => ∃ loadedAt,
          WorkflowExecutionRepository.toDomain loadedAt row = execution)
        WorkflowExecutionRepository.createdAt
        (WorkflowExecutionRepository.matching (Pg.uuidOf 3) none (twoEvents 10))
        (fun page => WorkflowExecutionRepository.findMany (some (Pg.uuidOf 3)) (ties page) 0 none
          (pageOptions none page)) (twoEvents 10)) ∧
    ¬ ∀ ties : Nat → Typeorm.Arrangement AuditEventOrmEntity,
      WalksOnce (fun row event => AuditEventRepository.toDomain row = event)
        AuditEventOrmEntity.occurredAt
        (AuditEventRepository.matching (Pg.uuidOf 3) allEvents (twoEvents 20))
        (fun page => AuditEventRepository.query (some (Pg.uuidOf 3)) (ties page) allEvents
          (pageOptions (some 1) page)) (twoEvents 20) := by
  have hctx : Js.truthy (some (Pg.uuidOf 3)) = some (Pg.uuidOf 3) := by decide
  have htenant : Pg.uuid (Pg.uuidOf 3) = some (Pg.uuidOf 3) := by decide
  have hone : some 1 ≠ some 0 := by decide
  have hkeys : sortedKeys AuditEventOrmEntity.occurredAt
      (AuditEventRepository.matching (Pg.uuidOf 3) allEvents (twoEvents 10)) = [20, 10] := by
    decide +kernel
  have hkeys' : sortedKeys AuditEventOrmEntity.occurredAt
      (AuditEventRepository.matching (Pg.uuidOf 3) allEvents (twoEvents 20)) = [20, 20] := by
    decide +kernel
  have hfree : TieFree 1 ([20, 10] : List Js.Date) := by
    intro p hp hlt
    obtain rfl : p = 1 := by
      simp only [List.length_cons, List.length_nil] at hlt
      omega
    decide
  have hnone : TieFree 20 ([] : List Js.Date) := fun p _ hlt => absurd hlt (Nat.not_lt_zero _)
  refine ⟨⟨?_, ?_⟩, fun h => ?_⟩
  · refine ((pages_visited_once_iff hctx htenant hone (twoEvents 10)).1 allEvents).mpr
      ⟨by decide, by decide +kernel, ?_⟩
    rw [hkeys]
    exact hfree
  · exact ((pages_visited_once_iff hctx htenant (by decide) (twoEvents 10)).2 none fun _ => 0).mpr
      ⟨by decide, hnone⟩
  · obtain ⟨-, -, htied⟩ :=
      ((pages_visited_once_iff hctx htenant hone (twoEvents 20)).1 allEvents).mp h
    rw [hkeys'] at htied
    exact htied 1 (by decide) (by decide) rfl

/-- The server breaks ties one way on odd pages and the other way on even ones. -/
def alternating (page : Nat) : Typeorm.Arrangement AuditEventOrmEntity where
  arrange rows := if page % 2 = 1 then rows else rows.reverse
  perm rows := by
    split
    · exact .refl _
    · exact List.reverse_perm rows

/-- **An event is shown twice and another never**: two events of one instant, a
page for each. -/
theorem tied_event_shown_twice :
    ¬ WalksOnce (fun row event => AuditEventRepository.toDomain row = event)
      AuditEventOrmEntity.occurredAt
      (AuditEventRepository.matching (Pg.uuidOf 3) allEvents (twoEvents 20))
      (fun page => AuditEventRepository.query (some (Pg.uuidOf 3)) (alternating page) allEvents
        (pageOptions (some 1) page)) (twoEvents 20) := by
  intro h
  have hid : ∀ row event, AuditEventRepository.toDomain row = event →
      event.auditEventId = row.id := by
    rintro row _ rfl
    rfl
  have hctx : Js.truthy (some (Pg.uuidOf 3)) = some (Pg.uuidOf 3) := by decide
  have htenant : Pg.uuid (Pg.uuidOf 3) = some (Pg.uuidOf 3) := by decide
  have hanswers := AuditEventRepository.answers_query hctx htenant (by decide : some 1 ≠ some 0)
    allEvents (twoEvents 20) alternating
  obtain ⟨-, hperm⟩ := ids_of_walksOnce (fun _ row => Eq.refl (AuditEventRepository.toDomain row))
    hid hanswers rfl h
  revert hperm
  decide +kernel

end Atlas
