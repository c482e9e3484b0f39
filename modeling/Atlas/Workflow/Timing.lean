import Atlas.Workflow.Lifecycle

/-!
# Atlas.Workflow.Timing

The three times of an execution — `startedAt`, `completedAt`, `durationMs` —
under any calls of its methods and a clock that does not go back.

`complete` and `cancel` write `completedAt` and, next to it, the duration;
`fail` writes `completedAt` alone.
-/

namespace Atlas

open StoreKit

namespace WorkflowExecution

/-- What the clock reads during the call. -/
def Call.now : Call → Js.Date
  | .start now => now
  | .complete now _ => now
  | .fail now _ => now
  | .cancel now _ => now

/-- An execution that is over has its end, and the time between start and end
if it was started; one that is not over has neither. -/
structure Timed (e : WorkflowExecutionEntity) : Prop where
  ended : e.completedAt.isSome = WorkflowExecutionEntity.isTerminal e.status
  measured : e.durationMs.isSome =
    (WorkflowExecutionEntity.isTerminal e.status && e.startedAt.isSome)
  duration : ∀ startedAt completedAt durationMs, e.startedAt = some startedAt →
    e.completedAt = some completedAt → e.durationMs = some durationMs →
    durationMs = completedAt - startedAt ∧ 0 ≤ durationMs

/-- The calls that keep the times together.  `given` is the start the execution
was created with: nothing says that it has passed. -/
def KeepsTime (given : Option Js.Date) (e : WorkflowExecutionEntity) : Call → Prop
  | .start _ => True
  | .complete now _ => ∀ startedAt, given = some startedAt → e.startedAt = some startedAt →
      startedAt ≤ now
  | .fail now _ => e.startedAt = none ∨
      WorkflowExecutionEntity.isTerminal e.status = true ∧ e.completedAt = some now
  | .cancel now _ => WorkflowExecutionEntity.isTerminal e.status = false →
      ∀ startedAt, given = some startedAt → e.startedAt = some startedAt → startedAt ≤ now

/-- The clock does not go back in the calls, and a start that was not given has
passed when they begin. -/
structure OnTime (given : Option Js.Date) (e : WorkflowExecutionEntity) (calls : List Call) :
    Prop where
  ordered : (calls.map Call.now).Pairwise (· ≤ ·)
  started : ∀ startedAt, e.startedAt = some startedAt →
    given = some startedAt ∨ ∀ call ∈ calls, startedAt ≤ call.now

/-! ## One call -/

/-- Only `start` writes the start. -/
theorem startedAt_run (e : WorkflowExecutionEntity) (call : Call) :
    (call.run e).2.startedAt = e.startedAt ∨
      ∃ now, call = .start now ∧ (call.run e).2.startedAt = some now := by
  cases call with
  | start now =>
      rw [show Call.run e (.start now) = _ from start_run now e]
      by_cases hpending : e.status = .pending
      · rw [if_pos hpending]
        exact .inr ⟨now, rfl, rfl⟩
      · rw [if_neg hpending]
        exact .inl rfl
  | complete now output => exact .inl rfl
  | fail now errorMessage => exact .inl rfl
  | cancel now reason =>
      rw [show Call.run e (.cancel now reason) = _ from cancel_run now reason e]
      by_cases hterminal : WorkflowExecutionEntity.isTerminal e.status = true
      · simp [WorkflowExecutionEntity.cancel, hterminal]
      · simp [WorkflowExecutionEntity.cancel, hterminal]

theorem onTime_run {given : Option Js.Date} {e : WorkflowExecutionEntity} {call : Call}
    {calls : List Call} (h : OnTime given e (call :: calls)) :
    OnTime given (call.run e).2 calls := by
  obtain ⟨hfirst, hordered⟩ := List.pairwise_cons.mp h.ordered
  refine ⟨hordered, fun startedAt hstarted => ?_⟩
  rcases startedAt_run e call with hsame | ⟨now, rfl, hnow⟩
  · rw [hsame] at hstarted
    rcases h.started startedAt hstarted with hgiven | hpassed
    · exact .inl hgiven
    · exact .inr fun later hlater => hpassed later (List.mem_cons_of_mem _ hlater)
  · rw [hnow] at hstarted
    obtain rfl := Option.some.inj hstarted
    exact .inr fun later hlater => hfirst later.now (List.mem_map_of_mem hlater)

/-- The end and the duration, as `complete` and `cancel` write them, go together
if and only if the start has passed. -/
theorem timed_measured {e e' : WorkflowExecutionEntity} {now : Js.Date} (h : Timed e)
    (hover : WorkflowExecutionEntity.isTerminal e'.status = true)
    (hstarted : e'.startedAt = e.startedAt) (hended : e'.completedAt = some now)
    (hmeasured : e'.durationMs = match e.startedAt with
      | some startedAt => some (now - startedAt)
      | none => e.durationMs) :
    Timed e' ↔ ∀ startedAt, e.startedAt = some startedAt → startedAt ≤ now := by
  cases hstart : e.startedAt with
  | none =>
      -- the duration stays, and there was none
      have hnone : e.durationMs = none := by simpa [hstart] using h.measured
      rw [hstart] at hstarted hmeasured
      simp only [hnone] at hmeasured
      constructor
      · intro _ startedAt hsome
        cases hsome
      · intro _
        exact ⟨by simp [hended, hover], by simp [hmeasured, hstarted], by simp [hstarted]⟩
  | some s =>
      rw [hstart] at hstarted hmeasured
      constructor
      · intro h' startedAt hsome
        obtain rfl := Option.some.inj hsome
        obtain ⟨-, hpositive⟩ := h'.duration s now (now - s) hstarted hended hmeasured
        exact Int.sub_nonneg.mp hpositive
      · intro hpassed
        refine ⟨by simp [hended, hover], by simp [hmeasured, hstarted, hover], ?_⟩
        intro startedAt completedAt durationMs hs hc hd
        obtain rfl := Option.some.inj (hstarted.symm.trans hs)
        obtain rfl := Option.some.inj (hended.symm.trans hc)
        obtain rfl := Option.some.inj (hmeasured.symm.trans hd)
        exact ⟨rfl, Int.sub_nonneg.mpr (hpassed s rfl)⟩

/-- The start has passed where a given one has. -/
theorem OnTime.passed_iff {given : Option Js.Date} {e : WorkflowExecutionEntity} {call : Call}
    {calls : List Call} (h : OnTime given e (call :: calls)) :
    (∀ startedAt, e.startedAt = some startedAt → startedAt ≤ call.now) ↔
      ∀ startedAt, given = some startedAt → e.startedAt = some startedAt →
        startedAt ≤ call.now := by
  constructor
  · intro hpassed startedAt _ hstarted
    exact hpassed startedAt hstarted
  · intro hpassed startedAt hstarted
    rcases h.started startedAt hstarted with hgiven | hclock
    · exact hpassed startedAt hgiven hstarted
    · exact hclock call List.mem_cons_self

/-- `start` touches neither the end nor the duration. -/
theorem timed_start {e : WorkflowExecutionEntity} (now : Js.Date) (h : Timed e) :
    Timed (Call.run e (.start now)).2 := by
  rw [show Call.run e (.start now) = _ from start_run now e]
  by_cases hpending : e.status = .pending
  · have hended : e.completedAt = none := by
      simpa [hpending, WorkflowExecutionEntity.isTerminal] using h.ended
    have hmeasured : e.durationMs = none := by
      simpa [hpending, WorkflowExecutionEntity.isTerminal] using h.measured
    rw [if_pos hpending]
    exact ⟨by simp [hended, WorkflowExecutionEntity.isTerminal],
      by simp [hmeasured, WorkflowExecutionEntity.isTerminal], by simp [hmeasured]⟩
  · rw [if_neg hpending]
    exact h

/-- A later end without a new duration, as `fail` writes it, fits only where there
is no start, or where the end is the old one. -/
theorem timed_moved {e e' : WorkflowExecutionEntity} {now : Js.Date} (h : Timed e)
    (hover : WorkflowExecutionEntity.isTerminal e'.status = true)
    (hstarted : e'.startedAt = e.startedAt) (hended : e'.completedAt = some now)
    (hmeasured : e'.durationMs = e.durationMs) :
    Timed e' ↔ (e.startedAt = none ∨
      WorkflowExecutionEntity.isTerminal e.status = true ∧ e.completedAt = some now) := by
  have hbefore := h.measured
  cases hstart : e.startedAt with
  | none =>
      have hnone : e.durationMs = none := by simpa [hstart] using hbefore
      rw [hstart] at hstarted
      rw [hnone] at hmeasured
      simp only [true_or, iff_true]
      exact ⟨by simp [hended, hover], by simp [hmeasured, hstarted], by simp [hstarted]⟩
  | some s =>
      rw [hstart] at hstarted
      rw [hstart, Option.isSome_some, Bool.and_true] at hbefore
      constructor
      · intro h'
        -- a duration is there, so the execution was over and its end is the same
        have hsome : e.durationMs.isSome = true := by
          rw [← hmeasured, h'.measured, hover, hstarted]
          rfl
        have hterminal := hbefore.symm.trans hsome
        obtain ⟨d, hd⟩ := Option.isSome_iff_exists.mp hsome
        obtain ⟨c, hc⟩ := Option.isSome_iff_exists.mp (h.ended.trans hterminal)
        obtain ⟨hold, -⟩ := h.duration s c d hstart hc hd
        obtain ⟨hnew, -⟩ := h'.duration s now d hstarted hended (hmeasured.trans hd)
        have hsame : c = now := Int.sub_left_inj s |>.mp (hold.symm.trans hnew)
        exact .inr ⟨hterminal, hsame ▸ hc⟩
      · rintro (hnone | ⟨hterminal, hnow⟩)
        · cases hnone
        · rw [hterminal] at hbefore
          refine ⟨by simp [hended, hover], by simp [hmeasured, hbefore, hover, hstarted], ?_⟩
          intro startedAt completedAt durationMs hs hc hd
          obtain rfl := Option.some.inj (hended.symm.trans hc)
          exact h.duration startedAt now durationMs (hstart.trans (hstarted.symm.trans hs)) hnow
            (hmeasured.symm.trans hd)

/-- **One call**: which calls keep the times together. -/
theorem timed_run_iff {given : Option Js.Date} {e : WorkflowExecutionEntity} {call : Call}
    {calls : List Call} (hclock : OnTime given e (call :: calls)) (h : Timed e) :
    Timed (call.run e).2 ↔ KeepsTime given e call := by
  cases call with
  | start now => exact ⟨fun _ => trivial, fun _ => timed_start now h⟩
  | complete now output =>
      have htimed : Timed (Call.run e (.complete now output)).2 ↔ _ :=
        timed_measured h rfl rfl rfl rfl
      exact htimed.trans hclock.passed_iff
  | fail now errorMessage => exact timed_moved h rfl rfl rfl rfl
  | cancel now reason =>
      rw [show Call.run e (.cancel now reason) = _ from cancel_run now reason e,
        WorkflowExecutionEntity.cancel, KeepsTime]
      by_cases hterminal : WorkflowExecutionEntity.isTerminal e.status = true
      · simp [hterminal, h]
      · rw [if_neg hterminal, Bool.eq_false_iff.mpr hterminal, eq_self, true_imp_iff]
        refine Iff.trans ?_ hclock.passed_iff
        exact timed_measured h rfl rfl rfl rfl

/-! ## Every run -/

/-- **The times of an execution** go together in every state, whatever the
calls, exactly where none of `fail` hits a started execution and no end or
duration is given from the first. -/
theorem timed_iff (generateId : String) (now : Js.Date) (params : WorkflowExecutionParams)
    (calls : List Call) (hclock : (calls.map Call.now).Pairwise (· ≤ ·)) :
    (∀ before rest, calls = before ++ rest →
        Timed (after (create generateId now params) before)) ↔
      params.completedAt = none ∧ params.durationMs = none ∧
      ∀ before call rest, calls = before ++ call :: rest →
        KeepsTime params.startedAt (after (create generateId now params) before) call := by
  have hontime : OnTime params.startedAt (create generateId now params) calls :=
    ⟨hclock, fun _ hstarted => .inl hstarted⟩
  have hcreate : Timed (create generateId now params) ↔
      params.completedAt = none ∧ params.durationMs = none := by
    constructor
    · intro h
      exact ⟨by simpa [create, WorkflowExecutionEntity.isTerminal] using h.ended,
        by simpa [create, WorkflowExecutionEntity.isTerminal] using h.measured⟩
    · intro ⟨hended, hmeasured⟩
      exact ⟨by simp [create, hended, WorkflowExecutionEntity.isTerminal],
        by simp [create, hmeasured, WorkflowExecutionEntity.isTerminal],
        by simp [create, hmeasured]⟩
  rw [← always_iff, always_iff_each (fun _ _ _ => onTime_run) (fun _ _ _ => timed_run_iff) hontime,
    hcreate, each_iff, and_assoc]

/-- An execution that is started and then cancelled. -/
theorem timed_started_cancelled :
    Timed (after (create (Pg.uuidOf 4) 0 sampleParams) [.start 1, .cancel 3 none]) := by
  refine (timed_iff (Pg.uuidOf 4) 0 sampleParams [.start 1, .cancel 3 none] (by decide)).mpr
    ⟨rfl, rfl, ?_⟩ _ [] (by simp)
  rw [← each_iff]
  refine ⟨trivial, ?_, trivial⟩
  intro _ _ hgiven
  cases hgiven

/-- An execution that fails has no duration. -/
theorem failed_without_duration :
    ¬ ∀ (generateId : String) (now : Js.Date) (params : WorkflowExecutionParams)
      (calls : List Call), (calls.map Call.now).Pairwise (· ≤ ·) → ∀ before rest,
      calls = before ++ rest → Timed (after (create generateId now params) before) := by
  intro hclaim
  have htimed := hclaim (Pg.uuidOf 4) 0 sampleParams [.start 1, .fail 2 "timeout"] (by decide)
    [.start 1, .fail 2 "timeout"] [] rfl
  exact absurd htimed.measured (by decide)

end WorkflowExecution

end Atlas
