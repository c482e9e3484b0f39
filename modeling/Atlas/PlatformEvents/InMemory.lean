import Atlas.Events
import Atlas.Lib.LiveLoop
import Mathlib.Logic.Function.Basic

/-!
# Atlas.PlatformEvents.InMemory

`InMemoryEventBus`, whose map holds arrays.

`subscribe` pushes onto the array of its event type and `unsubscribe` puts a new
one in its place, so the arrays are kept apart from the map here: `publish` goes
through the array it found, whatever the map holds by then.
-/

namespace Atlas

open StoreKit

/-- The state of the bus: the arrays made so far, and which of them the map has
under an event type. -/
structure InMemoryEventBus (η : Type) where
  arrays : List (List η)
  handlers : String → Option Nat
  allocated : ∀ {eventType r}, handlers eventType = some r → r < arrays.length
  unshared : ∀ {t t' r}, handlers t = some r → handlers t' = some r → t = t'

/-- A call of `subscribe` or of `unsubscribe`. -/
inductive Registration (η : Type) where
  | subscribe (eventType : String) (handler : η)
  | unsubscribe (eventType handlerName : String)
deriving DecidableEq

namespace Registration

variable {η : Type}

def eventType : Registration η → String
  | .subscribe eventType _ => eventType
  | .unsubscribe eventType _ => eventType

def subscribes : Registration η → Bool
  | .subscribe .. => true
  | .unsubscribe .. => false

end Registration

/-- What the bus meets while a call of `handler.handle` is under way: the calls
made of it, and the message of the error the handler throws, if it does. -/
structure Handling (η : Type) where
  registrations : List (Registration η)
  thrown : Option String

namespace InMemoryEventBus

variable {η : Type}

def empty : InMemoryEventBus η where
  arrays := []
  handlers := fun _ => none
  allocated := by
    intro eventType r h
    cases h
  unshared := by
    intro t t' r h
    cases h

/-- The array behind a reference. -/
def array (bus : InMemoryEventBus η) (r : Nat) : List η := bus.arrays[r]?.getD []

/-- `this.handlers.get(eventType) ?? []`. -/
def existing (bus : InMemoryEventBus η) (eventType : String) : List η :=
  ((bus.handlers eventType).map bus.array).getD []

/-- A new array, set under an event type. -/
def set (bus : InMemoryEventBus η) (eventType : String) (handlers : List η) :
    InMemoryEventBus η where
  arrays := bus.arrays ++ [handlers]
  handlers := Function.update bus.handlers eventType (some bus.arrays.length)
  allocated := by
    intro t r h
    rw [List.length_append, List.length_singleton]
    by_cases ht : t = eventType
    · rw [ht, Function.update_self] at h
      obtain rfl := Option.some.inj h
      omega
    · rw [Function.update_of_ne ht] at h
      have := bus.allocated h
      omega
  unshared := by
    intro t t' r h h'
    by_cases ht : t = eventType
    · by_cases ht' : t' = eventType
      · rw [ht, ht']
      · rw [ht, Function.update_self] at h
        rw [Function.update_of_ne ht'] at h'
        obtain rfl := Option.some.inj h
        exact absurd (bus.allocated h') (Nat.lt_irrefl _)
    · rw [Function.update_of_ne ht] at h
      by_cases ht' : t' = eventType
      · rw [ht', Function.update_self] at h'
        obtain rfl := Option.some.inj h'
        exact absurd (bus.allocated h) (Nat.lt_irrefl _)
      · rw [Function.update_of_ne ht'] at h'
        exact bus.unshared h h'

/-- `existing.push(handler)` on an array the map has. -/
def push (bus : InMemoryEventBus η) (r : Nat) (handler : η) : InMemoryEventBus η where
  arrays := bus.arrays.modify r (· ++ [handler])
  handlers := bus.handlers
  allocated := by
    intro eventType r' h
    rw [List.length_modify]
    exact bus.allocated h
  unshared := bus.unshared

def subscribe (bus : InMemoryEventBus η) (eventType : String) (handler : η) :
    InMemoryEventBus η :=
  match bus.handlers eventType with
  | some r => bus.push r handler
  | none => bus.set eventType [handler]

variable (handlerName : η → String)

def unsubscribe (bus : InMemoryEventBus η) (eventType name : String) : InMemoryEventBus η :=
  bus.set eventType ((bus.existing eventType).filter fun h => handlerName h ≠ name)

def register (bus : InMemoryEventBus η) : Registration η → InMemoryEventBus η
  | .subscribe eventType handler => bus.subscribe eventType handler
  | .unsubscribe eventType name => bus.unsubscribe handlerName eventType name

/-! ## The arrays -/

/-- A key that is set refers to a new array. -/
theorem handlers_set_self (bus : InMemoryEventBus η) (eventType : String) (handlers : List η) :
    (bus.set eventType handlers).handlers eventType = some bus.arrays.length :=
  Function.update_self ..

/-- The other keys refer to what they did. -/
theorem handlers_set_of_ne (bus : InMemoryEventBus η) {eventType t : String} (handlers : List η)
    (h : t ≠ eventType) : (bus.set eventType handlers).handlers t = bus.handlers t :=
  Function.update_of_ne h ..

/-- An array that was there is only under the event types it was under before, and no
longer under the one that is set. -/
theorem handlers_of_set {bus : InMemoryEventBus η} {eventType t : String} {handlers : List η}
    {r : Nat} (hr : r < bus.arrays.length) (h : (bus.set eventType handlers).handlers t = some r) :
    t ≠ eventType ∧ bus.handlers t = some r := by
  by_cases heq : t = eventType
  · rw [heq, handlers_set_self] at h
    obtain rfl := Option.some.inj h
    exact absurd hr (Nat.lt_irrefl _)
  · rw [handlers_set_of_ne bus handlers heq] at h
    exact ⟨heq, h⟩

/-- Setting a key makes an array. -/
theorem length_set (bus : InMemoryEventBus η) (eventType : String) (handlers : List η) :
    (bus.set eventType handlers).arrays.length = bus.arrays.length + 1 := by
  rw [set, List.length_append, List.length_singleton]

/-- Pushing makes no new array. -/
theorem length_push (bus : InMemoryEventBus η) (r : Nat) (handler : η) :
    (bus.push r handler).arrays.length = bus.arrays.length := by
  simp [push]

/-- The arrays there were before stay as they are. -/
theorem array_set_of_lt (bus : InMemoryEventBus η) (eventType : String) (handlers : List η) {r : Nat}
    (hr : r < bus.arrays.length) : (bus.set eventType handlers).array r = bus.array r := by
  rw [array, set, List.getElem?_append_left hr, array]

/-- The new array holds the handlers it was set to. -/
theorem array_set_self (bus : InMemoryEventBus η) (eventType : String) (handlers : List η) :
    (bus.set eventType handlers).array bus.arrays.length = handlers := by
  simp [array, set]

/-- A push adds at the end. -/
theorem array_push_self (bus : InMemoryEventBus η) (handler : η) {r : Nat}
    (hr : r < bus.arrays.length) : (bus.push r handler).array r = bus.array r ++ [handler] := by
  simp [array, push, hr]

/-- The other arrays stay as they are. -/
theorem array_push_of_ne (bus : InMemoryEventBus η) (handler : η) {r r' : Nat} (h : r ≠ r') :
    (bus.push r handler).array r' = bus.array r' := by
  simp [array, push, h]

/-- A call sets a new array under its event type, or pushes onto the one there. -/
theorem register_cases (bus : InMemoryEventBus η) (a : Registration η) :
    (∃ handlers, bus.register handlerName a = bus.set a.eventType handlers) ∨
    ∃ r handler, bus.handlers a.eventType = some r ∧
      bus.register handlerName a = bus.push r handler := by
  cases a with
  | unsubscribe eventType name => exact .inl ⟨_, rfl⟩
  | subscribe eventType handler =>
      cases hr : bus.handlers eventType with
      | none =>
          refine .inl ⟨[handler], ?_⟩
          rw [register, subscribe, hr]
          rfl
      | some r =>
          refine .inr ⟨r, handler, hr, ?_⟩
          rw [register, subscribe, hr]

/-- No call takes anything out of an array. -/
theorem array_prefix_register (bus : InMemoryEventBus η) (a : Registration η) (r : Nat) :
    bus.array r <+: (bus.register handlerName a).array r := by
  rcases register_cases handlerName bus a with ⟨handlers, heq⟩ | ⟨r', handler, hr', heq⟩
  · rw [heq]
    by_cases hr : r < bus.arrays.length
    · rw [array_set_of_lt bus _ handlers hr]
    · have hnil : bus.array r = [] := by
        rw [array, List.getElem?_eq_none (Nat.le_of_not_lt hr)]
        rfl
      rw [hnil]
      exact List.nil_prefix
  · rw [heq]
    by_cases hr : r' = r
    · subst hr
      rw [array_push_self bus handler (bus.allocated hr')]
      exact List.prefix_append _ _
    · rw [array_push_of_ne bus handler hr]

/-- Registrations only add to an array at its end. -/
theorem array_prefix_foldl (bus : InMemoryEventBus η) (as : List (Registration η)) (r : Nat) :
    bus.array r <+: (as.foldl (register handlerName) bus).array r :=
  items_prefix_foldl (fun bus => bus.array r) (register handlerName)
    (fun bus a => array_prefix_register handlerName bus a r) bus as

/-! ## What is registered -/

/-- The handlers registered under each event type. -/
abbrev Registry (η : Type) := String → List η

def Registry.register (registry : Registry η) : Registration η → Registry η
  | .subscribe eventType handler =>
    Function.update registry eventType (registry eventType ++ [handler])
  | .unsubscribe eventType name =>
    Function.update registry eventType
      ((registry eventType).filter fun h => handlerName h ≠ name)

/-- What a history of calls leaves registered. -/
def registered (history : List (Registration η)) : Registry η :=
  history.foldl (Registry.register handlerName) fun _ => []

/-- The bus after a history of calls. -/
def after (history : List (Registration η)) : InMemoryEventBus η :=
  history.foldl (register handlerName) empty

/-- The handlers of an event type are those of its array. -/
theorem existing_of_some {bus : InMemoryEventBus η} {eventType : String} {r : Nat}
    (h : bus.handlers eventType = some r) : bus.existing eventType = bus.array r := by
  rw [existing, h]
  rfl

/-- An event type without an array has none. -/
theorem existing_of_none {bus : InMemoryEventBus η} {eventType : String}
    (h : bus.handlers eventType = none) : bus.existing eventType = [] := by
  rw [existing, h]
  rfl

/-- Setting a key changes the handlers of one event type. -/
theorem existing_set (bus : InMemoryEventBus η) (eventType : String) (handlers : List η) :
    (bus.set eventType handlers).existing = Function.update bus.existing eventType handlers := by
  funext t
  by_cases ht : t = eventType
  · subst ht
    rw [existing_of_some (handlers_set_self bus t handlers), array_set_self, Function.update_self]
  · have hmap := handlers_set_of_ne bus handlers ht
    rw [Function.update_of_ne ht]
    cases hr : bus.handlers t with
    | none => rw [existing_of_none hr, existing_of_none (hmap.trans hr)]
    | some r =>
        rw [existing_of_some hr, existing_of_some (hmap.trans hr),
          array_set_of_lt bus _ _ (bus.allocated hr)]

/-- **A subscription adds a handler** for one event type. -/
theorem existing_subscribe (bus : InMemoryEventBus η) (eventType : String) (handler : η) :
    (bus.subscribe eventType handler).existing =
      Function.update bus.existing eventType (bus.existing eventType ++ [handler]) := by
  rw [subscribe]
  cases hr : bus.handlers eventType with
  | none =>
      rw [existing_of_none hr]
      exact existing_set bus eventType [handler]
  | some r =>
      funext t
      have hmap : (bus.push r handler).handlers = bus.handlers := rfl
      by_cases ht : t = eventType
      · subst ht
        rw [Function.update_self, existing_of_some hr, existing_of_some (hmap ▸ hr),
          array_push_self bus handler (bus.allocated hr)]
      · rw [Function.update_of_ne ht]
        cases hr' : bus.handlers t with
        | none => rw [existing_of_none hr', existing_of_none (hmap ▸ hr')]
        | some r' =>
            have hne : r ≠ r' := fun h => ht (bus.unshared hr' (h ▸ hr))
            rw [existing_of_some hr', existing_of_some (hmap ▸ hr'),
              array_push_of_ne bus handler hne]

/-- A call does to the bus what it does to the registry. -/
theorem existing_register (bus : InMemoryEventBus η) (a : Registration η) :
    (bus.register handlerName a).existing = Registry.register handlerName bus.existing a := by
  cases a with
  | subscribe eventType handler => exact existing_subscribe bus eventType handler
  | unsubscribe eventType name => exact existing_set bus eventType _

/-- **The bus holds the handlers that its history leaves registered.** -/
theorem existing_after (history : List (Registration η)) :
    (after handlerName history).existing = registered handlerName history := by
  have hrun : ∀ (bus : InMemoryEventBus η) (registry : Registry η), bus.existing = registry →
      (history.foldl (register handlerName) bus).existing =
        history.foldl (Registry.register handlerName) registry := by
    induction history with
    | nil => exact fun _ _ h => h
    | cons a history ih =>
        intro bus registry h
        refine ih _ _ ?_
        rw [existing_register, h]
  exact hrun empty _ rfl

/-! ## Dispatching -/

/-- How far a dispatch has come: the handlers called, and the lines logged as
errors. -/
structure Dispatch (η : Type) where
  bus : InMemoryEventBus η
  calls : List η
  errors : List String

variable (handle : Nat → η → Handling η)

/-- One turn of the loop.  How a handler behaves may depend on how many were
called before it. -/
def call (event : TenantAwareEvent) (d : Dispatch η) (handler : η) : Dispatch η where
  bus := (handle d.calls.length handler).registrations.foldl (register handlerName) d.bus
  calls := d.calls ++ [handler]
  errors := d.errors ++ (handle d.calls.length handler).thrown.toList.map fun message =>
    s!"Handler '{handlerName handler}' failed for event '{event.eventType}': {message}"

/-- `publish`, unless `fuel` turns are too few for it. -/
def publish (fuel : Nat) (bus : InMemoryEventBus η) (event : TenantAwareEvent) :
    Option (Dispatch η) :=
  match bus.handlers event.eventType with
  | none => some { bus, calls := [], errors := [] }
  | some r =>
    if bus.array r = [] then some { bus, calls := [], errors := [] }
    else liveLoop (fun d => d.bus.array r) (call handlerName handle event) fuel 0
      { bus, calls := [], errors := [] }

/-! ## What a dispatch changes -/

/-- The first of the calls that concerns an event type, if there is one, is not
a subscription. -/
def ReplacedFirst (eventType : String) (as : List (Registration η)) : Prop :=
  ∀ a, as.find? (fun a => a.eventType = eventType) = some a → a.subscribes = false

/-- What the map no longer has does not change. -/
theorem array_foldl_of_detached {bus : InMemoryEventBus η} {r : Nat} (hr : r < bus.arrays.length)
    (hdetached : ∀ t, bus.handlers t ≠ some r) (as : List (Registration η)) :
    (as.foldl (register handlerName) bus).array r = bus.array r := by
  induction as generalizing bus with
  | nil => rfl
  | cons a as ih =>
      have hstep : r < (bus.register handlerName a).arrays.length ∧
          (∀ t, (bus.register handlerName a).handlers t ≠ some r) ∧
          (bus.register handlerName a).array r = bus.array r := by
        rcases register_cases handlerName bus a with ⟨handlers, heq⟩ | ⟨r', handler, hr', heq⟩
        · rw [heq]
          refine ⟨?_, fun t ht => hdetached t (handlers_of_set hr ht).2,
            array_set_of_lt bus _ handlers hr⟩
          rw [length_set]
          omega
        · rw [heq]
          have hne : r' ≠ r := fun h => hdetached a.eventType (h ▸ hr')
          refine ⟨?_, hdetached, array_push_of_ne bus handler hne⟩
          rw [length_push]
          exact hr
      obtain ⟨hr', hdetached', hsame⟩ := hstep
      rw [List.foldl_cons, ih hr' hdetached', hsame]

/-- A call that concerns another event type leaves an array in its place as it
is. -/
theorem register_of_ne {bus : InMemoryEventBus η} {eventType : String} {r : Nat}
    (hr : bus.handlers eventType = some r) {a : Registration η} (ha : a.eventType ≠ eventType) :
    (bus.register handlerName a).handlers eventType = some r ∧
      (bus.register handlerName a).array r = bus.array r := by
  rcases register_cases handlerName bus a with ⟨handlers, heq⟩ | ⟨r', handler, hr', heq⟩
  · rw [heq]
    exact ⟨(handlers_set_of_ne bus handlers ha.symm).trans hr,
      array_set_of_lt bus _ handlers (bus.allocated hr)⟩
  · rw [heq]
    have hne : r' ≠ r := fun h => ha (bus.unshared (h ▸ hr') hr)
    exact ⟨hr, array_push_of_ne bus handler hne⟩

/-- **An array in its place stays as it is exactly when it is replaced before
anything is pushed onto it.** -/
theorem array_foldl_iff {bus : InMemoryEventBus η} {eventType : String} {r : Nat}
    (hr : bus.handlers eventType = some r) (as : List (Registration η)) :
    (as.foldl (register handlerName) bus).array r = bus.array r ↔ ReplacedFirst eventType as := by
  induction as generalizing bus with
  | nil => exact iff_of_true rfl fun a ha => by cases ha
  | cons a as ih =>
      by_cases ha : a.eventType = eventType
      · have hfind : (a :: as).find? (fun a => a.eventType = eventType) = some a := by
          simp [ha]
        have hfirst : ReplacedFirst eventType (a :: as) ↔ a.subscribes = false := by
          rw [ReplacedFirst, hfind]
          simp
        rw [hfirst, List.foldl_cons]
        cases a with
        | subscribe t handler =>
            obtain rfl : t = eventType := ha
            have hpush : bus.register handlerName (.subscribe t handler) = bus.push r handler := by
              rw [register, subscribe, hr]
            have hlonger := (array_prefix_foldl handlerName (bus.push r handler) as r).length_le
            rw [array_push_self bus handler (bus.allocated hr), List.length_append,
              List.length_singleton] at hlonger
            rw [hpush]
            refine iff_of_false (fun h => ?_) (fun h => by cases h)
            rw [h] at hlonger
            omega
        | unsubscribe t name =>
            obtain rfl : t = eventType := ha
            have hlt := bus.allocated hr
            have hdetached : ∀ t', (bus.unsubscribe handlerName t name).handlers t' ≠ some r := by
              intro t' ht'
              obtain ⟨hne, hold⟩ := handlers_of_set hlt ht'
              exact hne (bus.unshared hold hr)
            have hlonger : r < (bus.unsubscribe handlerName t name).arrays.length := by
              rw [unsubscribe, length_set]
              omega
            have hsame := array_foldl_of_detached handlerName hlonger hdetached as
            refine iff_of_true ?_ rfl
            exact hsame.trans (array_set_of_lt bus _ _ hlt)
      · obtain ⟨hr', hsame⟩ := register_of_ne handlerName hr ha
        have hskip : ReplacedFirst eventType (a :: as) ↔ ReplacedFirst eventType as := by
          rw [ReplacedFirst, ReplacedFirst, List.find?_cons_of_neg (by simpa using ha)]
        rw [List.foldl_cons, hskip, ← ih hr', hsame]

/-! ## What a dispatch calls -/

/-- The calls made of the bus while handlers are called, from the `n`-th call
on. -/
def handlings : Nat → List η → List (Registration η)
  | _, [] => []
  | n, handler :: handlers =>
    (handle n handler).registrations ++ handlings (n + 1) handlers

/-- A dispatch leaves the bus with the registrations of the handlers it called. -/
theorem foldl_call_bus (event : TenantAwareEvent) (d : Dispatch η) (handlers : List η) :
    (handlers.foldl (call handlerName handle event) d).bus =
      (handlings handle d.calls.length handlers).foldl (register handlerName) d.bus := by
  induction handlers generalizing d with
  | nil => rfl
  | cons handler handlers ih =>
      have hcount : (call handlerName handle event d handler).calls.length = d.calls.length + 1 := by
        rw [call, List.length_append, List.length_singleton]
      rw [List.foldl_cons, ih, hcount, handlings, List.foldl_append]
      rfl

/-- `publish` returns, having called these handlers in this order and no
others. -/
def Calls (bus : InMemoryEventBus η) (event : TenantAwareEvent) (handlers : List η) : Prop :=
  ∃ fuel d, publish handlerName handle fuel bus event = some d ∧ d.calls = handlers

theorem calls_existing_iff (bus : InMemoryEventBus η) (event : TenantAwareEvent) :
    Calls handlerName handle bus event (bus.existing event.eventType) ↔
      ReplacedFirst event.eventType (handlings handle 0 (bus.existing event.eventType)) := by
  have hnothing : ReplacedFirst event.eventType (handlings handle 0 ([] : List η)) :=
    fun a ha => by cases ha
  cases hr : bus.handlers event.eventType with
  | none =>
      rw [existing_of_none hr]
      refine iff_of_true ⟨0, ⟨bus, [], []⟩, ?_, rfl⟩ hnothing
      rw [publish, hr]
  | some r =>
      rw [existing_of_some hr]
      by_cases hempty : bus.array r = []
      · rw [hempty]
        refine iff_of_true ⟨0, ⟨bus, [], []⟩, ?_, rfl⟩ hnothing
        simp only [publish, hr, if_pos hempty]
      · have hpublish : ∀ fuel, publish handlerName handle fuel bus event =
            liveLoop (fun d => d.bus.array r) (call handlerName handle event) fuel 0
              ⟨bus, [], []⟩ := by
          intro fuel
          simp only [publish, hr, if_neg hempty]
        have hsnapshot := liveLoop_snapshot_iff (fun d : Dispatch η => d.bus.array r)
          (call handlerName handle event) Dispatch.calls (fun _ _ => rfl)
          (fun d handler => array_prefix_foldl handlerName d.bus _ r) ⟨bus, [], []⟩
        have hcalls : Calls handlerName handle bus event (bus.array r) ↔
            ∃ fuel d, liveLoop (fun d => d.bus.array r) (call handlerName handle event) fuel 0
              ⟨bus, [], []⟩ = some d ∧ d.calls = [] ++ bus.array r := by
          simp only [Calls, hpublish, List.nil_append]
        rw [hcalls, hsnapshot, foldl_call_bus]
        exact array_foldl_iff handlerName hr _

/-- A `tenant.created` event. -/
def tenantCreated : TenantAwareEvent where
  eventId := "e1"
  eventType := TENANT_CREATED
  eventVersion := 1
  tenantId := "t1"
  correlationId := "c1"
  actorId := none
  causationId := none
  traceId := none
  sourceService := "atlas-saas-platform"
  sourceVersion := none
  occurredAt := "2024-05-23T21:33:20.000Z"
  payload := [("name", .str "Acme")]
  isReplay := none
  replayId := none
  replayedAt := none
  replayReason := none
  replaySourceEventId := none

/-- Handlers known by their names, of which one subscribes another. -/
def recruiting (_ : Nat) (handler : String) : Handling String where
  registrations := if handler = "welcome" then [.subscribe TENANT_CREATED "provision"] else []
  thrown := none

/-- **`publish` does not return where every call subscribes one handler more.** -/
theorem publish_never_returns {bus : InMemoryEventBus η} {event : TenantAwareEvent}
    (hsubscribes : ∀ n handler, ∃ h,
      (handle n handler).registrations = [.subscribe event.eventType h])
    (hexisting : bus.existing event.eventType ≠ []) (fuel : Nat) :
    publish handlerName handle fuel bus event = none := by
  cases hr : bus.handlers event.eventType with
  | none => exact absurd (existing_of_none hr) hexisting
  | some r =>
      rw [existing_of_some hr] at hexisting
      have hloop : ∀ (n i : Nat) (d : Dispatch η), d.bus.handlers event.eventType = some r →
          i < (d.bus.array r).length →
          liveLoop (fun d => d.bus.array r) (call handlerName handle event) n i d = none := by
        intro n
        induction n with
        | zero => exact fun _ _ _ _ => rfl
        | succ n ih =>
            intro i d hd hi
            obtain ⟨h, hh⟩ := hsubscribes d.calls.length (d.bus.array r)[i]
            have hbus : (call handlerName handle event d (d.bus.array r)[i]).bus =
                d.bus.push r h := by
              rw [call, hh, List.foldl_cons, List.foldl_nil, register, subscribe, hd]
            rw [liveLoop, List.getElem?_eq_getElem hi]
            refine ih (i + 1) _ ?_ ?_
            · rw [hbus]
              exact hd
            · rw [hbus, array_push_self d.bus h (d.bus.allocated hd), List.length_append,
                List.length_singleton]
              omega
      simp only [publish, hr, if_neg hexisting]
      exact hloop fuel 0 _ hr (List.length_pos_iff.mpr hexisting)

end InMemoryEventBus

end Atlas
