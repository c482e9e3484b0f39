import Atlas.Redis.Bus

/-!
# Atlas.Redis.Delivery

What becomes of an entry of a subscribed stream.

An entry the group has delivered lives on in the batch of one pass and nowhere
else: `XREADGROUP … >` never returns it again.  Whatever drops a batch drops
its entries — an exception in the middle of it, a lost reply, a restart.
`Permitted` excludes exactly these steps, and under it every entry is accounted
for in every state (`delivery_accounted`).
-/

namespace Atlas.RedisStreamsEventBus

open StoreKit

/-! ## The condition -/

/-- Nothing is lost when the pass goes away here. -/
def Phase.nothingLeft : Phase → Bool
  | .idle => true
  | .batch [] => true
  | .dispatch _ _ [] false [] => true
  | _ => false

/-- The move of a pass does not make it drop a message it has not dealt with. -/
def PermittedMove (bus : Bus) (s : System) : Pass → Action → Bool
  | _, .read .lost => false
  | ⟨(eventType, _) :: _, .batch (message :: _)⟩, .next =>
      match (s.streams (bus.streamKey eventType)).entries[message]? with
      | some fields => (deserializeEvent bus.parse fields).isSome
      | none => true
  | ⟨_, .deadLetter _ _ _ _ left messages⟩, .deadLetter _ .lost => left = [] ∧ messages = []
  | _, .deadLetter _ .refused => false
  | ⟨_, .dispatch _ _ _ true messages⟩, .finish .lost => messages = []
  | ⟨_, .dispatch _ _ _ true _⟩, .finish .refused => false
  | _, _ => true

/-- No reply of a read is lost, every message read can be decoded, every dead
letter is written and every acknowledgement accepted (a lost answer to the last
command of a batch does no harm), and no restart hits a batch under way. -/
def Permitted (bus : Bus) (s : System) : Step → Prop
  | .restart => ∀ p ∈ s.passes, p.phase.nothingLeft = true
  | .pass i action => ∀ p ∈ s.passes[i]?, PermittedMove bus s p action = true
  | _ => True

instance (bus : Bus) (s : System) : (a : Step) → Decidable (Permitted bus s a)
  | .restart => inferInstanceAs (Decidable (∀ p ∈ s.passes, p.phase.nothingLeft = true))
  | .pass i action =>
      inferInstanceAs (Decidable (∀ p ∈ s.passes[i]?, PermittedMove bus s p action = true))
  | .publish _ _ => .isTrue trivial
  | .tick => .isTrue trivial

/-! ## What a pass can do -/

/- `Move` has one constructor for each thing a pass can do, with its guards.  The
invariants below split on it and never unfold the loop again. -/

/-- A move of a pass, guards included. -/
inductive Move (bus : Bus) (s : System) : Pass → Action → System → Pass → Prop
  | skipped {t types} : Move bus s ⟨(t, []) :: types, .idle⟩ .skip s ⟨types, .idle⟩
  | readRefused {t h hs types} :
      Move bus s ⟨(t, h :: hs) :: types, .idle⟩ (.read .refused) s ⟨types, .idle⟩
  | readDone {t h hs types} (hn : (s.streams (bus.streamKey t)).available ≠ 0) :
      Move bus s ⟨(t, h :: hs) :: types, .idle⟩ (.read .done)
        (s.deliver (bus.streamKey t) (s.streams (bus.streamKey t)).available)
        ⟨(t, h :: hs) :: types, .batch (List.range' (s.streams (bus.streamKey t)).delivered
          (s.streams (bus.streamKey t)).available)⟩
  | readLost {t h hs types} :
      Move bus s ⟨(t, h :: hs) :: types, .idle⟩ (.read .lost)
        (s.deliver (bus.streamKey t) (s.streams (bus.streamKey t)).available) ⟨types, .idle⟩
  | batchDone {x types} : Move bus s ⟨x :: types, .batch []⟩ .next s ⟨types, .idle⟩
  | undecodable {t hs types m ms fields}
      (hf : (s.streams (bus.streamKey t)).entries[m]? = some fields)
      (hd : deserializeEvent bus.parse fields = none) :
      Move bus s ⟨(t, hs) :: types, .batch (m :: ms)⟩ .next s ⟨types, .idle⟩
  | decoded {t hs types m ms fields event}
      (hf : (s.streams (bus.streamKey t)).entries[m]? = some fields)
      (hd : deserializeEvent bus.parse fields = some event) :
      Move bus s ⟨(t, hs) :: types, .batch (m :: ms)⟩ .next s
        ⟨(t, hs) :: types, .dispatch m event hs true ms⟩
  | succeeded {t hs types m event name left all ms} :
      Move bus s ⟨(t, hs) :: types, .dispatch m event (name :: left) all ms⟩ (.handle none)
        { s with calls := s.calls ++ [⟨t, m, name, none⟩] }
        ⟨(t, hs) :: types, .dispatch m event left all ms⟩
  | failed {t hs types m event name left all ms e} :
      Move bus s ⟨(t, hs) :: types, .dispatch m event (name :: left) all ms⟩ (.handle (some e))
        { s with calls := s.calls ++ [⟨t, m, name, some e⟩] }
        ⟨(t, hs) :: types, .deadLetter m event name e left ms⟩
  | copied {t hs types m event name e left ms now} :
      Move bus s ⟨(t, hs) :: types, .deadLetter m event name e left ms⟩ (.deadLetter now .done)
        { s.xadd bus.dlqKey (deadLetterFields event name e now) with
          deadLetters := s.deadLetters ++ [⟨t, m, name, deadLetterFields event name e now⟩] }
        ⟨(t, hs) :: types, .dispatch m event left false ms⟩
  | copyLost {t hs types m event name e left ms now} :
      Move bus s ⟨(t, hs) :: types, .deadLetter m event name e left ms⟩ (.deadLetter now .lost)
        { s.xadd bus.dlqKey (deadLetterFields event name e now) with
          deadLetters := s.deadLetters ++ [⟨t, m, name, deadLetterFields event name e now⟩] }
        ⟨types, .idle⟩
  | copyRefused {x types m event name e left ms now} :
      Move bus s ⟨x :: types, .deadLetter m event name e left ms⟩ (.deadLetter now .refused)
        s ⟨types, .idle⟩
  | acked {t hs types m event ms} :
      Move bus s ⟨(t, hs) :: types, .dispatch m event [] true ms⟩ (.finish .done)
        (s.xack (bus.streamKey t) m) ⟨(t, hs) :: types, .batch ms⟩
  | ackLost {t hs types m event ms} :
      Move bus s ⟨(t, hs) :: types, .dispatch m event [] true ms⟩ (.finish .lost)
        (s.xack (bus.streamKey t) m) ⟨types, .idle⟩
  | ackRefused {x types m event ms} :
      Move bus s ⟨x :: types, .dispatch m event [] true ms⟩ (.finish .refused) s ⟨types, .idle⟩
  | unacked {t hs types m event ms reply} :
      Move bus s ⟨(t, hs) :: types, .dispatch m event [] false ms⟩ (.finish reply) s
        ⟨(t, hs) :: types, .batch ms⟩

/-- **A step of a pass is one of the moves.** -/
theorem move_of_passStep {bus : Bus} {s s' : System} {p p' : Pass} {a : Action}
    (h : passStep bus s p a = some (s', p')) : Move bus s p a s' p' := by
  unfold passStep at h
  split at h
  · cases h
    exact .skipped
  · next reply =>
      cases reply with
      | refused =>
          cases h
          exact .readRefused
      | done =>
          simp only at h
          split at h
          · contradiction
          · next hn =>
              cases h
              exact .readDone hn
      | lost =>
          simp only at h
          split at h
          · contradiction
          · cases h
            exact .readLost
  · cases h
    exact .batchDone
  · split at h
    · contradiction
    · next fields hf =>
        split at h
        · next hd =>
            cases h
            exact .undecodable hf hd
        · next event hd =>
            cases h
            exact .decoded hf hd
  · next error =>
      cases error with
      | none =>
          cases h
          exact .succeeded
      | some e =>
          cases h
          exact .failed
  · next reply =>
      cases reply with
      | done =>
          cases h
          exact .copied
      | refused =>
          cases h
          exact .copyRefused
      | lost =>
          cases h
          exact .copyLost
  · next reply =>
      cases reply with
      | done =>
          cases h
          exact .acked
      | refused =>
          cases h
          exact .ackRefused
      | lost =>
          cases h
          exact .ackLost
  · cases h
    exact .unacked
  · contradiction

/-! ## What has become of a message -/

/- Where a message is, is a matter of the phase of the pass that holds it: its handlers up
to `j` were called, those that failed are copied, and the rest is still to come. -/

/-- The handler calls made for a message, in order. -/
def callsFor (s : System) (eventType : String) (message : Nat) : List HandlerCall :=
  s.calls.filter fun c => c.eventType = eventType ∧ c.message = message

/-- The message was decoded to this event. -/
def Decoded (bus : Bus) (s : System) (eventType : String) (message : Nat)
    (event : DeserializedEvent) : Prop :=
  ∃ fields, (s.streams (bus.streamKey eventType)).entries[message]? = some fields ∧
    deserializeEvent bus.parse fields = some event

/-- The dead-letter stream has the message's event, copied for this handler. -/
def Copied (bus : Bus) (s : System) (eventType : String) (message : Nat) (handlerName : String) :
    Prop :=
  ∃ event error now, Decoded bus s eventType message event ∧
    ⟨eventType, message, handlerName, deadLetterFields event handlerName error now⟩ ∈
      s.deadLetters ∧
    deadLetterFields event handlerName error now ∈ (s.streams bus.dlqKey).entries

/-- Every handler was called once, every failure is in the dead-letter stream,
and the message is acknowledged if there was none. -/
structure Handled (bus : Bus) (s : System) (t : String) (hs : List String) (m : Nat) : Prop where
  called : (callsFor s t m).map HandlerCall.handlerName = hs
  copied : ∀ c ∈ callsFor s t m, c.error ≠ none → Copied bus s t m c.handlerName
  acked : (∀ c ∈ callsFor s t m, c.error = none) → m ∈ (s.streams (bus.streamKey t)).acked

/-- Where a message is while a pass dispatches it. -/
def PhaseInv (bus : Bus) (s : System) (t : String) (hs : List String) : Phase → Prop
  | .idle => True
  | .batch ms => ∀ m ∈ ms, callsFor s t m = []
  | .dispatch m event left all ms =>
      Decoded bus s t m event ∧
      (callsFor s t m).map HandlerCall.handlerName ++ left = hs ∧
      (all = true ↔ ∀ c ∈ callsFor s t m, c.error = none) ∧
      (∀ c ∈ callsFor s t m, c.error ≠ none → Copied bus s t m c.handlerName) ∧
      ∀ m' ∈ ms, callsFor s t m' = []
  | .deadLetter m event name _ left ms =>
      Decoded bus s t m event ∧
      (callsFor s t m).map HandlerCall.handlerName ++ left = hs ∧
      (∃ c ∈ callsFor s t m, c.error ≠ none) ∧
      (∀ c ∈ callsFor s t m, c.error ≠ none →
        c.handlerName = name ∨ Copied bus s t m c.handlerName) ∧
      ∀ m' ∈ ms, callsFor s t m' = []

/-- The messages a phase still holds. -/
def Phase.messages : Phase → List Nat
  | .idle => []
  | .batch ms => ms
  | .dispatch m _ _ _ ms => m :: ms
  | .deadLetter m _ _ _ _ ms => m :: ms

/-- The messages a pass still holds, with their event type. -/
def Pass.held : Pass → List (String × Nat)
  | ⟨[], _⟩ => []
  | ⟨(t, _) :: _, phase⟩ => phase.messages.map fun m => (t, m)

structure PassInv (bus : Bus) (s : System) (p : Pass) : Prop where
  types : ∀ x ∈ p.types, x ∈ bus.handlers
  phase : ∀ t hs types, p.types = (t, hs) :: types → PhaseInv bus s t hs p.phase

structure Inv (bus : Bus) (s : System) : Prop where
  distinct : (s.passes.flatMap Pass.held).Nodup
  passes : ∀ p ∈ s.passes, PassInv bus s p
  held : ∀ p ∈ s.passes, ∀ x ∈ p.held, x.2 < (s.streams (bus.streamKey x.1)).delivered
  fresh : ∀ c ∈ s.calls, c.message < (s.streams (bus.streamKey c.eventType)).delivered
  handled : ∀ x ∈ bus.handlers, x.2 ≠ [] →
    ∀ m < (s.streams (bus.streamKey x.1)).delivered,
      (∃ p ∈ s.passes, (x.1, m) ∈ p.held) ∨ Handled bus s x.1 x.2 m

/-- In the beginning nothing has been delivered. -/
theorem inv_init (bus : Bus) : Inv bus .init where
  distinct := List.nodup_nil
  passes p hp := by simp [System.init] at hp
  held p hp := by simp [System.init] at hp
  fresh c hc := by simp [System.init] at hc
  handled x _ _ m hm := by simp [System.init] at hm

/-! ## The server only grows -/

/- What a pass knows of its messages it knows from the streams, and no step takes anything
from these.  So what holds of one pass outlasts the moves of all others. -/

structure Grows (s s' : System) : Prop where
  entries : ∀ (key : String) (m : Nat) (fields : List String),
    (s.streams key).entries[m]? = some fields → (s'.streams key).entries[m]? = some fields
  acked : ∀ (key : String), ∀ m ∈ (s.streams key).acked, m ∈ (s'.streams key).acked
  deadLetters : ∀ d ∈ s.deadLetters, d ∈ s'.deadLetters

/-- What changes neither a stream nor the dead letters grows. -/
theorem grows_of_eq {s s' : System} (hstreams : s'.streams = s.streams)
    (hletters : s'.deadLetters = s.deadLetters) : Grows s s' where
  entries key m fields h := by
    rw [hstreams]
    exact h
  acked key m h := by
    rw [hstreams]
    exact h
  deadLetters d h := by
    rw [hletters]
    exact h

/-- Where nothing happens, everything grows. -/
theorem grows_refl (s : System) : Grows s s := grows_of_eq rfl rfl

/-- A call leaves the streams as they are. -/
theorem grows_called (s : System) (c : HandlerCall) : Grows s { s with calls := s.calls ++ [c] } :=
  grows_of_eq rfl rfl

theorem grows_onStream {s : System} {key : String} {f : Stream → Stream}
    (hentries : ∀ (m : Nat) (fields : List String), (s.streams key).entries[m]? = some fields →
      (f (s.streams key)).entries[m]? = some fields)
    (hacked : ∀ m ∈ (s.streams key).acked, m ∈ (f (s.streams key)).acked) :
    Grows s (s.onStream key f) where
  entries k m fields h := by
    by_cases hk : k = key
    · subst hk
      simpa [System.onStream] using hentries m fields h
    · simpa [System.onStream, Function.update_of_ne hk] using h
  acked k m h := by
    by_cases hk : k = key
    · subst hk
      simpa [System.onStream] using hacked m h
    · simpa [System.onStream, Function.update_of_ne hk] using h
  deadLetters d h := h

/-- An entry is added at the end of its stream. -/
theorem grows_xadd (s : System) (key : String) (fields : List String) :
    Grows s (s.xadd key fields) := by
  apply grows_onStream
  · intro m fields' h
    have hm : m < (s.streams key).entries.length := (List.getElem?_eq_some_iff.mp h).1
    rw [List.getElem?_append_left hm]
    exact h
  · exact fun m h => h

/-- A delivery changes no entry. -/
theorem grows_deliver (s : System) (key : String) (n : Nat) : Grows s (s.deliver key n) :=
  grows_onStream (fun _ _ h => h) fun _ h => h

/-- An acknowledgement changes no entry. -/
theorem grows_xack (s : System) (key : String) (m : Nat) : Grows s (s.xack key m) :=
  grows_onStream (fun _ _ h => h) fun _ h => List.mem_append_left _ h

variable {bus : Bus} {s s' : System}

/-- An entry stays in its stream. -/
theorem Grows.entry (h : Grows s s') {key : String} {fields : List String}
    (hf : fields ∈ (s.streams key).entries) : fields ∈ (s'.streams key).entries := by
  obtain ⟨m, hm⟩ := List.mem_iff_getElem?.mp hf
  exact List.mem_iff_getElem?.mpr ⟨m, h.entries key m fields hm⟩

/-- What an entry is decoded to does not change. -/
theorem Decoded.grows {t : String} {m : Nat} {event : DeserializedEvent} (hg : Grows s s')
    (h : Decoded bus s t m event) : Decoded bus s' t m event := by
  obtain ⟨fields, hf, hd⟩ := h
  exact ⟨fields, hg.entries _ _ _ hf, hd⟩

/-- A copy stays among the dead letters. -/
theorem Copied.grows {t name : String} {m : Nat} (hg : Grows s s') (h : Copied bus s t m name) :
    Copied bus s' t m name := by
  obtain ⟨event, error, now, hdecoded, hletter, hentry⟩ := h
  exact ⟨event, error, now, hdecoded.grows hg, hg.deadLetters _ hletter, hg.entry hentry⟩

/-- What has been handled stays handled, as long as it is not called for again. -/
theorem Handled.grows {t : String} {hs : List String} {m : Nat} (hg : Grows s s')
    (hcalls : callsFor s' t m = callsFor s t m) (h : Handled bus s t hs m) :
    Handled bus s' t hs m where
  called := hcalls ▸ h.called
  copied c hc he := (h.copied c (hcalls ▸ hc) he).grows hg
  acked hall := hg.acked _ _ (h.acked fun c hc => hall c (hcalls.symm ▸ hc))

/-- What a pass knows of its messages outlasts what others do. -/
theorem PhaseInv.grows {t : String} {hs : List String} {phase : Phase} (hg : Grows s s')
    (hcalls : ∀ m ∈ phase.messages, callsFor s' t m = callsFor s t m)
    (h : PhaseInv bus s t hs phase) : PhaseInv bus s' t hs phase := by
  cases phase with
  | idle => trivial
  | batch ms => exact fun m hm => (hcalls m hm).trans (h m hm)
  | dispatch m event left all ms =>
      obtain ⟨hdecoded, hcalled, hall, hcopied, hrest⟩ := h
      have hm : callsFor s' t m = callsFor s t m := hcalls m List.mem_cons_self
      have hrest' : ∀ m' ∈ ms, callsFor s' t m' = [] := fun m' hm' =>
        (hcalls m' (List.mem_cons_of_mem _ hm')).trans (hrest m' hm')
      simp only [PhaseInv, hm]
      exact ⟨hdecoded.grows hg, hcalled, hall, fun c hc he => (hcopied c hc he).grows hg, hrest'⟩
  | deadLetter m event name e left ms =>
      obtain ⟨hdecoded, hcalled, hsome, hcopied, hrest⟩ := h
      have hm : callsFor s' t m = callsFor s t m := hcalls m List.mem_cons_self
      have hrest' : ∀ m' ∈ ms, callsFor s' t m' = [] := fun m' hm' =>
        (hcalls m' (List.mem_cons_of_mem _ hm')).trans (hrest m' hm')
      simp only [PhaseInv, hm]
      exact ⟨hdecoded.grows hg, hcalled, hsome,
        fun c hc he => (hcopied c hc he).imp_right (Copied.grows hg), hrest'⟩

/-- A pass goes on beside the others: nobody else calls for what it holds. -/
theorem PassInv.grows {p : Pass} (hg : Grows s s')
    (hcalls : ∀ x ∈ p.held, callsFor s' x.1 x.2 = callsFor s x.1 x.2) (h : PassInv bus s p) :
    PassInv bus s' p where
  types := h.types
  phase t hs types ht := by
    apply (h.phase t hs types ht).grows hg
    intro m hm
    apply hcalls (t, m)
    obtain ⟨types', phase⟩ := p
    subst ht
    exact List.mem_map_of_mem hm

/-! ## One move -/

/- All moves but a read have the same effect on the invariant, which `MoveSpec` puts in
one place: the calls are for messages at hand, and the messages let go of are handled. -/

/-- What every permitted move but a read comes to: the server grows, handlers
are called only for messages the pass holds, and the messages it lets go of are
handled. -/
structure MoveSpec (bus : Bus) (s : System) (p : Pass) (s' : System) (p' : Pass) : Prop where
  grows : Grows s s'
  passes : s'.passes = s.passes
  delivered : ∀ key, (s'.streams key).delivered = (s.streams key).delivered
  calls : ∀ t m, (t, m) ∉ p.held → callsFor s' t m = callsFor s t m
  called : ∀ c ∈ s'.calls, c ∈ s.calls ∨ (c.eventType, c.message) ∈ p.held
  holds : p'.held.Sublist p.held
  inv : PassInv bus s' p'
  released : ∀ t hs, (t, hs) ∈ bus.handlers → ∀ m, (t, m) ∈ p.held → (t, m) ∉ p'.held →
    Handled bus s' t hs m

/-- The handlers of an event type are determined by the type. -/
theorem Bus.handlers_unique (bus : Bus) {t : String} {hs hs' : List String}
    (h : (t, hs) ∈ bus.handlers) (h' : (t, hs') ∈ bus.handlers) : hs = hs' := by
  have hsame : (t, hs) = (t, hs') := List.inj_on_of_nodup_map bus.distinct h h' rfl
  exact (Prod.mk.inj hsame).2

/-- A pass that holds nothing may leave an event type. -/
theorem spec_leave {x : String × List String} {types : List (String × List String)}
    {phase : Phase} (h : PassInv bus s ⟨x :: types, phase⟩) (hempty : phase.messages = []) :
    MoveSpec bus s ⟨x :: types, phase⟩ s ⟨types, .idle⟩ where
  grows := grows_refl s
  passes := rfl
  delivered _ := rfl
  calls _ _ _ := rfl
  called c hc := .inl hc
  holds := by
    have hnone : Pass.held ⟨types, .idle⟩ = [] := by cases types <;> rfl
    rw [hnone]
    exact List.nil_sublist _
  inv := ⟨fun y hy => h.types y (List.mem_cons_of_mem _ hy), fun _ _ _ _ => trivial⟩
  released t hs _ m hm _ := by simp [Pass.held, hempty] at hm

/-- The calls for a message after one more call. -/
theorem callsFor_append (s : System) (c : HandlerCall) (t : String) (m : Nat) :
    callsFor { s with calls := s.calls ++ [c] } t m =
      callsFor s t m ++ if c.eventType = t ∧ c.message = m then [c] else [] := by
  simp only [callsFor, List.filter_append, List.filter_cons, List.filter_nil]
  congr 1
  by_cases h : c.eventType = t ∧ c.message = m <;> simp [h]

/-- A pass holds the messages of its phase. -/
theorem held_cons (t : String) (hs : List String) (types : List (String × List String))
    (phase : Phase) (t' : String) (m : Nat) :
    (t', m) ∈ Pass.held ⟨(t, hs) :: types, phase⟩ ↔ t' = t ∧ m ∈ phase.messages := by
  simp [Pass.held, eq_comm, and_comm]

/-- Between two streams a pass holds nothing. -/
theorem held_left (types : List (String × List String)) : Pass.held ⟨types, .idle⟩ = [] := by
  cases types <;> rfl

section Moves

variable {t : String} {hs : List String} {types : List (String × List String)} {m : Nat}
  {event : DeserializedEvent} {left : List String} {all : Bool} {ms : List Nat}

/-- The handlers of the type a pass is at. -/
theorem PassInv.head {phase : Phase} (h : PassInv bus s ⟨(t, hs) :: types, phase⟩) :
    (t, hs) ∈ bus.handlers := h.types _ List.mem_cons_self

/-- Moves within one event type that call no handler and let go of nothing but
the message at hand, which is handled. -/
theorem spec_within {phase phase' : Phase} (h : PassInv bus s ⟨(t, hs) :: types, phase⟩)
    (hg : Grows s s') (hpasses : s'.passes = s.passes) (hcalls : s'.calls = s.calls)
    (hdelivered : ∀ key, (s'.streams key).delivered = (s.streams key).delivered)
    (hsub : phase'.messages.Sublist phase.messages) (hphase : PhaseInv bus s' t hs phase')
    (hreleased : ∀ m ∈ phase.messages, m ∉ phase'.messages → Handled bus s' t hs m) :
    MoveSpec bus s ⟨(t, hs) :: types, phase⟩ s' ⟨(t, hs) :: types, phase'⟩ where
  grows := hg
  passes := hpasses
  delivered := hdelivered
  calls _ _ _ := by rw [callsFor, hcalls, callsFor]
  called c hc := .inl (hcalls ▸ hc)
  holds := hsub.map _
  inv := by
    refine ⟨h.types, fun t' hs' types' heq => ?_⟩
    obtain ⟨hhead, -⟩ := List.cons.inj heq
    obtain ⟨rfl, rfl⟩ := Prod.mk.inj hhead
    exact hphase
  released t' hs' hmem m hm hm' := by
    rw [held_cons] at hm hm'
    obtain ⟨rfl, hm⟩ := hm
    obtain rfl := bus.handlers_unique h.head hmem
    exact hreleased m hm fun hin => hm' ⟨rfl, hin⟩

/-- Moves that leave an event type with the message at hand handled, and no
other. -/
theorem spec_last {phase : Phase} (h : PassInv bus s ⟨(t, hs) :: types, phase⟩)
    (hg : Grows s s') (hpasses : s'.passes = s.passes) (hcalls : s'.calls = s.calls)
    (hdelivered : ∀ key, (s'.streams key).delivered = (s.streams key).delivered)
    (hreleased : ∀ m ∈ phase.messages, Handled bus s' t hs m) :
    MoveSpec bus s ⟨(t, hs) :: types, phase⟩ s' ⟨types, .idle⟩ where
  grows := hg
  passes := hpasses
  delivered := hdelivered
  calls _ _ _ := by rw [callsFor, hcalls, callsFor]
  called c hc := .inl (hcalls ▸ hc)
  holds := by
    rw [held_left]
    exact List.nil_sublist _
  inv := ⟨fun y hy => h.types y (List.mem_cons_of_mem _ hy), fun _ _ _ _ => trivial⟩
  released t' hs' hmem m hm _ := by
    rw [held_cons] at hm
    obtain ⟨rfl, hm⟩ := hm
    obtain rfl := bus.handlers_unique h.head hmem
    exact hreleased m hm

/-- A handler runs: one more call for the message at hand. -/
theorem spec_called {phase phase' : Phase} {c : HandlerCall}
    (h : PassInv bus s ⟨(t, hs) :: types, phase⟩) (hc : c.eventType = t)
    (hmsg : c.message ∈ phase.messages) (hsame : phase'.messages = phase.messages)
    (hphase : PhaseInv bus { s with calls := s.calls ++ [c] } t hs phase') :
    MoveSpec bus s ⟨(t, hs) :: types, phase⟩ { s with calls := s.calls ++ [c] }
      ⟨(t, hs) :: types, phase'⟩ where
  grows := grows_called s c
  passes := rfl
  delivered _ := rfl
  calls t' m' hfree := by
    have hne : ¬ (c.eventType = t' ∧ c.message = m') := by
      rintro ⟨rfl, rfl⟩
      exact hfree ((held_cons _ _ _ _ _ _).mpr ⟨hc, hmsg⟩)
    rw [callsFor_append, if_neg hne, List.append_nil]
  called c' hc' := by
    rcases List.mem_append.mp hc' with hc' | hc'
    · exact .inl hc'
    · obtain rfl := List.mem_singleton.mp hc'
      exact .inr ((held_cons _ _ _ _ _ _).mpr ⟨hc, hmsg⟩)
  holds := by
    simp only [Pass.held, hsame]
    exact List.Sublist.refl _
  inv := by
    refine ⟨h.types, fun t' hs' types' heq => ?_⟩
    obtain ⟨hhead, -⟩ := List.cons.inj heq
    obtain ⟨rfl, rfl⟩ := Prod.mk.inj hhead
    exact hphase
  released t' hs' _ m hm hm' := by
    rw [held_cons] at hm hm'
    exact absurd ⟨hm.1, hsame ▸ hm.2⟩ hm'

/-- The phase invariant at the type the pass is at. -/
theorem PassInv.here {phase : Phase} (h : PassInv bus s ⟨(t, hs) :: types, phase⟩) :
    PhaseInv bus s t hs phase := h.phase t hs types rfl

/-- What does not deliver leaves the counters. -/
theorem delivered_onStream {key : String} {f : Stream → Stream}
    (hf : (f (s.streams key)).delivered = (s.streams key).delivered) (k : String) :
    ((s.onStream key f).streams k).delivered = (s.streams k).delivered := by
  by_cases hk : k = key
  · subst hk
    simpa [System.onStream] using hf
  · simp [System.onStream, Function.update_of_ne hk]

/-- A call for one message is none for the messages that are still to come. -/
theorem callsFor_called {m : Nat} {ms : List Nat} (hm : m ∉ ms)
    (hrest : ∀ m' ∈ ms, callsFor s t m' = []) (name : String) (error : Option String) :
    ∀ m' ∈ ms, callsFor { s with calls := s.calls ++ [⟨t, m, name, error⟩] } t m' = [] := by
  intro m' hm'
  have hne : m ≠ m' := fun heq => hm (heq ▸ hm')
  rw [callsFor_append, if_neg fun hc => hne hc.2, List.append_nil]
  exact hrest m' hm'

/-- The next handler returns. -/
theorem phase_succeeded {name : String}
    (h : PhaseInv bus s t hs (.dispatch m event (name :: left) all ms)) (hm : m ∉ ms) :
    PhaseInv bus { s with calls := s.calls ++ [⟨t, m, name, none⟩] } t hs
      (.dispatch m event left all ms) := by
  obtain ⟨hdecoded, hcalled, hall, hcopied, hrest⟩ := h
  have hg := grows_called s ⟨t, m, name, none⟩
  have hcalls := callsFor_append s ⟨t, m, name, none⟩ t m
  rw [if_pos ⟨rfl, rfl⟩] at hcalls
  have hrest' := callsFor_called hm hrest name none
  simp only [PhaseInv, hcalls, List.map_append, List.map_singleton, List.append_assoc,
    List.singleton_append, forall_joined]
  refine ⟨hdecoded.grows hg, hcalled, ?_, ⟨?_, fun h => absurd rfl h⟩, hrest'⟩
  · simpa using hall
  · exact fun c hc he => (hcopied c hc he).grows hg

/-- The next handler throws. -/
theorem phase_failed {name e : String}
    (h : PhaseInv bus s t hs (.dispatch m event (name :: left) all ms)) (hm : m ∉ ms) :
    PhaseInv bus { s with calls := s.calls ++ [⟨t, m, name, some e⟩] } t hs
      (.deadLetter m event name e left ms) := by
  obtain ⟨hdecoded, hcalled, hall, hcopied, hrest⟩ := h
  have hg := grows_called s ⟨t, m, name, some e⟩
  have hcalls := callsFor_append s ⟨t, m, name, some e⟩ t m
  rw [if_pos ⟨rfl, rfl⟩] at hcalls
  have hrest' := callsFor_called hm hrest name (some e)
  simp only [PhaseInv, hcalls, List.map_append, List.map_singleton, List.append_assoc,
    List.singleton_append, forall_joined]
  refine ⟨hdecoded.grows hg, hcalled, ?_, ⟨?_, fun _ => .inl trivial⟩, hrest'⟩
  · exact ⟨⟨t, m, name, some e⟩, by simp, by simp⟩
  · exact fun c hc he => .inr ((hcopied c hc he).grows hg)

/-- Writing a copy to the dead-letter stream. -/
theorem grows_copied (bus : Bus) (s : System) (t : String) (m : Nat) (name : String)
    (fields : List String) :
    Grows s { s.xadd bus.dlqKey fields with
      deadLetters := s.deadLetters ++ [⟨t, m, name, fields⟩] } := by
  have hx : Grows s (s.xadd bus.dlqKey fields) := grows_xadd s bus.dlqKey fields
  exact ⟨hx.entries, hx.acked, fun d hd => List.mem_append_left _ hd⟩

/-- The copy for the handler that threw is written. -/
theorem phase_copied {name e : String} (now : Js.Date)
    (h : PhaseInv bus s t hs (.deadLetter m event name e left ms)) :
    PhaseInv bus { s.xadd bus.dlqKey (deadLetterFields event name e now) with
        deadLetters := s.deadLetters ++ [⟨t, m, name, deadLetterFields event name e now⟩] } t hs
      (.dispatch m event left false ms) := by
  obtain ⟨hdecoded, hcalled, ⟨failing, hfailing, herror⟩, hcopied, hrest⟩ := h
  have hg := grows_copied bus s t m name (deadLetterFields event name e now)
  refine ⟨hdecoded.grows hg, hcalled, ?_, ?_, hrest⟩
  · constructor
    · intro hfalse
      contradiction
    · intro hall
      exact absurd (hall failing hfailing) herror
  · intro c hc he
    rcases hcopied c hc he with hname | hold
    · rw [hname]
      refine ⟨event, e, now, hdecoded.grows hg, ?_, ?_⟩
      · exact List.mem_append_right _ (List.mem_singleton_self _)
      · simp [System.xadd, System.onStream]
    · exact hold.grows hg

/-- Every handler has run and the message is dealt with. -/
theorem handled_of_phase (h : PhaseInv bus s t hs (.dispatch m event [] all ms))
    (hg : Grows s s') (hcalls : s'.calls = s.calls)
    (hacked : all = true → m ∈ (s'.streams (bus.streamKey t)).acked) :
    Handled bus s' t hs m := by
  obtain ⟨-, hcalled, hall, hcopied, -⟩ := h
  have hsame : callsFor s' t m = callsFor s t m := by rw [callsFor, hcalls, callsFor]
  refine ⟨?_, ?_, ?_⟩
  · rw [hsame, ← hcalled, List.append_nil]
  · rw [hsame]
    exact fun c hc he => (hcopied c hc he).grows hg
  · rw [hsame]
    exact fun hok => hacked (hall.mpr hok)

end Moves

/-- **One move** of a pass that knows its messages. -/
theorem spec_of_move {p p' : Pass} {a : Action} (hinv : PassInv bus s p) (hnodup : p.held.Nodup)
    (hok : PermittedMove bus s p a = true) (hread : ¬ ∃ r, a = .read r ∧ r = .done)
    (hmove : Move bus s p a s' p') : MoveSpec bus s p s' p' := by
  cases hmove with
  | skipped => exact spec_leave hinv rfl
  | readRefused => exact spec_leave hinv rfl
  | readDone => exact absurd ⟨_, rfl, rfl⟩ hread
  | readLost => contradiction
  | batchDone => exact spec_leave hinv rfl
  | undecodable hf hd => simp [PermittedMove, hf, hd] at hok
  | @decoded t hs types m ms fields event hf hd =>
      have hrest := hinv.here
      have hnone : callsFor s t m = [] := hrest m List.mem_cons_self
      have hsub : (Phase.dispatch m event hs true ms).messages.Sublist
          (Phase.batch (m :: ms)).messages := List.Sublist.refl _
      apply spec_within hinv (grows_refl s) rfl rfl (fun _ => rfl) hsub
      · refine ⟨⟨fields, hf, hd⟩, ?_, ?_, ?_, fun m' hm' => hrest m' (List.mem_cons_of_mem _ hm')⟩
        · rw [hnone]
          rfl
        · simp [hnone]
        · simp [hnone]
      · exact fun m hm hm' => absurd hm hm'
  | @succeeded t hs types m event name left all ms =>
      have hm : m ∉ ms := by
        have hmap : ((m :: ms).map fun m => (t, m)).Nodup := hnodup
        exact (List.nodup_cons.mp hmap.of_map).1
      exact spec_called hinv rfl List.mem_cons_self rfl (phase_succeeded hinv.here hm)
  | @failed t hs types m event name left all ms e =>
      have hm : m ∉ ms := by
        have hmap : ((m :: ms).map fun m => (t, m)).Nodup := hnodup
        exact (List.nodup_cons.mp hmap.of_map).1
      exact spec_called hinv rfl List.mem_cons_self rfl (phase_failed hinv.here hm)
  | @copied t hs types m event name e left ms now =>
      have hg := grows_copied bus s t m name (deadLetterFields event name e now)
      have hsub : (Phase.dispatch m event left false ms).messages.Sublist
          (Phase.deadLetter m event name e left ms).messages := List.Sublist.refl _
      have hdelivered : ∀ key, ((s.xadd bus.dlqKey (deadLetterFields event name e now)).streams
          key).delivered = (s.streams key).delivered := delivered_onStream rfl
      apply spec_within hinv hg rfl rfl hdelivered hsub (phase_copied now hinv.here)
      exact fun m hm hm' => absurd hm hm'
  | @copyLost t hs types m event name e left ms now =>
      obtain ⟨rfl, rfl⟩ : left = [] ∧ ms = [] := by simpa [PermittedMove] using hok
      have hg := grows_copied bus s t m name (deadLetterFields event name e now)
      have hphase := phase_copied now hinv.here
      have hdelivered : ∀ key, ((s.xadd bus.dlqKey (deadLetterFields event name e now)).streams
          key).delivered = (s.streams key).delivered := delivered_onStream rfl
      apply spec_last hinv hg rfl rfl hdelivered
      intro m' hm'
      obtain rfl := List.mem_singleton.mp hm'
      exact handled_of_phase hphase (grows_refl _) rfl fun hfalse => by contradiction
  | copyRefused => contradiction
  | @acked t hs types m event ms =>
      apply spec_within hinv (grows_xack s _ m) rfl rfl (delivered_onStream rfl)
        (List.sublist_cons_self _ _)
      · exact fun m' hm' => hinv.here.2.2.2.2 m' hm'
      · intro m' hm' hleft
        obtain rfl : m' = m := (List.mem_cons.mp hm').resolve_right hleft
        apply handled_of_phase hinv.here (grows_xack s _ m') rfl
        intro _
        simp [System.xack, System.onStream]
  | @ackLost t hs types m event ms =>
      obtain rfl : ms = [] := by simpa [PermittedMove] using hok
      apply spec_last hinv (grows_xack s _ m) rfl rfl (delivered_onStream rfl)
      intro m' hm'
      obtain rfl := List.mem_singleton.mp hm'
      apply handled_of_phase hinv.here (grows_xack s _ m') rfl
      intro _
      simp [System.xack, System.onStream]
  | ackRefused => contradiction
  | @unacked t hs types m event ms reply =>
      apply spec_within hinv (grows_refl s) rfl rfl (fun _ => rfl) (List.sublist_cons_self _ _)
      · exact fun m' hm' => hinv.here.2.2.2.2 m' hm'
      · intro m' hm' hleft
        obtain rfl : m' = m := (List.mem_cons.mp hm').resolve_right hleft
        exact handled_of_phase hinv.here (grows_refl s) rfl fun hfalse => by contradiction

/-! ## One step -/

/- A read is the one move that takes up messages.  They are the entries above the counter
of the group, so no pass can hold them already. -/

/-- The passes themselves are no streams. -/
theorem grows_passes (s : System) (passes : List Pass) : Grows s { s with passes } :=
  grows_of_eq rfl rfl

/-- What a pass knows does not depend on the other passes. -/
theorem PassInv.passes {p : Pass} (passes : List Pass) (h : PassInv bus s p) :
    PassInv bus { s with passes } p := by
  have hg : Grows s { s with passes } := grows_passes s passes
  exact h.grows hg fun _ _ => rfl

/-- What has been handled does not depend on the passes. -/
theorem Handled.passes {t : String} {hs : List String} {m : Nat} (passes : List Pass)
    (h : Handled bus s t hs m) : Handled bus { s with passes } t hs m := by
  have hg : Grows s { s with passes } := grows_passes s passes
  exact h.grows hg rfl

/-- What another pass holds, or is dealt with, stays so. -/
theorem handled_kept {before after : List Pass} {p : Pass} (p' : Pass) {t : String}
    {hs : List String} {m : Nat} (hsplit : s.passes = before ++ p :: after) (hg : Grows s s')
    (hcalls : callsFor s' t m = callsFor s t m) (hp : (t, m) ∉ p.held)
    (h : (∃ q ∈ s.passes, (t, m) ∈ q.held) ∨ Handled bus s t hs m) :
    (∃ q ∈ before ++ p' :: after, (t, m) ∈ q.held) ∨
      Handled bus { s' with passes := before ++ p' :: after } t hs m := by
  rcases h with ⟨q, hq, hqm⟩ | hhandled
  · refine .inl ⟨q, ?_, hqm⟩
    have hqp : q ≠ p := fun heq => hp (heq ▸ hqm)
    have hq' : q ∈ before ++ p :: after := hsplit ▸ hq
    simp only [List.mem_append, List.mem_cons] at hq' ⊢
    tauto
  · exact .inr ((hhandled.grows hg hcalls).passes _)

/-- A pass makes a move that is no read. -/
theorem inv_moved {before after : List Pass} {p p' : Pass}
    (hinv : Inv bus s) (hsplit : s.passes = before ++ p :: after)
    (hspec : MoveSpec bus s p s' p') :
    Inv bus { s' with passes := before ++ p' :: after } := by
  have hdistinct : ((before ++ p :: after).flatMap Pass.held).Nodup := hsplit ▸ hinv.distinct
  obtain ⟨-, hothers⟩ := held_disjoint hdistinct
  have hpasses : ∀ q ∈ before ++ p :: after, PassInv bus s q := hsplit ▸ hinv.passes
  have hheld : ∀ q ∈ before ++ p :: after, ∀ x ∈ q.held,
      x.2 < (s.streams (bus.streamKey x.1)).delivered := hsplit ▸ hinv.held
  obtain ⟨-, hpasses⟩ := forall_slots.mp hpasses
  obtain ⟨hheldp, hheld⟩ := forall_slots.mp hheld
  refine ⟨?_, ?_, ?_, ?_, ?_⟩
  · exact held_nodup_of_sublist hdistinct hspec.holds
  · show ∀ q ∈ before ++ p' :: after, PassInv bus _ q
    refine forall_slots.mpr ⟨hspec.inv.passes _, fun q hq => ?_⟩
    apply PassInv.passes
    apply (hpasses q hq).grows hspec.grows
    exact fun x hx => hspec.calls x.1 x.2 fun hxp => hothers x hxp q hq hx
  · show ∀ q ∈ before ++ p' :: after, ∀ x ∈ q.held,
      x.2 < (s'.streams (bus.streamKey x.1)).delivered
    refine forall_slots.mpr ⟨?_, ?_⟩
    · intro x hx
      have hx' := hheldp x (hspec.holds.subset hx)
      rwa [← hspec.delivered] at hx'
    · intro q hq x hx
      have hx' := hheld q hq x hx
      rwa [← hspec.delivered] at hx'
  · intro c hc
    have hold : c.message < (s.streams (bus.streamKey c.eventType)).delivered := by
      rcases hspec.called c hc with hc | hc
      · exact hinv.fresh c hc
      · exact hheldp _ hc
    rwa [← hspec.delivered] at hold
  · rintro ⟨t, hs⟩ ht hne m hm
    have hm' : m < (s.streams (bus.streamKey t)).delivered := by
      rwa [← hspec.delivered]
    by_cases hp : (t, m) ∈ p.held
    · by_cases hp' : (t, m) ∈ p'.held
      · exact .inl ⟨p', by simp, hp'⟩
      · exact .inr ((hspec.released t hs ht m hp hp').passes _)
    · exact handled_kept p' hsplit hspec.grows (hspec.calls t m hp) hp
        (hinv.handled (t, hs) ht hne m hm')

/-- No two event types share a stream. -/
theorem Bus.streamKey_inj (bus : Bus) {t t' : String} (h : bus.streamKey t = bus.streamKey t') :
    t = t' := by
  have hlist : bus.streamPrefix.toList ++ t.toList = bus.streamPrefix.toList ++ t'.toList := by
    rw [← String.toList_append, ← String.toList_append]
    exact congrArg String.toList h
  exact String.toList_inj.mp (List.append_cancel_left hlist)

/-- A delivery moves the counter of its own stream. -/
theorem delivered_deliver (s : System) (key k : String) (n : Nat) :
    ((s.deliver key n).streams k).delivered =
      (s.streams k).delivered + if k = key then n else 0 := by
  by_cases hk : k = key
  · subst hk
    simp [System.deliver, System.onStream]
  · simp [System.deliver, System.onStream, hk]

/-- No counter goes back. -/
theorem delivered_le_deliver (s : System) (key k : String) (n : Nat) :
    (s.streams k).delivered ≤ ((s.deliver key n).streams k).delivered := by
  rw [delivered_deliver]
  omega

/-- What is not delivered yet has had no call. -/
theorem Inv.callsFor_fresh (hinv : Inv bus s) {t : String} {m : Nat}
    (hm : (s.streams (bus.streamKey t)).delivered ≤ m) : callsFor s t m = [] := by
  apply List.filter_eq_nil_iff.mpr
  intro c hc
  have hlt := hinv.fresh c hc
  simp only [decide_eq_true_eq, not_and]
  rintro rfl rfl
  omega

section Read

variable {before after : List Pass} {t h : String} {hs : List String}
  {types : List (String × List String)} (n : Nat) (hinv : Inv bus s)
  (hsplit : s.passes = before ++ ⟨(t, h :: hs) :: types, .idle⟩ :: after)

include hinv hsplit

/-- The entries that are read were held by no pass. -/
theorem distinct_read :
    ((before ++ ⟨(t, h :: hs) :: types,
      .batch (List.range' (s.streams (bus.streamKey t)).delivered n)⟩ :: after).flatMap
        Pass.held).Nodup := by
  have hdistinct : ((before ++ ⟨(t, h :: hs) :: types, .idle⟩ :: after).flatMap
      Pass.held).Nodup := hsplit ▸ hinv.distinct
  have hheld : ∀ q ∈ before ++ ⟨(t, h :: hs) :: types, .idle⟩ :: after, ∀ x ∈ q.held,
      x.2 < (s.streams (bus.streamKey x.1)).delivered := hsplit ▸ hinv.held
  obtain ⟨-, hheld⟩ := forall_slots.mp hheld
  apply (held_nodup_iff _).mpr
  apply List.nodup_append.mpr
  refine ⟨?_, ?_, ?_⟩
  · have hnodup : (List.range' (s.streams (bus.streamKey t)).delivered n).Nodup :=
      List.nodup_range'
    exact hnodup.map fun a b hab => (Prod.mk.inj hab).2
  · have hrest := (held_nodup_iff _).mp hdistinct
    exact (List.nodup_append.mp hrest).2.1
  · intro x hx y hy heq
    subst heq
    obtain ⟨m, hm, rfl⟩ := List.mem_map.mp hx
    obtain ⟨q, hq, hqm⟩ := List.mem_flatMap.mp hy
    have hlt := hheld q hq _ hqm
    have hle := (List.mem_range'_1.mp hm).1
    simp only at hlt
    omega

/-- They had no call, and the other passes know what they knew. -/
theorem passes_read : ∀ q ∈ before ++ ⟨(t, h :: hs) :: types,
      .batch (List.range' (s.streams (bus.streamKey t)).delivered n)⟩ :: after,
    PassInv bus (s.deliver (bus.streamKey t) n) q := by
  have hgrows : Grows s (s.deliver (bus.streamKey t) n) := grows_deliver s _ n
  have hpasses : ∀ q ∈ before ++ ⟨(t, h :: hs) :: types, .idle⟩ :: after, PassInv bus s q :=
    hsplit ▸ hinv.passes
  obtain ⟨hpass, hpasses⟩ := forall_slots.mp hpasses
  refine forall_slots.mpr ⟨⟨hpass.types, fun t' hs' types' heq => ?_⟩, fun q hq => ?_⟩
  · obtain ⟨hhead, -⟩ := List.cons.inj heq
    obtain ⟨rfl, rfl⟩ := Prod.mk.inj hhead
    exact fun m hm => hinv.callsFor_fresh (List.mem_range'_1.mp hm).1
  · exact (hpasses q hq).grows hgrows fun _ _ => rfl

/-- All that is held has been delivered. -/
theorem held_read : ∀ q ∈ before ++ ⟨(t, h :: hs) :: types,
      .batch (List.range' (s.streams (bus.streamKey t)).delivered n)⟩ :: after, ∀ x ∈ q.held,
    x.2 < ((s.deliver (bus.streamKey t) n).streams (bus.streamKey x.1)).delivered := by
  have hheld : ∀ q ∈ before ++ ⟨(t, h :: hs) :: types, .idle⟩ :: after, ∀ x ∈ q.held,
      x.2 < (s.streams (bus.streamKey x.1)).delivered := hsplit ▸ hinv.held
  obtain ⟨-, hheld⟩ := forall_slots.mp hheld
  refine forall_slots.mpr ⟨?_, ?_⟩
  · intro x hx
    obtain ⟨m, hm, rfl⟩ := List.mem_map.mp hx
    have heq := delivered_deliver s (bus.streamKey t) (bus.streamKey t) n
    rw [if_pos rfl] at heq
    exact heq ▸ (List.mem_range'_1.mp hm).2
  · exact fun q hq x hx => Nat.lt_of_lt_of_le (hheld q hq x hx) (delivered_le_deliver s _ _ n)

/-- A pass reads. -/
theorem inv_read :
    Inv bus { s.deliver (bus.streamKey t) n with
      passes := before ++ ⟨(t, h :: hs) :: types,
        .batch (List.range' (s.streams (bus.streamKey t)).delivered n)⟩ :: after } where
  distinct := distinct_read n hinv hsplit
  passes q hq := (passes_read n hinv hsplit q hq).passes _
  held := held_read n hinv hsplit
  fresh c hc := Nat.lt_of_lt_of_le (hinv.fresh c hc) (delivered_le_deliver s _ _ n)
  handled := by
    rintro ⟨t', hs'⟩ ht' hne m hm
    by_cases hold : m < (s.streams (bus.streamKey t')).delivered
    · exact handled_kept _ hsplit (grows_deliver s _ n) rfl List.not_mem_nil
        (hinv.handled (t', hs') ht' hne m hold)
    · have hlt : m < ((s.deliver (bus.streamKey t) n).streams (bus.streamKey t')).delivered := hm
      rw [delivered_deliver] at hlt
      by_cases hkey : bus.streamKey t' = bus.streamKey t
      · obtain rfl := bus.streamKey_inj hkey
        rw [if_pos rfl] at hlt
        refine .inl ⟨_, List.mem_append_right _ List.mem_cons_self, ?_⟩
        apply List.mem_map_of_mem
        exact List.mem_range'_1.mpr ⟨by omega, hlt⟩
      · rw [if_neg hkey] at hlt
        omega

end Read

/-- An entry is added to a stream. -/
theorem inv_publish (key : String) (fields : List String) (hinv : Inv bus s) :
    Inv bus (s.xadd key fields) := by
  have hg : Grows s (s.xadd key fields) := grows_xadd s key fields
  have hdelivered : ∀ k, ((s.xadd key fields).streams k).delivered = (s.streams k).delivered :=
    delivered_onStream rfl
  refine ⟨hinv.distinct, ?_, ?_, ?_, ?_⟩
  · exact fun p hp => (hinv.passes p hp).grows hg fun _ _ => rfl
  · intro p hp x hx
    rw [hdelivered]
    exact hinv.held p hp x hx
  · intro c hc
    rw [hdelivered]
    exact hinv.fresh c hc
  · intro x hx hne m hm
    rw [hdelivered] at hm
    exact (hinv.handled x hx hne m hm).imp_right fun h => h.grows hg rfl

/-- A pass starts. -/
theorem inv_tick (hinv : Inv bus s) :
    Inv bus { s with passes := s.passes ++ [⟨bus.handlers, .idle⟩] } := by
  refine ⟨?_, ?_, ?_, hinv.fresh, ?_⟩
  · show ((s.passes ++ [(⟨bus.handlers, .idle⟩ : Pass)]).flatMap Pass.held).Nodup
    rw [List.flatMap_append, List.flatMap_singleton, held_left, List.append_nil]
    exact hinv.distinct
  · show ∀ p ∈ s.passes ++ [_], PassInv bus _ p
    refine forall_joined.mpr ⟨fun p hp => (hinv.passes p hp).passes _, ?_⟩
    exact ⟨fun x hx => hx, fun _ _ _ _ => trivial⟩
  · show ∀ p ∈ s.passes ++ [_], ∀ x ∈ p.held, x.2 < (s.streams (bus.streamKey x.1)).delivered
    refine forall_joined.mpr ⟨hinv.held, ?_⟩
    rw [held_left]
    exact fun x hx => absurd hx List.not_mem_nil
  · intro x hx hne m hm
    rcases hinv.handled x hx hne m hm with ⟨p, hp, hpm⟩ | hhandled
    · exact .inl ⟨p, List.mem_append_left _ hp, hpm⟩
    · exact .inr (hhandled.passes _)

/-- Where nothing is left, what a pass holds is handled. -/
theorem handled_of_nothingLeft {p : Pass} {t : String} {hs : List String} {m : Nat}
    (hp : PassInv bus s p) (hleft : p.phase.nothingLeft = true) (ht : (t, hs) ∈ bus.handlers)
    (hm : (t, m) ∈ p.held) : Handled bus s t hs m := by
  obtain ⟨types, phase⟩ := p
  cases types with
  | nil => contradiction
  | cons x types =>
      obtain ⟨t', hs'⟩ := x
      obtain ⟨rfl, hin⟩ := (held_cons _ _ _ _ _ _).mp hm
      obtain rfl := bus.handlers_unique hp.head ht
      have hhere := hp.here
      simp only at hleft
      unfold Phase.nothingLeft at hleft
      split at hleft
      · contradiction
      · contradiction
      · obtain rfl := List.mem_singleton.mp hin
        exact handled_of_phase hhere (grows_refl s) rfl fun hfalse => by contradiction
      · contradiction

/-- The process restarts, with nothing left to do. -/
theorem inv_restart (hinv : Inv bus s) (hleft : ∀ p ∈ s.passes, p.phase.nothingLeft = true) :
    Inv bus { s with passes := [] } := by
  refine ⟨List.nodup_nil, ?_, ?_, hinv.fresh, ?_⟩
  · exact fun p hp => absurd hp List.not_mem_nil
  · exact fun p hp => absurd hp List.not_mem_nil
  · intro x hx hne m hm
    rcases hinv.handled x hx hne m hm with ⟨p, hp, hpm⟩ | hhandled
    · exact .inr ((handled_of_nothingLeft (hinv.passes p hp) (hleft p hp) hx hpm).passes _)
    · exact .inr (hhandled.passes _)

/-- **A step keeps the invariant**, where it is permitted. -/
theorem inv_step {a : Step} (hinv : Inv bus s) (hok : Permitted bus s a)
    (h : step bus s a = some s') : Inv bus s' := by
  cases a with
  | publish t fields =>
      cases h
      exact inv_publish _ _ hinv
  | tick =>
      cases h
      exact inv_tick hinv
  | restart =>
      cases h
      exact inv_restart hinv hok
  | pass i action =>
      simp only [step] at h
      split at h
      · contradiction
      · next p hp =>
          split at h
          · contradiction
          · next s₁ p' hstep =>
              cases h
              obtain ⟨before, after, hsplit, -, hset⟩ := slot_split hp
              have hmem : p ∈ s.passes := List.mem_of_getElem? hp
              have hmove : Move bus s p action s₁ p' := move_of_passStep hstep
              have hpok : PermittedMove bus s p action = true := hok p hp
              by_cases hread : ∃ r, action = .read r ∧ r = .done
              · obtain ⟨r, rfl, rfl⟩ := hread
                cases hmove with
                | readDone hn =>
                    show Inv bus { s.deliver _ _ with passes := s.passes.set i _ }
                    rw [hset]
                    exact inv_read _ hinv hsplit
              · have hnodup : p.held.Nodup := by
                  have hdistinct := hinv.distinct
                  rw [hsplit] at hdistinct
                  exact (held_disjoint hdistinct).1
                have hspec := spec_of_move (hinv.passes p hmem) hnodup hpok hread hmove
                rw [hspec.passes, hset]
                exact inv_moved hinv hsplit hspec

/-! ## Delivery -/

/- An entry is delivered or not by the counter of the group, and where it is delivered the
invariant says who holds it or how it was handled. -/

/-- What the bus promises of entry `m` of a stream with these handlers. -/
inductive Accounted (bus : Bus) (s : System) (t : String) (hs : List String) (m : Nat) : Prop
  /-- The group has yet to deliver it. -/
  | undelivered (h : (s.streams (bus.streamKey t)).delivered ≤ m)
  /-- A pass has it in hand. -/
  | dispatching (p : Pass) (hp : p ∈ s.passes) (hm : (t, m) ∈ p.held)
  /-- Every handler succeeded on it and it is acknowledged. -/
  | acked (hcalled : (callsFor s t m).map HandlerCall.handlerName = hs)
      (hok : ∀ c ∈ callsFor s t m, c.error = none)
      (hack : m ∈ (s.streams (bus.streamKey t)).acked)
  /-- Every handler was called on it, some failed, and each that failed has its
  copy. -/
  | deadLettered (hcalled : (callsFor s t m).map HandlerCall.handlerName = hs)
      (hfailed : ∃ c ∈ callsFor s t m, c.error ≠ none)
      (hcopied : ∀ c ∈ callsFor s t m, c.error ≠ none → Copied bus s t m c.handlerName)

/-- Two handlers of one event type, and `JSON.parse` of the text they are sent. -/
def sampleBus : Bus where
  streamPrefix := "atlas:events:"
  parse text := if text = "{}" then some (.obj []) else none
  handlers := [(TENANT_CREATED, ["audit", "workflow"])]
  distinct := List.nodup_singleton _

/-- What `publish` sends for an event without an actor and with an empty payload. -/
def sampleFields (eventId : String) : List String :=
  publishFields ⟨eventId, TENANT_CREATED, 1, "t-1", "c-1", none, none, none, "atlas-api", none,
    "2024-05-23T21:33:20.000Z", [], none, none, none, none, none⟩

/-- The first event succeeds, the second fails in one handler; then a restart. -/
def handledRun : List Step :=
  [.publish TENANT_CREATED (sampleFields "e-1"), .publish TENANT_CREATED (sampleFields "e-2"),
   .tick, .pass 0 (.read .done),
   .pass 0 .next, .pass 0 (.handle none), .pass 0 (.handle none), .pass 0 (.finish .done),
   .pass 0 .next, .pass 0 (.handle (some "boom")), .pass 0 (.deadLetter 1716500005000 .done),
   .pass 0 (.handle none), .pass 0 (.finish .done), .pass 0 .next, .restart]

/-- The copy for the first event is refused. -/
def refusedRun : List Step :=
  [.publish TENANT_CREATED (sampleFields "e-1"), .publish TENANT_CREATED (sampleFields "e-2"),
   .tick, .pass 0 (.read .done), .pass 0 .next, .pass 0 (.handle (some "boom")),
   .pass 0 (.deadLetter 1716500005000 .refused)]

end Atlas.RedisStreamsEventBus
