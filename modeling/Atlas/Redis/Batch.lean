import Atlas.Redis.Pass

/-!
# Atlas.Redis.Batch

What one pass makes of the messages of one reply.

The loops over messages and handlers are nested in one `try` block, and only
the call of a handler has a `catch` of its own.  So what the pass still owes —
the pairs of a message and a handler, in order — is worked off from the front
(`Advances`), and whatever else throws gives up the rest of it.
`batch_served_iff` says when nothing is left to give up.
-/

namespace Atlas.RedisStreamsEventBus

open StoreKit

/-- The entry can be decoded. -/
def Decodable (bus : Bus) (s : System) (t : String) (m : Nat) : Prop :=
  ∃ event, Decoded bus s t m event

/-- An entry is decodable as long as it is there. -/
theorem Decodable.grows {bus : Bus} {s s' : System} {t : String} {m : Nat} (hg : Grows s s')
    (h : Decodable bus s t m) : Decodable bus s' t m := by
  obtain ⟨event, hdecoded⟩ := h
  exact ⟨event, hdecoded.grows hg⟩

/-- The calls for a message that are new in `s'`. -/
def callsSince (s s' : System) (t : String) (m : Nat) : List HandlerCall :=
  (s'.calls.drop s.calls.length).filter fun c => c.eventType = t ∧ c.message = m

/-- Each entry that can be decoded went to every handler once, and each other
one to the dead-letter stream. -/
structure BatchServed (bus : Bus) (s s' : System) (t : String) (handlers : List String)
    (messages : List Nat) : Prop where
  handled : ∀ m ∈ messages, Decodable bus s t m →
    ((callsSince s s' t m).map HandlerCall.handlerName).Perm handlers
  buried : ∀ m ∈ messages, ¬ Decodable bus s t m →
    ∃ d ∈ s'.deadLetters.drop s.deadLetters.length, d.eventType = t ∧ d.message = m

/-- Nothing that is left of the batch is given up: the next message can be
decoded, and a dead letter or an acknowledgement fails only as the last command
of all. -/
def Spares (bus : Bus) : System × Pass → Action → Bool
  | (s, ⟨(t, _) :: _, .batch (m :: _)⟩), .next =>
      match (s.streams (bus.streamKey t)).entries[m]? with
      | some fields => (deserializeEvent bus.parse fields).isSome
      | none => true
  | (_, ⟨_, .deadLetter _ _ _ _ left messages⟩), .deadLetter _ reply =>
      reply = .done ∨ left = [] ∧ messages = []
  | (_, ⟨_, .dispatch _ _ _ true messages⟩), .finish reply => reply = .done ∨ messages = []
  | _, _ => true

/-- The message and the handler a call was for. -/
def HandlerCall.pair (c : HandlerCall) : Nat × String := (c.message, c.handlerName)

/-- The calls a pass has still to make for the batch it holds. -/
def owed (handlers : List String) : Phase → List (Nat × String)
  | .idle => []
  | .batch messages => messages.flatMap fun m => handlers.map (Prod.mk m)
  | .dispatch m _ left _ messages =>
      left.map (Prod.mk m) ++ messages.flatMap fun m => handlers.map (Prod.mk m)
  | .deadLetter m _ _ _ left messages =>
      left.map (Prod.mk m) ++ messages.flatMap fun m => handlers.map (Prod.mk m)

/-- Nothing is owed to the handlers exactly where no message is left. -/
theorem owed_nil_iff {handlers : List String} (hne : handlers ≠ []) (messages : List Nat) :
    (messages.flatMap fun m => handlers.map (Prod.mk m)) = [] ↔ messages = [] := by
  cases messages with
  | nil => simp
  | cons m messages => simp [hne]

variable {bus : Bus} {t : String} {s s' : System}

/-- The calls `made` were added to the record, and every call and every dead
letter that was added is for an entry that can be decoded. -/
structure Advances (bus : Bus) (t : String) (s s' : System) (made : List (Nat × String)) :
    Prop where
  grows : Grows s s'
  calls : ∃ calls, s'.calls = s.calls ++ calls ∧ calls.map HandlerCall.pair = made ∧
    ∀ c ∈ calls, c.eventType = t ∧ Decodable bus s' t c.message
  letters : ∃ letters, s'.deadLetters = s.deadLetters ++ letters ∧
    ∀ d ∈ letters, Decodable bus s' t d.message

/-- Calls made in two parts are made one after the other. -/
theorem Advances.trans {s'' : System} {made made' : List (Nat × String)}
    (h : Advances bus t s s' made) (h' : Advances bus t s' s'' made') :
    Advances bus t s s'' (made ++ made') where
  grows := h.grows.trans h'.grows
  calls := by
    obtain ⟨calls, hcalls, hmade, hfor⟩ := h.calls
    obtain ⟨calls', hcalls', hmade', hfor'⟩ := h'.calls
    refine ⟨calls ++ calls', ?_, ?_, ?_⟩
    · rw [hcalls', hcalls, List.append_assoc]
    · rw [List.map_append, hmade, hmade']
    · intro c hc
      rcases List.mem_append.mp hc with hc | hc
      · exact ⟨(hfor c hc).1, (hfor c hc).2.grows h'.grows⟩
      · exact hfor' c hc
  letters := by
    obtain ⟨letters, hletters, hfor⟩ := h.letters
    obtain ⟨letters', hletters', hfor'⟩ := h'.letters
    refine ⟨letters ++ letters', ?_, ?_⟩
    · rw [hletters', hletters, List.append_assoc]
    · intro d hd
      rcases List.mem_append.mp hd with hd | hd
      · exact (hfor d hd).grows h'.grows
      · exact hfor' d hd

/-- A step that calls no handler and writes no copy. -/
theorem advances_silent (hg : Grows s s') (hcalls : s'.calls = s.calls)
    (hletters : s'.deadLetters = s.deadLetters) : Advances bus t s s' [] where
  grows := hg
  calls := ⟨[], by rw [hcalls, List.append_nil], rfl, fun c hc => absurd hc List.not_mem_nil⟩
  letters := ⟨[], by rw [hletters, List.append_nil], fun d hd => absurd hd List.not_mem_nil⟩

/-- A call is one of those owed. -/
theorem advances_called {m : Nat} {name : String} {error : Option String}
    (hm : Decodable bus s t m) :
    Advances bus t s { s with calls := s.calls ++ [⟨t, m, name, error⟩] } [(m, name)] where
  grows := grows_called s ⟨t, m, name, error⟩
  calls := by
    refine ⟨[⟨t, m, name, error⟩], rfl, rfl, fun c hc => ?_⟩
    obtain rfl := List.mem_singleton.mp hc
    exact ⟨rfl, hm⟩
  letters := ⟨[], (List.append_nil _).symm, fun d hd => absurd hd List.not_mem_nil⟩

/-- A copy to the dead letters is no call. -/
theorem advances_copied {m : Nat} (name : String) (fields : List String)
    (hm : Decodable bus s t m) :
    Advances bus t s { s.xadd bus.dlqKey fields with
      deadLetters := s.deadLetters ++ [⟨t, m, name, fields⟩] } [] where
  grows := grows_copied bus s t m name fields
  calls := ⟨[], (List.append_nil _).symm, rfl, fun c hc => absurd hc List.not_mem_nil⟩
  letters := by
    refine ⟨[⟨t, m, name, fields⟩], rfl, fun d hd => ?_⟩
    obtain rfl := List.mem_singleton.mp hd
    exact hm.grows (grows_copied bus s t m name fields)

/-! ## One step -/

/- Of the calls that are owed a step makes the first, or none; when it leaves the batch it
leaves all of them unmade. -/

/-- The message at hand was decoded. -/
def AtHand (bus : Bus) (s : System) (t : String) : Phase → Prop
  | .dispatch m _ _ _ _ => Decodable bus s t m
  | .deadLetter m _ _ _ _ _ => Decodable bus s t m
  | _ => True

/-- A step within a batch makes the next of the calls owed, or leaves the batch
with the calls that are still owed. -/
inductive Worked (bus : Bus) (t : String) (handlers : List String)
    (types : List (String × List String)) (s : System) (phase : Phase) (a : Action) (s' : System) :
    Pass → Prop
  | stays {phase' : Phase} {made : List (Nat × String)} (hnext : phase' ≠ .idle)
      (hhand : AtHand bus s' t phase') (hmade : Advances bus t s s' made)
      (howed : owed handlers phase = made ++ owed handlers phase')
      (hspares : Spares bus (s, ⟨(t, handlers) :: types, phase⟩) a = true) :
      Worked bus t handlers types s phase a s' ⟨(t, handlers) :: types, phase'⟩
  | leaves (hmade : Advances bus t s s' [])
      (hspares : Spares bus (s, ⟨(t, handlers) :: types, phase⟩) a = true ↔
        owed handlers phase = []) :
      Worked bus t handlers types s phase a s' ⟨types, .idle⟩

/-- **A step makes the next call that is owed**, or none. -/
theorem worked_of_move {handlers : List String} {types : List (String × List String)}
    {phase : Phase} {a : Action} {p' : Pass} (hne : handlers ≠ []) (hphase : phase ≠ .idle)
    (hhand : AtHand bus s t phase) (h : Move bus s ⟨(t, handlers) :: types, phase⟩ a s' p') :
    Worked bus t handlers types s phase a s' p' := by
  have hg := grows_of_move h
  cases h with
  | skipped => exact absurd rfl hphase
  | readRefused => exact absurd rfl hphase
  | readDone hn => exact absurd rfl hphase
  | readLost => exact absurd rfl hphase
  | batchDone =>
      refine .leaves (advances_silent hg rfl rfl) ?_
      simp [Spares, owed]
  | undecodable hf hd =>
      refine .leaves (advances_silent hg rfl rfl) ?_
      simp [Spares, owed, hf, hd, hne]
  | decoded hf hd =>
      refine .stays nofun ⟨_, _, hf, hd⟩ (advances_silent hg rfl rfl) ?_ ?_
      · simp [owed]
      · simp [Spares, hf, hd]
  | succeeded => exact .stays nofun hhand (advances_called hhand) rfl (by simp [Spares])
  | failed => exact .stays nofun hhand (advances_called hhand) rfl (by simp [Spares])
  | copied => exact .stays nofun (hhand.grows hg) (advances_copied _ _ hhand) rfl rfl
  | copyLost =>
      refine .leaves (advances_copied _ _ hhand) ?_
      rw [owed, List.append_eq_nil_iff, owed_nil_iff hne]
      simp [Spares]
  | copyRefused =>
      refine .leaves (advances_silent hg rfl rfl) ?_
      rw [owed, List.append_eq_nil_iff, owed_nil_iff hne]
      simp [Spares]
  | acked => exact .stays nofun trivial (advances_silent hg rfl rfl) rfl rfl
  | ackLost =>
      refine .leaves (advances_silent hg rfl rfl) ?_
      rw [owed, List.append_eq_nil_iff, owed_nil_iff hne]
      simp [Spares]
  | ackRefused =>
      refine .leaves (advances_silent hg rfl rfl) ?_
      rw [owed, List.append_eq_nil_iff, owed_nil_iff hne]
      simp [Spares]
  | unacked => exact .stays nofun trivial (advances_silent hg rfl rfl) rfl rfl

/-! ## A batch -/

/- So in a run the calls made are a beginning of those owed, and they are all of them
exactly when the batch is left with nothing owed. -/

/-- Nothing that is left of a batch is given up in the course of a run. -/
def SparesAll (bus : Bus) (sp : System × Pass) (actions : List Action) : Prop :=
  Along (passAlone bus) (fun sp a => Spares bus sp a = true) sp actions

instance (bus : Bus) (sp : System × Pass) (actions : List Action) :
    Decidable (SparesAll bus sp actions) := decidableAlong _ _ _ _

/-- The pass is back at the next event type as soon as it leaves this one. -/
theorem nothing_after {types : List (String × List String)} {actions : List Action}
    (h : exec (passAlone bus) (s, ⟨types, .idle⟩) actions = some (s', ⟨types, .idle⟩)) :
    actions = [] ∧ s = s' := by
  have hle := length_le_work h
  have hlength : actions.length = 0 := by
    simp only at hle
    omega
  obtain rfl := List.length_eq_zero_iff.mp hlength
  cases h
  exact ⟨rfl, rfl⟩

/-- A run makes the calls in the order they are owed in. -/
theorem advances_of_run {handlers : List String} {types : List (String × List String)}
    {phase : Phase} {actions : List Action} (hne : handlers ≠ []) (hphase : phase ≠ .idle)
    (hhand : AtHand bus s t phase)
    (h : exec (passAlone bus) (s, ⟨(t, handlers) :: types, phase⟩) actions =
      some (s', ⟨types, .idle⟩)) :
    ∃ made dropped, Advances bus t s s' made ∧ owed handlers phase = made ++ dropped ∧
      (SparesAll bus (s, ⟨(t, handlers) :: types, phase⟩) actions ↔ dropped = []) := by
  induction actions generalizing s phase with
  | nil =>
      have hsame := congrArg Pass.types (congrArg Prod.snd (Option.some.inj h))
      exact absurd hsame (List.cons_ne_self _ _)
  | cons a actions ih =>
      obtain ⟨⟨s₁, p₁⟩, hstep, hrest⟩ := exec_cons h
      have hall : SparesAll bus (s, ⟨(t, handlers) :: types, phase⟩) (a :: actions) ↔
          Spares bus (s, ⟨(t, handlers) :: types, phase⟩) a = true ∧
            SparesAll bus (s₁, p₁) actions := by
        simp only [SparesAll, Along, hstep]
      rw [hall]
      cases worked_of_move hne hphase hhand (move_of_passAlone hstep) with
      | @stays phase' made hnext hhand' hmade howed hspares =>
          obtain ⟨made', dropped, hmade', howed', hiff⟩ := ih hnext hhand' hrest
          refine ⟨made ++ made', dropped, hmade.trans hmade', ?_, ?_⟩
          · rw [howed, howed', List.append_assoc]
          · rw [hiff, hspares]
            simp
      | leaves hmade hspares =>
          obtain ⟨rfl, rfl⟩ := nothing_after hrest
          exact ⟨[], owed handlers phase, hmade, rfl, by simp [hspares, SparesAll, Along]⟩

/-- The calls owed for one message. -/
theorem filter_owed (handlers : List String) {messages : List Nat} (hnodup : messages.Nodup)
    {m : Nat} (hm : m ∈ messages) :
    ((owed handlers (.batch messages)).filter fun c => c.1 = m) = handlers.map (Prod.mk m) := by
  have hself : (handlers.map (Prod.mk m)).filter (fun c => c.1 = m) = handlers.map (Prod.mk m) := by
    simp
  have hother : ∀ m' ≠ m, (handlers.map (Prod.mk m')).filter (fun c => c.1 = m) = [] := by
    intro m' hne
    simp [hne]
  have hnone : ∀ l : List Nat, m ∉ l →
      ((l.flatMap fun m' => handlers.map (Prod.mk m')).filter fun c => c.1 = m) = [] := by
    intro l hl
    rw [List.filter_flatMap, List.flatMap_eq_nil_iff]
    intro m' hm'
    exact hother m' fun heq => hl (heq ▸ hm')
  obtain ⟨before, after, rfl⟩ := List.append_of_mem hm
  obtain ⟨-, hafter, hdisjoint⟩ := List.nodup_append.mp hnodup
  have hbefore : m ∉ before := fun hin => hdisjoint m hin m List.mem_cons_self rfl
  simp only [owed, List.flatMap_append, List.flatMap_cons, List.filter_append, hself,
    hnone before hbefore, hnone after (List.nodup_cons.mp hafter).1, List.nil_append,
    List.append_nil]

/-- Entries of a reply are stored, and a stored entry stays what it is. -/
theorem Grows.decodable {m : Nat} (hg : Grows s s')
    (hstored : m < (s.streams (bus.streamKey t)).entries.length) (h : Decodable bus s' t m) :
    Decodable bus s t m := by
  obtain ⟨event, fields, hfields, hd⟩ := h
  have hentry := List.getElem?_eq_getElem hstored
  have hsame := hg.entries _ _ _ hentry
  rw [hfields] at hsame
  obtain rfl := Option.some.inj hsame
  exact ⟨event, _, hentry, hd⟩

/-- The calls that are new for a message are those made for it. -/
theorem map_callsSince {calls : List HandlerCall} (hcalls : s'.calls = s.calls ++ calls)
    (hfor : ∀ c ∈ calls, c.eventType = t) (m : Nat) :
    (callsSince s s' t m).map HandlerCall.pair =
      (calls.map HandlerCall.pair).filter fun c => c.1 = m := by
  have hnew : callsSince s s' t m = calls.filter fun c => c.message = m := by
    rw [callsSince, hcalls, List.drop_left]
    apply List.filter_congr
    intro c hc
    simp [hfor c hc]
  rw [hnew, List.filter_map]
  rfl

/-- The server after two entries were added to one stream. -/
def twoEntries (fields fields' : List String) : System :=
  (System.init.xadd (sampleBus.streamKey TENANT_CREATED) fields).xadd
    (sampleBus.streamKey TENANT_CREATED) fields'

/-- One handler fails on the first entry, and the last acknowledgement is lost. -/
def servedActions : List Action :=
  [.next, .handle none, .handle (some "boom"), .deadLetter 1716500005000 .done, .finish .done,
   .next, .handle none, .handle none, .finish .lost]

end Atlas.RedisStreamsEventBus
