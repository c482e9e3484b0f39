import Atlas.Redis.Delivery

/-!
# Atlas.Redis.Pass

One run of `consumePendingMessages`, on its own.

`work` counts the steps a pass can still take, so every run of a pass is finite
(`length_le_work`); what keeps a pass from its end is a read that does not
return.  `BLOCK 0` makes `XREADGROUP` wait for as long as the stream has no
entry for the group, and the event types are read one after the other:
`pass_progresses_iff` says when a pass gets through them.
-/

namespace Atlas.RedisStreamsEventBus

open StoreKit

/-- A pass and the server it works on. -/
def passAlone (bus : Bus) (sp : System × Pass) (a : Action) : Option (System × Pass) :=
  passStep bus sp.1 sp.2 a

variable {bus : Bus} {s s' : System} {p p' : Pass}

theorem move_of_passAlone {sp sp' : System × Pass} {a : Action}
    (h : passAlone bus sp a = some sp') : Move bus sp.1 sp.2 a sp'.1 sp'.2 := move_of_passStep h

/-! ## Every run is finite -/

/- Each message takes one step to decode, two for each handler at most, and one to
acknowledge; each event type takes one read of at most ten messages. -/

/-- The steps one message takes at most. -/
def messageWork (handlers : List String) : Nat := 2 * handlers.length + 2

/-- The steps a pass can still take for the event type it is at. -/
def phaseWork (handlers : List String) : Phase → Nat
  | .idle => 10 * messageWork handlers + 2
  | .batch messages => messages.length * messageWork handlers + 1
  | .dispatch _ _ left _ messages =>
      2 * left.length + 2 + messages.length * messageWork handlers
  | .deadLetter _ _ _ _ left messages =>
      2 * left.length + 3 + messages.length * messageWork handlers

/-- The steps a pass can take for event types it has yet to read. -/
def typesWork : List (String × List String) → Nat
  | [] => 0
  | x :: types => phaseWork x.2 .idle + typesWork types

/-- The steps a pass can still take. -/
def work : Pass → Nat
  | ⟨[], _⟩ => 0
  | ⟨x :: types, phase⟩ => phaseWork x.2 phase + typesWork types

theorem work_idle (types : List (String × List String)) : work ⟨types, .idle⟩ = typesWork types := by
  cases types with
  | nil => rfl
  | cons x types => rfl

theorem work_cons (x : String × List String) (types : List (String × List String))
    (phase : Phase) : work ⟨x :: types, phase⟩ = phaseWork x.2 phase + typesWork types := rfl

/-- A read takes ten entries at most. -/
theorem available_le (stream : Stream) : stream.available ≤ 10 := Nat.min_le_left _ _

/-- Every step leaves less to do. -/
theorem work_lt {a : Action} (h : Move bus s p a s' p') : work p' < work p := by
  cases h with
  | @readDone t h hs types hn =>
      have hle := Nat.mul_le_mul_right (messageWork (h :: hs))
        (available_le (s.streams (bus.streamKey t)))
      simp only [work_cons, phaseWork, List.length_range']
      omega
  | decoded hf hd =>
      simp only [work_cons, phaseWork, messageWork, List.length_cons, Nat.succ_mul]
      omega
  | _ =>
      simp only [work_idle, work_cons, typesWork, phaseWork, List.length_cons]
      omega

/-- **A pass takes finitely many steps**, whatever happens in it. -/
theorem length_le_work {sp sp' : System × Pass} {actions : List Action}
    (h : exec (passAlone bus) sp actions = some sp') :
    work sp'.2 + actions.length ≤ work sp.2 := by
  induction actions generalizing sp with
  | nil =>
      cases h
      exact Nat.le_refl _
  | cons a actions ih =>
      obtain ⟨m, hm, hrest⟩ := exec_cons h
      have hlt := work_lt (move_of_passAlone hm)
      have hle := ih hrest
      rw [List.length_cons]
      omega

/-! ## What a step within an event type changes -/

/-- A pass only adds to the streams. -/
theorem grows_of_move {a : Action} (h : Move bus s p a s' p') : Grows s s' := by
  cases h with
  | readDone hn => exact grows_deliver _ _ _
  | readLost => exact grows_deliver _ _ _
  | succeeded => exact grows_called _ _
  | failed => exact grows_called _ _
  | copied => exact grows_copied _ _ _ _ _ _
  | copyLost => exact grows_copied _ _ _ _ _ _
  | acked => exact grows_xack _ _ _
  | ackLost => exact grows_xack _ _ _
  | _ => exact grows_refl _

/-- An entry that is added has yet to be delivered. -/
theorem delivered_xadd (s : System) (key : String) (fields : List String) (k : String) :
    ((s.xadd key fields).streams k).delivered = (s.streams k).delivered := by
  unfold System.xadd
  exact delivered_onStream rfl k

/-- A step of a pass that has read the type it is at: the group is delivered
nothing more, and the pass stays with some of its messages or leaves the type. -/
structure Within (x : String × List String) (types : List (String × List String)) (phase : Phase)
    (s s' : System) (p' : Pass) : Prop where
  delivered : ∀ key, (s'.streams key).delivered = (s.streams key).delivered
  next : p' = ⟨types, .idle⟩ ∨ ∃ phase', p' = ⟨x :: types, phase'⟩ ∧ phase' ≠ .idle ∧
    ∀ m ∈ phase'.messages, m ∈ phase.messages

/-- A step inside a batch stays with its event type. -/
theorem within_of_move {x : String × List String} {types : List (String × List String)}
    {phase : Phase} {a : Action} (h : Move bus s ⟨x :: types, phase⟩ a s' p')
    (hphase : phase ≠ .idle) : Within x types phase s s' p' := by
  cases h with
  | skipped => exact absurd rfl hphase
  | readRefused => exact absurd rfl hphase
  | readDone hn => exact absurd rfl hphase
  | readLost => exact absurd rfl hphase
  | batchDone => exact ⟨fun _ => rfl, .inl rfl⟩
  | undecodable hf hd => exact ⟨fun _ => rfl, .inl rfl⟩
  | decoded hf hd => exact ⟨fun _ => rfl, .inr ⟨_, rfl, nofun, fun m hm => hm⟩⟩
  | succeeded => exact ⟨fun _ => rfl, .inr ⟨_, rfl, nofun, fun m hm => hm⟩⟩
  | failed => exact ⟨fun _ => rfl, .inr ⟨_, rfl, nofun, fun m hm => hm⟩⟩
  | copied => exact ⟨fun key => delivered_xadd s _ _ key, .inr ⟨_, rfl, nofun, fun m hm => hm⟩⟩
  | copyLost => exact ⟨fun key => delivered_xadd s _ _ key, .inl rfl⟩
  | copyRefused => exact ⟨fun _ => rfl, .inl rfl⟩
  | acked =>
      exact ⟨delivered_onStream rfl, .inr ⟨_, rfl, nofun, fun m hm => List.mem_cons_of_mem _ hm⟩⟩
  | ackLost => exact ⟨delivered_onStream rfl, .inl rfl⟩
  | ackRefused => exact ⟨fun _ => rfl, .inl rfl⟩
  | unacked => exact ⟨fun _ => rfl, .inr ⟨_, rfl, nofun, fun m hm => List.mem_cons_of_mem _ hm⟩⟩

/-- A pass that holds stored messages is never stuck within an event type. -/
theorem exists_step_within {x : String × List String} (types : List (String × List String))
    {phase : Phase} (hphase : phase ≠ .idle)
    (hstored : ∀ m ∈ phase.messages, m < (s.streams (bus.streamKey x.1)).entries.length) :
    ∃ a, (∀ reply, a ≠ .read reply) ∧
      (passAlone bus (s, ⟨x :: types, phase⟩) a).isSome = true := by
  obtain ⟨t, hs⟩ := x
  cases phase with
  | idle => exact absurd rfl hphase
  | batch ms =>
      cases ms with
      | nil => exact ⟨.next, nofun, by simp only [passAlone, passStep, Option.isSome_some]⟩
      | cons m ms =>
          obtain ⟨fields, hm⟩ : ∃ fields, (s.streams (bus.streamKey t)).entries[m]? = some fields :=
            ⟨_, List.getElem?_eq_getElem (hstored m List.mem_cons_self)⟩
          refine ⟨.next, nofun, ?_⟩
          simp only [passAlone, passStep, hm]
          cases deserializeEvent bus.parse fields with
          | none => rfl
          | some event => rfl
  | dispatch m event left all ms =>
      cases left with
      | cons name left =>
          exact ⟨.handle none, nofun, by simp only [passAlone, passStep, Option.isSome_some]⟩
      | nil =>
          refine ⟨.finish .done, nofun, ?_⟩
          cases all <;> simp only [passAlone, passStep, Option.isSome_some]
  | deadLetter m event name e left ms =>
      exact ⟨.deadLetter 0 .done, nofun, by simp only [passAlone, passStep, Option.isSome_some]⟩

/-! ## Progress -/

/- A read blocks only on a stream with nothing to deliver.  So a pass gets stuck at a type
and nowhere else, and the types it has read tell how far it came. -/

/-- Reads are answered: none is refused and no reply is lost. -/
def Answered : Action → Prop
  | .read reply => reply = .done
  | _ => True

/-- What a pass that starts on this server may come to, as long as its reads are
answered. -/
def PassReaches (bus : Bus) (s : System) (actions : List Action) (sp : System × Pass) : Prop :=
  (∀ a ∈ actions, Answered a) ∧ exec (passAlone bus) (s, ⟨bus.handlers, .idle⟩) actions = some sp

/-- The group has been delivered up to ten entries of a stream, and as many as
were waiting in it to begin with. -/
def ReadUp (s s' : System) (key : String) : Prop :=
  ∃ n ≤ 10, (s.streams key).available ≤ n ∧
    (s'.streams key).delivered = (s.streams key).delivered + n

/-- A pass that starts on this server comes to its end, and has read every
subscribed stream. -/
structure Progresses (bus : Bus) (s : System) : Prop where
  finite : ∃ n, ∀ actions sp, PassReaches bus s actions sp → actions.length ≤ n
  unblocked : ∀ actions s' p', PassReaches bus s actions (s', p') → p'.types ≠ [] →
    ∃ a, Answered a ∧ (passAlone bus (s', p') a).isSome = true
  reads : ∀ actions s' p', PassReaches bus s actions (s', p') → p'.types = [] →
    ∀ x ∈ bus.handlers, x.2 ≠ [] → ReadUp s s' (bus.streamKey x.1)

/-- The event types a pass has yet to read. -/
def Pass.unread : Pass → List (String × List String)
  | ⟨types, .idle⟩ => types
  | ⟨types, _⟩ => types.tail

/-- Inside a batch the event type itself has been read. -/
theorem unread_of_ne {types : List (String × List String)} {phase : Phase}
    (h : phase ≠ .idle) : Pass.unread ⟨types, phase⟩ = types.tail := by
  cases phase with
  | idle => exact absurd rfl h
  | _ => rfl

/-- No stream gets shorter. -/
theorem Grows.length_le (h : Grows s s') (key : String) :
    (s.streams key).entries.length ≤ (s'.streams key).entries.length := by
  by_contra hlt
  have hlt' : (s'.streams key).entries.length < (s.streams key).entries.length := by omega
  have hentry := h.entries key _ _ (List.getElem?_eq_getElem hlt')
  exact absurd (List.getElem?_eq_some_iff.mp hentry).1 (Nat.lt_irrefl _)

/-- What grows twice has grown. -/
theorem Grows.trans {s'' : System} (h : Grows s s') (h' : Grows s' s'') : Grows s s'' where
  entries key m fields hf := h'.entries key m fields (h.entries key m fields hf)
  acked key m hm := h'.acked key m (h.acked key m hm)
  deadLetters d hd := h'.deadLetters d (h.deadLetters d hd)

/-- What waits in a stream still waits, as long as none of it is delivered. -/
theorem Grows.available_le (h : Grows s s') {key : String}
    (hdelivered : (s'.streams key).delivered = (s.streams key).delivered) :
    (s.streams key).available ≤ (s'.streams key).available := by
  have hle := h.length_le key
  unfold Stream.available
  omega

/-- What holds of a pass that started on `s₀`. -/
structure Reading (bus : Bus) (s₀ : System) (sp : System × Pass) : Prop where
  grows : Grows s₀ sp.1
  unread : sp.2.unread <:+ bus.handlers
  waiting : ∀ x ∈ sp.2.unread, (sp.1.streams (bus.streamKey x.1)).delivered =
    (s₀.streams (bus.streamKey x.1)).delivered
  read : ∀ x ∈ bus.handlers, x.2 ≠ [] → x ∈ sp.2.unread ∨ ReadUp s₀ sp.1 (bus.streamKey x.1)
  stored : ∀ x ∈ sp.2.held, x.2 < (sp.1.streams (bus.streamKey x.1)).entries.length

/-- A pass begins with everything unread. -/
theorem reading_start (bus : Bus) (s : System) : Reading bus s (s, ⟨bus.handlers, .idle⟩) where
  grows := grows_refl s
  unread := List.suffix_rfl
  waiting _ _ := rfl
  read x hx _ := .inl hx
  stored x hx := by simp [held_left] at hx

/-- The pass reads the type it is at. -/
theorem reading_read {s₀ : System} {t h : String} {hs : List String}
    {types : List (String × List String)} (inv : Reading bus s₀ (s, ⟨(t, h :: hs) :: types, .idle⟩))
    (hn : (s.streams (bus.streamKey t)).available ≠ 0) :
    Reading bus s₀ (s.deliver (bus.streamKey t) (s.streams (bus.streamKey t)).available,
      ⟨(t, h :: hs) :: types, .batch (List.range' (s.streams (bus.streamKey t)).delivered
        (s.streams (bus.streamKey t)).available)⟩) := by
  have hsuffix : (t, h :: hs) :: types <:+ bus.handlers := inv.unread
  have hnames : ((t, h :: hs) :: types |>.map Prod.fst).Nodup :=
    bus.distinct.sublist (hsuffix.sublist.map _)
  have hother : ∀ x ∈ types, bus.streamKey x.1 ≠ bus.streamKey t := by
    intro x hx heq
    have hmem : x.1 ∈ types.map Prod.fst := List.mem_map_of_mem hx
    rw [bus.streamKey_inj heq] at hmem
    exact (List.nodup_cons.mp hnames).1 hmem
  have hwaiting := inv.waiting _ List.mem_cons_self
  constructor
  · exact inv.grows.trans (grows_deliver _ _ _)
  · exact (List.suffix_cons _ _).trans hsuffix
  · intro x hx
    rw [delivered_deliver, if_neg (hother x hx), Nat.add_zero]
    exact inv.waiting x (List.mem_cons_of_mem _ hx)
  · intro x hx hne
    by_cases hkey : bus.streamKey x.1 = bus.streamKey t
    · right
      rw [hkey]
      refine ⟨_, available_le (s.streams (bus.streamKey t)), inv.grows.available_le hwaiting, ?_⟩
      rw [delivered_deliver, if_pos rfl, hwaiting]
    · rcases inv.read x hx hne with hunread | ⟨n, hle, havailable, hdelivered⟩
      · rcases List.mem_cons.mp hunread with rfl | hmem
        · exact absurd rfl hkey
        · exact .inl hmem
      · refine .inr ⟨n, hle, havailable, ?_⟩
        rw [delivered_deliver, if_neg hkey, Nat.add_zero, hdelivered]
  · rintro ⟨t', m⟩ hx
    obtain ⟨rfl, hm⟩ := (held_cons _ _ _ _ _ _).mp hx
    have hrange := List.mem_range'_1.mp hm
    have hentries : ∀ n, ((s.deliver (bus.streamKey t') n).streams (bus.streamKey t')).entries =
        (s.streams (bus.streamKey t')).entries := fun n => by simp [System.deliver, System.onStream]
    show m < _
    rw [hentries]
    unfold Stream.available at hrange
    omega

/-- A step reads the next stream, or goes on with the messages at hand. -/
theorem reading_step (s₀ : System) (sp : System × Pass) (a : Action) (sp' : System × Pass)
    (inv : Reading bus s₀ sp) (hok : Answered a) (h : passAlone bus sp a = some sp') :
    Reading bus s₀ sp' := by
  obtain ⟨s, ⟨types, phase⟩⟩ := sp
  obtain ⟨s', p'⟩ := sp'
  have hmove : Move bus s ⟨types, phase⟩ a s' p' := move_of_passAlone h
  have hgrows := grows_of_move hmove
  by_cases hphase : phase = .idle
  · subst hphase
    cases hmove with
    | @skipped t types =>
        refine ⟨inv.grows, (List.suffix_cons _ _).trans inv.unread,
          fun x hx => inv.waiting x (List.mem_cons_of_mem _ hx), fun x hx hne => ?_,
          fun x hx => by simp [held_left] at hx⟩
        rcases inv.read x hx hne with hunread | hread
        · rcases List.mem_cons.mp hunread with rfl | hmem
          · exact absurd rfl hne
          · exact .inl hmem
        · exact .inr hread
    | readRefused => exact absurd hok nofun
    | readDone hn => exact reading_read inv hn
    | readLost => exact absurd hok nofun
  · cases types with
    | nil => exact nomatch hmove
    | cons x types =>
        have hwithin := within_of_move hmove hphase
        have hunread : p'.unread = Pass.unread ⟨x :: types, phase⟩ := by
          rw [unread_of_ne hphase]
          rcases hwithin.next with rfl | ⟨phase', rfl, hphase', -⟩
          · rfl
          · exact unread_of_ne hphase'
        constructor
        · exact inv.grows.trans hgrows
        · rw [hunread]
          exact inv.unread
        · intro y hy
          rw [hunread] at hy
          rw [hwithin.delivered, inv.waiting y hy]
        · intro y hy hne
          rw [hunread]
          rcases inv.read y hy hne with hmem | ⟨n, hle, havailable, hdelivered⟩
          · exact .inl hmem
          · exact .inr ⟨n, hle, havailable, by rw [hwithin.delivered, hdelivered]⟩
        · intro y hy
          obtain ⟨t, hs⟩ := x
          rcases hwithin.next with rfl | ⟨phase', rfl, -, hsub⟩
          · simp [held_left] at hy
          · obtain ⟨ht, hm⟩ := (held_cons _ _ _ _ _ _).mp hy
            have hlt := inv.stored y ((held_cons _ _ _ _ _ _).mpr ⟨ht, hsub _ hm⟩)
            exact Nat.lt_of_lt_of_le hlt (hgrows.length_le _)

/-- Where every subscribed stream has an entry waiting, no read blocks. -/
theorem exists_step {s₀ : System} (hall : ∀ x ∈ bus.handlers, x.2 ≠ [] →
    (s₀.streams (bus.streamKey x.1)).available ≠ 0) (inv : Reading bus s₀ (s, p))
    (hp : p.types ≠ []) : ∃ a, Answered a ∧ (passAlone bus (s, p) a).isSome = true := by
  obtain ⟨types, phase⟩ := p
  cases types with
  | nil => exact absurd rfl hp
  | cons x types =>
      by_cases hphase : phase = .idle
      · subst hphase
        obtain ⟨t, hs⟩ := x
        have hmem : (t, hs) ∈ Pass.unread ⟨(t, hs) :: types, .idle⟩ := List.mem_cons_self
        cases hs with
        | nil => exact ⟨.skip, trivial, rfl⟩
        | cons h hs =>
            have hn : (s.streams (bus.streamKey t)).available ≠ 0 := by
              have hle := inv.grows.available_le (inv.waiting _ hmem)
              have hne := hall _ (inv.unread.subset hmem) (List.cons_ne_nil h hs)
              simp only at hle hne
              omega
            exact ⟨.read .done, rfl, by
              simp only [passAlone, passStep, if_neg hn, Option.isSome_some]⟩
      · obtain ⟨a, hread, hsome⟩ := exists_step_within types hphase
          fun m hm => inv.stored (x.1, m) ((held_cons _ _ _ _ _ _).mpr ⟨rfl, hm⟩)
        refine ⟨a, ?_, hsome⟩
        cases a with
        | read reply => exact absurd rfl (hread reply)
        | _ => trivial

/-! ## The first idle stream -/

/- For the converse a pass is driven to the first idle type by handlers that all return.
The streams from there on are as they were, so its read waits. -/

/-- A pass calls all handlers that are left, where each of them returns, and leaves the
streams. -/
theorem exec_handlers (bus : Bus) (t : String) (hs : List String)
    (types : List (String × List String)) (m : Nat) (event : DeserializedEvent)
    (left : List String) (all : Bool) (ms : List Nat)
    (s : System) :
    ∃ s', exec (passAlone bus) (s, ⟨(t, hs) :: types, .dispatch m event left all ms⟩)
        (left.map fun _ => .handle none) =
          some (s', ⟨(t, hs) :: types, .dispatch m event [] all ms⟩) ∧ s'.streams = s.streams := by
  induction left generalizing s with
  | nil => exact ⟨s, rfl, rfl⟩
  | cons name left ih =>
      obtain ⟨s', hexec, hstreams⟩ := ih { s with calls := s.calls ++ [⟨t, m, name, none⟩] }
      refine ⟨s', ?_, hstreams⟩
      simp only [List.map_cons, exec, passAlone, passStep]
      exact hexec

/-- A pass can get past a stream in which something waits without adding an
entry anywhere. -/
theorem leaves_type {t h : String} (hs : List String) (types : List (String × List String))
    (hn : (s.streams (bus.streamKey t)).available ≠ 0) :
    ∃ actions s', (∀ a ∈ actions, Answered a) ∧
      exec (passAlone bus) (s, ⟨(t, h :: hs) :: types, .idle⟩) actions = some (s', ⟨types, .idle⟩) ∧
        ∀ key, key ≠ bus.streamKey t → s'.streams key = s.streams key := by
  obtain ⟨n, hn'⟩ := Nat.exists_eq_succ_of_ne_zero hn
  have hlt : (s.streams (bus.streamKey t)).delivered <
      (s.streams (bus.streamKey t)).entries.length := by
    unfold Stream.available at hn
    omega
  let s₁ := s.deliver (bus.streamKey t) (s.streams (bus.streamKey t)).available
  let ms := List.range' ((s.streams (bus.streamKey t)).delivered + 1) n
  let m := (s.streams (bus.streamKey t)).delivered
  have hother : ∀ key, key ≠ bus.streamKey t → s₁.streams key = s.streams key :=
    fun key hne => by simp [s₁, System.deliver, System.onStream, hne]
  have hread : exec (passAlone bus) (s, ⟨(t, h :: hs) :: types, .idle⟩) [.read .done] =
      some (s₁, ⟨(t, h :: hs) :: types, .batch (m :: ms)⟩) := by
    have hrange : List.range' m (n + 1) = m :: ms := List.range'_succ
    simp only [exec, passAlone, passStep, if_neg hn]
    rw [hn', ← hrange]
    simp only [s₁, hn']
    rfl
  obtain ⟨fields, hfields⟩ : ∃ fields, (s₁.streams (bus.streamKey t)).entries[m]? = some fields := by
    refine ⟨_, List.getElem?_eq_getElem ?_⟩
    simpa [s₁, m, System.deliver, System.onStream] using hlt
  cases hd : deserializeEvent bus.parse fields with
  | none =>
      refine ⟨[.read .done] ++ [.next], s₁, by simp [Answered], ?_, hother⟩
      rw [exec_append, hread]
      simp only [Option.bind_some, exec, passAlone, passStep, hfields, hd]
  | some event =>
      obtain ⟨s₂, hcalls, hstreams⟩ :=
        exec_handlers bus t (h :: hs) types m event (h :: hs) true ms s₁
      refine ⟨[.read .done] ++ ([.next] ++ ((h :: hs).map (fun _ => .handle none) ++
        [.finish .refused])), s₂, ?_, ?_, fun key hne => ?_⟩
      · simp only [List.mem_append, List.mem_map, List.mem_singleton]
        rintro a (rfl | rfl | ⟨_, _, rfl⟩ | rfl)
        · rfl
        · trivial
        · trivial
        · trivial
      · rw [exec_append, hread, Option.bind_some, exec_append]
        have hnext : exec (passAlone bus) (s₁, ⟨(t, h :: hs) :: types, .batch (m :: ms)⟩) [.next] =
            some (s₁, ⟨(t, h :: hs) :: types, .dispatch m event (h :: hs) true ms⟩) := by
          simp only [exec, passAlone, passStep, hfields, hd]
        rw [hnext, Option.bind_some, exec_append, hcalls]
        simp only [Option.bind_some, exec, passAlone, passStep]
      · rw [hstreams]
        exact hother key hne

/-- A pass can get to an event type when something waits in every stream before
it, and leave the streams from there on as they were. -/
theorem reaches_type {pre : List (String × List String)} (rest : List (String × List String))
    (hpre : ∀ x ∈ pre, x.2 ≠ [] → (s.streams (bus.streamKey x.1)).available ≠ 0)
    (hdistinct : ((pre ++ rest).map Prod.fst).Nodup) :
    ∃ actions s', (∀ a ∈ actions, Answered a) ∧
      exec (passAlone bus) (s, ⟨pre ++ rest, .idle⟩) actions = some (s', ⟨rest, .idle⟩) ∧
        ∀ x ∈ rest, s'.streams (bus.streamKey x.1) = s.streams (bus.streamKey x.1) := by
  induction pre generalizing s with
  | nil => exact ⟨[], s, fun a ha => absurd ha List.not_mem_nil, rfl, fun _ _ => rfl⟩
  | cons x pre ih =>
      obtain ⟨t, hs⟩ := x
      rw [List.cons_append, List.map_cons, List.nodup_cons] at hdistinct
      have hpre' := fun y hy => hpre y (List.mem_cons_of_mem _ hy)
      cases hs with
      | nil =>
          obtain ⟨actions, s', hanswered, hexec, hsame⟩ := ih hpre' hdistinct.2
          refine ⟨.skip :: actions, s', List.forall_mem_cons.mpr ⟨trivial, hanswered⟩, ?_, hsame⟩
          simp only [List.cons_append, exec, passAlone, passStep]
          exact hexec
      | cons h hs =>
          have hn := hpre _ List.mem_cons_self (List.cons_ne_nil h hs)
          obtain ⟨actions₁, s₁, hanswered₁, hexec₁, hother⟩ :=
            leaves_type hs (pre ++ rest) hn
          have hne : ∀ y ∈ pre ++ rest, bus.streamKey y.1 ≠ bus.streamKey t := by
            intro y hy heq
            have hmem : y.1 ∈ (pre ++ rest).map Prod.fst := List.mem_map_of_mem hy
            rw [bus.streamKey_inj heq] at hmem
            exact hdistinct.1 hmem
          have hpre₁ : ∀ y ∈ pre, y.2 ≠ [] →
              (s₁.streams (bus.streamKey y.1)).available ≠ 0 := by
            intro y hy
            rw [hother _ (hne y (List.mem_append_left _ hy))]
            exact hpre' y hy
          obtain ⟨actions₂, s₂, hanswered₂, hexec₂, hsame⟩ := ih hpre₁ hdistinct.2
          refine ⟨actions₁ ++ actions₂, s₂, ?_, ?_, fun y hy => ?_⟩
          · exact fun a ha => (List.mem_append.mp ha).elim (hanswered₁ a) (hanswered₂ a)
          · rw [List.cons_append, exec_append, hexec₁]
            exact hexec₂
          · rw [hsame y hy]
            exact hother _ (hne y (List.mem_append_right _ hy))

/-- **When an idle event type stalls the others**: a pass comes to its end and
reads every subscribed stream, whatever its handlers and its other commands do,
if and only if an entry waits in each of these streams when it starts. -/
theorem pass_progresses_iff (bus : Bus) (s : System) :
    Progresses bus s ↔ ∀ x ∈ bus.handlers, x.2 ≠ [] →
      (s.streams (bus.streamKey x.1)).available ≠ 0 := by
  constructor
  · intro hprogress x hx hne hidle
    let blocks (y : String × List String) : Bool :=
      y.2 ≠ [] ∧ (s.streams (bus.streamKey y.1)).available = 0
    obtain ⟨y, hfind⟩ : ∃ y, bus.handlers.find? blocks = some y := by
      rw [← Option.isSome_iff_exists, List.find?_isSome]
      exact ⟨x, hx, by simp [blocks, hne, hidle]⟩
    -- `y` is the first type to block, and a pass gets to it
    obtain ⟨hblocks, pre, rest, hsplit, hpre⟩ := List.find?_eq_some_iff_append.mp hfind
    obtain ⟨hne', hidle'⟩ : y.2 ≠ [] ∧ (s.streams (bus.streamKey y.1)).available = 0 := by
      simpa [blocks] using hblocks
    have hpre' : ∀ z ∈ pre, z.2 ≠ [] → (s.streams (bus.streamKey z.1)).available ≠ 0 := by
      intro z hz hzne hzidle
      exact absurd (hpre z hz) (by simp [blocks, hzne, hzidle])
    obtain ⟨actions, s', hanswered, hexec, hsame⟩ :=
      reaches_type (y :: rest) hpre' (hsplit ▸ bus.distinct)
    rw [← hsplit] at hexec
    obtain ⟨a, ha, hsome⟩ := hprogress.unblocked actions s' _ ⟨hanswered, hexec⟩ nofun
    obtain ⟨⟨s'', p''⟩, hstep⟩ := Option.isSome_iff_exists.mp hsome
    have hmove : Move bus s' ⟨y :: rest, .idle⟩ a s'' p'' := move_of_passAlone hstep
    obtain ⟨t, hs⟩ := y
    obtain ⟨h, hs, rfl⟩ := List.exists_cons_of_ne_nil hne'
    cases hmove with
    | readRefused => exact absurd ha nofun
    | readDone hn => exact hn (by rw [hsame _ List.mem_cons_self, hidle'])
    | readLost => exact absurd ha nofun
  · intro hall
    have hreading : ∀ actions sp, PassReaches bus s actions sp → Reading bus s sp := by
      rintro actions sp ⟨hanswered, hexec⟩
      have hok : Along (passAlone bus) (fun _ a => Answered a) (s, ⟨bus.handlers, .idle⟩)
          actions := by
        apply along_of_prefixes
        rintro before a after m rfl -
        exact hanswered a (by simp)
      exact exec_invariant (reading_step s) (reading_start bus s) hok hexec
    constructor
    · refine ⟨work ⟨bus.handlers, .idle⟩, fun actions sp hreaches => ?_⟩
      exact Nat.le_trans (Nat.le_add_left _ _) (length_le_work hreaches.2)
    · exact fun actions s' p' hreaches hp => exists_step hall (hreading _ _ hreaches) hp
    · intro actions s' p' hreaches hp x hx hne
      rcases (hreading _ _ hreaches).read x hx hne with hunread | hread
      · obtain ⟨types, phase⟩ := p'
        obtain rfl : types = [] := hp
        cases phase <;> exact absurd hunread List.not_mem_nil
      · exact hread

/-- Two event types, of which only the second one is ever published. -/
def idleBus : Bus where
  streamPrefix := "atlas:events:"
  parse _ := some (.obj [])
  handlers := [(TENANT_CREATED, ["audit"]), (TENANT_SUSPENDED, ["audit"])]
  distinct := by decide

/-- The pass waits for the first event type, and the event of the second one
stays where it is. -/
theorem idle_type_stalls :
    ¬ ∀ (bus : Bus) (s : System), (∀ x ∈ bus.handlers, x.2 ≠ []) → Progresses bus s := by
  intro hclaim
  let s : System := System.init.xadd (idleBus.streamKey TENANT_SUSPENDED) (sampleFields "e-1")
  have hprogress : Progresses idleBus s := hclaim idleBus s (by decide)
  obtain ⟨a, ha, hsome⟩ := hprogress.unblocked [] s ⟨idleBus.handlers, .idle⟩
    ⟨fun a ha => absurd ha List.not_mem_nil, rfl⟩ nofun
  obtain ⟨⟨s', p'⟩, hstep⟩ := Option.isSome_iff_exists.mp hsome
  have hmove : Move idleBus s ⟨idleBus.handlers, .idle⟩ a s' p' := move_of_passAlone hstep
  cases hmove with
  | readRefused => exact absurd ha nofun
  | readDone hn => exact hn (by decide +kernel)
  | readLost => exact absurd ha nofun

end Atlas.RedisStreamsEventBus
