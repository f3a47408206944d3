import AirQuality.Mqtt.Keepalive

/-!
# Address lookups

Every reconnection looks the broker's address up again and puts the result in `haddr`. Nothing in
`mqtt.c` gives a result back, so each one that succeeds stays allocated.
-/

namespace AirQuality.Mqtt
open Foundation

/-- A successful `getaddrinfo` allocates its result. -/
def Call.allocates : Call → Bool
  | .getaddrinfo (.resolved _) => true
  | _ => false

/-- The results not yet released. Only `freeaddrinfo` releases one, which the client never calls. -/
def unreleased (calls : List Call) : Nat := calls.countP Call.allocates

structure Untouched (s t : State) : Prop where
  haddr : t.haddr = s.haddr
  log : Extends (fun call => call.allocates = false) s t

theorem Untouched.refl (s : State) : Untouched s s := ⟨rfl, extends_refl _ s⟩

theorem Untouched.trans {s t u : State} (first : Untouched s t) (second : Untouched t u) : Untouched s u :=
  ⟨second.haddr.trans first.haddr, first.log.trans second.log⟩

theorem Untouched.unreleased {s t : State} (untouched : Untouched s t) :
    Mqtt.unreleased t.calls = Mqtt.unreleased s.calls := by
  obtain ⟨more, same, without⟩ := untouched.log
  have zero : more.countP Call.allocates = 0 := List.countP_eq_zero.mpr fun call present => by simp [without call present]
  unfold Mqtt.unreleased
  rw [same, List.countP_append, zero, Nat.add_zero]

theorem untouched_record {s : State} {call : Call} (without : call.allocates = false) : Untouched s (s.record call) :=
  ⟨rfl, extends_record without⟩

theorem Call.Plain.not_allocates {call : Call} (plain : call.Plain) : call.allocates = false := by
  cases call with
  | getaddrinfo => exact plain.elim
  | _ => rfl

theorem Received.untouched {s t : State} (received : Received s t) : Untouched s t :=
  ⟨received.haddr, received.log.mono fun _ plain => plain.not_allocates⟩

theorem connectRound_untouched {s : State} (idle : Idle s) (attempt : Attempt) :
    Untouched s (connectRound s attempt).2 := by
  refine ⟨(connectRound_spec idle attempt).haddr, ?_⟩
  apply connectRound_log idle _ fun _ plain => plain.not_allocates
  unfold dialCalls
  cases attempt.connect <;> simp [Call.allocates]

theorem connectLoop_untouched (attempt : Nat → Attempt) (retries : Nat) {s : State} (idle : Idle s) :
    Untouched s (connectLoop attempt retries s).2 := by
  apply connectLoop_invariant _ attempt retries idle (Untouched.refl s)
  intro t idle' attempt untouched
  exact untouched.trans (connectRound_untouched idle' attempt)

theorem afterWrite_untouched {s : State} {call : Call} (without : call.allocates = false) (result : WriteResult) :
    Untouched s (afterWrite (s.record call) result) := by
  have recorded : Untouched s (s.record call) := untouched_record without
  exact recorded.trans (afterWrite_received (s.record call) result).untouched

theorem publish_untouched (s : State) (topic payload : Text) (retain : Bool) (env : PublishEnv) :
    Untouched (ensureConnected s env.toConnectEnv).2 (mqttPublishToTopic s topic payload retain env).2 := by
  apply mqttPublishToTopic_invariant _ topic payload retain env (Untouched.refl _)
  intro t untouched param result
  exact untouched.trans (afterWrite_untouched rfl result)

theorem subscribe_untouched (s : State) (subs : List Subscription) (env : SubscribeEnv) :
    Untouched (ensureConnected s env.toConnectEnv).2 (mqttSubscribeToTopic s subs env).2 := by
  apply mqttSubscribeToTopic_invariant _ _ subs env (Untouched.refl _)
  · intro t untouched topic result
    exact untouched.trans (afterWrite_untouched rfl result)
  · intro t subs untouched
    exact untouched.trans ⟨rfl, extends_of_calls rfl⟩

/-- One more result is allocated, and `haddr` holds it. -/
def Allocates (s t : State) : Prop := t.haddr ≠ none ∧ unreleased t.calls = unreleased s.calls + 1

theorem Allocates.after {s t u : State} (untouched : Untouched s t) (allocates : Allocates t u) : Allocates s u :=
  ⟨allocates.1, by rw [allocates.2, untouched.unreleased]⟩

theorem Allocates.untouched {s t u : State} (allocates : Allocates s t) (untouched : Untouched t u) : Allocates s u :=
  ⟨by rw [untouched.haddr]; exact allocates.1, untouched.unreleased.trans allocates.2⟩

theorem lookupLoop_allocates (lookup : Nat → LookupResult) (retries : Nat) (rc : Int) (s : State) :
    (Resolves lookup retries ∧ Allocates s (lookupLoop lookup retries rc s).2) ∨
      (¬ Resolves lookup retries ∧ Untouched s (lookupLoop lookup retries rc s).2) := by
  induction retries generalizing rc s with
  | zero => exact Or.inr ⟨not_false, Untouched.refl s⟩
  | succ retries ih =>
    unfold lookupLoop Resolves
    cases lookup retries with
    | resolved address =>
      refine Or.inl ⟨Or.inl ⟨address, rfl⟩, Option.some_ne_none address, ?_⟩
      simp [unreleased, State.record, Call.allocates]
    | failed code nonzero =>
      have asked : Untouched s (s.record (.getaddrinfo (.failed code nonzero))) := untouched_record rfl
      rcases ih code (s.record (.getaddrinfo (.failed code nonzero))) with ⟨resolves, later⟩ | ⟨fails, later⟩
      · exact Or.inl ⟨Or.inr resolves, Allocates.after asked later⟩
      · exact Or.inr ⟨by simpa using fails, asked.trans later⟩

theorem ensureConnected_allocates {s : State} (consistent : Consistent s) (env : ConnectEnv) :
    (s.mqttConnected = false ∧ Resolves env.lookup 3 ∧ Allocates s (ensureConnected s env).2) ∨
      (¬ (s.mqttConnected = false ∧ Resolves env.lookup 3) ∧ Untouched s (ensureConnected s env).2) := by
  unfold ensureConnected
  cases connected : s.mqttConnected with
  | true => exact Or.inr ⟨by simp, Untouched.refl s⟩
  | false =>
    obtain ⟨quiet, _⟩ := lookupLoop_quiet env.lookup 3 Errno.einval.code s
    have dialled := connectLoop_untouched env.attempt 3 (quiet.idle (consistent.idle connected))
    have looked := lookupLoop_allocates env.lookup 3 Errno.einval.code s
    simp only [Bool.false_eq_true, if_false]
    rcases connectToServer_cases s env with ⟨missing, _, same⟩ | ⟨resolves, same⟩
    · rw [same]
      exact Or.inr ⟨fun both => missing both.2, (looked.resolve_left fun found => missing found.1).2⟩
    · have allocates := (looked.resolve_right fun failed => failed.1 resolves).2
      rw [same]
      exact Or.inl ⟨trivial, resolves, allocates.untouched dialled⟩

/-! ### Steps and runs -/

/-- The step publishes or subscribes while disconnected, and the broker's address is found. -/
def LooksUp (s : State) (action : Step) : Prop :=
  ∃ env, action.env = some env ∧ s.mqttConnected = false ∧ Resolves env.lookup 3

theorem step_allocates {s : State} (consistent : Consistent s) (action : Step) :
    (LooksUp s action ∧ Allocates s (step s action)) ∨ (¬ LooksUp s action ∧ Untouched s (step s action)) := by
  have other : action.env = none → Untouched s (step s action) →
      (LooksUp s action ∧ Allocates s (step s action)) ∨ (¬ LooksUp s action ∧ Untouched s (step s action)) := by
    intro outside untouched
    refine Or.inr ⟨?_, untouched⟩
    intro looks
    obtain ⟨env, inside, _⟩ := looks
    rw [outside] at inside
    cases inside
  have calls : ∀ env, action.env = some env → Untouched (ensureConnected s env).2 (step s action) →
      (LooksUp s action ∧ Allocates s (step s action)) ∨ (¬ LooksUp s action ∧ Untouched s (step s action)) := by
    intro env inside after
    rcases ensureConnected_allocates consistent env with ⟨disconnected, resolves, allocates⟩ | ⟨fails, untouched⟩
    · exact Or.inl ⟨⟨env, inside, disconnected, resolves⟩, allocates.untouched after⟩
    · refine Or.inr ⟨?_, untouched.trans after⟩
      intro looks
      obtain ⟨_, same, both⟩ := looks
      rw [inside] at same
      cases same
      exact fails both
  cases action with
  | publish topic payload retain env => exact calls _ rfl (publish_untouched s topic payload retain env)
  | subscribe subs env => exact calls _ rfl (subscribe_untouched s subs env)
  | pollCalls =>
    refine other rfl ⟨?_, (pollCalls_log s).mono fun call poll => ?_⟩
    · show (pollCalls s).haddr = s.haddr
      unfold pollCalls
      split
      · split <;> rfl
      · rfl
    · cases call with
      | getaddrinfo => exact poll.elim
      | _ => rfl
  | pollReturns poll =>
    refine other rfl ⟨?_, extends_of_calls (pollReturns_calls s poll)⟩
    show (pollReturns s poll).haddr = s.haddr
    unfold pollReturns
    split <;> rfl
  | pollReads input =>
    have read := (mqttInput_received s input).untouched
    refine other rfl ?_
    show Untouched s (pollReads s input)
    unfold pollReads
    split
    · exact ⟨read.haddr, read.log⟩
    · exact Untouched.refl s
  | keepaliveExpires ping =>
    refine other rfl ?_
    show Untouched s (keepaliveExpires s ping)
    rcases consistent with idle | live
    · rw [keepaliveExpires_idle idle]
      exact ⟨rfl, extends_of_calls rfl⟩
    · have pinged : ∀ code, Untouched s ({ s with keepalivePending := false }.record (.mqttPing code)) :=
        fun _ => ⟨rfl, [_], rfl, by simp [Call.allocates]⟩
      rw [keepaliveExpires_live live]
      cases ping with
      | none => exact (pinged 0).trans ⟨rfl, [_], rfl, by simp [Call.allocates]⟩
      | some errno => exact (pinged errno.code).trans (closeTransport_received _).untouched
  | serverDisconnects => exact other rfl (untouched_record rfl)

/-- Between steps `haddr` is empty only as long as nothing has been allocated. -/
structure Accounted (s : State) : Prop where
  consistent : Consistent s
  held : s.haddr = none ↔ unreleased s.calls = 0

theorem step_accounted {s : State} (accounted : Accounted s) (action : Step) : Accounted (step s action) := by
  refine ⟨step_consistent accounted.consistent action, ?_⟩
  rcases step_allocates accounted.consistent action with ⟨_, held, more⟩ | ⟨_, untouched⟩
  · exact iff_of_false held (by omega)
  · rw [untouched.haddr, untouched.unreleased]
    exact accounted.held

def LooksUpEmpty (s : State) (action : Step) : Prop := LooksUp s action → s.haddr = none

def OneResult (s : State) : Prop := unreleased s.calls ≤ 1

theorem step_oneResult {s : State} (accounted : Accounted s) (action : Step) :
    OneResult (step s action) ↔ OneResult s ∧ LooksUpEmpty s action := by
  have held := accounted.held
  unfold OneResult LooksUpEmpty
  rcases step_allocates accounted.consistent action with ⟨looks, _, more⟩ | ⟨other, untouched⟩
  · rw [more]
    constructor
    · intro few
      exact ⟨by omega, fun _ => held.mpr (by omega)⟩
    · intro both
      obtain ⟨_, empty⟩ := both
      have zero := held.mp (empty looks)
      omega
  · rw [untouched.unreleased]
    exact (and_iff_left fun looks => absurd looks other).symm

theorem booted_accounted (channelId : Int) (devId lastWillTopic lastWillMessage : Text) :
    Accounted (booted channelId devId lastWillTopic lastWillMessage) :=
  ⟨booted_consistent channelId devId lastWillTopic lastWillMessage, iff_of_true rfl rfl⟩

theorem run_oneResult {s : State} (accounted : Accounted s) (start : OneResult s) (steps : List Step) :
    OneResult (run step s steps) ↔ Along step LooksUpEmpty s steps := by
  have keep : ∀ s action, Accounted s → Accounted (step s action) := fun _ action accounted =>
    step_accounted accounted action
  have once : ∀ s action, Accounted s →
      (OneResult (step s action) ↔ OneResult s ∧ LooksUpEmpty s action) :=
    fun _ action accounted => step_oneResult accounted action
  exact (run_iff_along keep once accounted steps).trans (and_iff_right start)

theorem oneResult_throughout {s : State} (accounted : Accounted s) (start : OneResult s) (steps : List Step) :
    (∀ before after, steps = before ++ after → OneResult (run step s before)) ↔ Along step LooksUpEmpty s steps := by
  constructor
  · intro always
    exact (run_oneResult accounted start steps).mp (always steps [] (List.append_nil steps).symm)
  · rintro along before after rfl
    exact (run_oneResult accounted start before).mpr ((along_append s before after).mp along).1

/-- At most one result is allocated in every state of a run exactly if no step of it looks the address
up while `haddr` holds a result. -/
theorem lookups_released_iff (channelId : Int) (devId lastWillTopic lastWillMessage : Text) (steps : List Step) :
    let start := booted channelId devId lastWillTopic lastWillMessage
    (∀ before after, steps = before ++ after → unreleased (run step start before).calls ≤ 1) ↔
      Along step LooksUpEmpty start steps :=
  oneResult_throughout (booted_accounted channelId devId lastWillTopic lastWillMessage) (Nat.zero_le 1) steps

/-- `reconnection` looks the address up twice. -/
theorem lookups_released_fails : ¬ ∀ (channelId : Int) (devId lastWillTopic lastWillMessage : Text)
    (steps : List Step),
    unreleased (run step (booted channelId devId lastWillTopic lastWillMessage) steps).calls ≤ 1 := by
  intro always
  exact absurd (always 1 [] [] [] (reconnection 0)) (by decide)

end AirQuality.Mqtt
