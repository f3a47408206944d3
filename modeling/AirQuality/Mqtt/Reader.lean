import AirQuality.Mqtt.Consistency

/-!
# The reader of a connection

The poll thread is the only reader of a connection once it is set up. It returns on the first error
of `mqtt_input`, and the `k_thread_start` of a later connection does not bring it back.
-/

namespace AirQuality.Mqtt
open Foundation

def PollThread.Alive (thread : PollThread) : Prop := thread ≠ .notStarted ∧ thread ≠ .returned

theorem start_alive {thread : PollThread} (running : thread ≠ .returned) : thread.start.Alive := by
  cases thread with
  | returned => exact absurd rfl running
  | notStarted | waiting | polling | reading => exact ⟨by simp [PollThread.start], by simp [PollThread.start]⟩

theorem start_returned : PollThread.returned.start = .returned := rfl

theorem afterWrite_pollThread (s : State) (call : Call) (result : WriteResult) :
    (afterWrite (s.record call) result).pollThread = s.pollThread :=
  (afterWrite_received (s.record call) result).pollThread

theorem mqttPublishToTopic_pollThread (s : State) (topic payload : Text) (retain : Bool) (env : PublishEnv) :
    (mqttPublishToTopic s topic payload retain env).2.pollThread =
      (ensureConnected s env.toConnectEnv).2.pollThread := by
  generalize same : (ensureConnected s env.toConnectEnv).2.pollThread = thread
  apply @mqttPublishToTopic_invariant (fun t => t.pollThread = thread) _ s topic payload retain env same
  intro t same param result
  exact (afterWrite_pollThread t _ result).trans same

theorem mqttSubscribeToTopic_pollThread (s : State) (subs : List Subscription) (env : SubscribeEnv) :
    (mqttSubscribeToTopic s subs env).2.pollThread = (ensureConnected s env.toConnectEnv).2.pollThread := by
  generalize same : (ensureConnected s env.toConnectEnv).2.pollThread = thread
  apply @mqttSubscribeToTopic_invariant (fun t => t.pollThread = thread) _ _ s subs env same
  · intro t same topic result
    exact (afterWrite_pollThread t _ result).trans same
  · intro t subs same
    exact same

theorem ensureConnected_pollThread {s : State} (consistent : Consistent s) (env : ConnectEnv) :
    (ensureConnected s env).2.pollThread = s.pollThread ∨
      (s.mqttConnected = false ∧ (ensureConnected s env).2.pollThread = s.pollThread.start) := by
  rcases ensureConnected_outcome consistent env with ⟨_, _, _, thread⟩ | ⟨_, _, _, thread⟩
  · cases connected : s.mqttConnected with
    | true => exact Or.inl (by simpa [connected] using thread)
    | false => exact Or.inr ⟨rfl, by simpa [connected] using thread⟩
  · exact Or.inl thread

def WriteResult.Lost : WriteResult → Prop
  | .lost _ => True
  | .sent | .refused _ => False

/-- The call goes through on a live connection: the client is connected or reconnects, and the
packets are written without losing it. -/
def Step.Completes (s : State) : Step → Prop
  | .publish _ _ _ env => (s.mqttConnected = true ∨ env.Reconnects) ∧ env.result = .sent
  | .subscribe subs env =>
    (s.mqttConnected = true ∨ env.Reconnects) ∧ ∀ i < subs.length, ¬ (env.result i).Lost
  | _ => False

theorem mqttPublishToTopic_completes {s : State} (consistent : Consistent s) (topic payload : Text) (retain : Bool)
    (env : PublishEnv) :
    ((s.mqttConnected = true ∨ env.Reconnects) ∧ env.result = .sent) ↔
      (mqttPublishToTopic s topic payload retain env).1 = 0 ∧
        (mqttPublishToTopic s topic payload retain env).2.mqttConnected = true := by
  have outcome := ensureConnected_outcome consistent env.toConnectEnv
  unfold mqttPublishToTopic
  generalize ensureConnected s env.toConnectEnv = reconnected at *
  obtain ⟨ret, t⟩ := reconnected
  dsimp only at *
  rcases outcome with ⟨rfl, reaches, live, _⟩ | ⟨nonzero, misses, idle, _⟩
  · rw [if_neg (by decide)]
    rcases writeCode_cases (Or.inr live) env.result with ⟨zero, _, sent⟩ | ⟨negative, unsent⟩
    · rw [sent] at zero
      simp [mqttPublish, sent, zero, reaches, afterWrite, State.record, live.connected]
    · have lost : env.result ≠ .sent := fun sent => unsent ⟨live.connected, sent⟩
      rw [if_pos (show (mqttPublish t _ env.result).1 < 0 from negative)]
      refine iff_of_false (fun both => lost both.2) ?_
      intro both
      obtain ⟨zero, _⟩ := both
      exact absurd zero (Int.ne_of_lt negative)
  · refine iff_of_false (fun both => misses both.1) ?_
    intro both
    obtain ⟨zero, _⟩ := both
    by_cases failed : ret < 0
    · rw [if_pos failed] at zero
      exact nonzero zero
    · rw [if_neg failed] at zero
      rcases writeCode_cases (Or.inl idle) env.result with ⟨_, connected, _⟩ | ⟨negative, _⟩
      · rw [idle.disconnected] at connected
        cases connected
      · rw [if_pos (show (mqttPublish t _ env.result).1 < 0 from negative)] at zero
        exact absurd zero (Int.ne_of_lt negative)

theorem subscribeLoop_idle (result : Nat → WriteResult) (i : Nat) (subs : List Subscription) {s : State}
    (idle : Idle s) : Idle (subscribeLoop result i subs s) := by
  apply subscribeLoop_invariant _ result i subs idle
  intro t idle topic result
  rw [subscribe_state, afterWrite_idle idle]
  exact ⟨idle.disconnected, idle.closed, idle.empty⟩

theorem subscribeLoop_connected (result : Nat → WriteResult) (i : Nat) (subs : List Subscription) {s : State}
    (live : Live s) :
    (subscribeLoop result i subs s).mqttConnected = true ↔ ∀ j < subs.length, ¬ (result (i + j)).Lost := by
  induction subs generalizing i s with
  | nil => simp [subscribeLoop, live.connected]
  | cons subscription rest ih =>
    rw [subscribeLoop, subscribe_state, List.length_cons, Nat.forall_lt_succ_left']
    cases first : result i with
    | lost errno =>
      have idle := subscribeLoop_idle result (i + 1) rest
        (closeTransport_idle (s := s.record (.mqttSubscribe subscription.topic 1 (writeCode s (.lost errno))))
          live.opened)
      refine iff_of_false ?_ (by simp [WriteResult.Lost])
      rw [afterWrite, idle.disconnected]
      decide
    | sent | refused =>
      have live' : Live (afterWrite (s.record (.mqttSubscribe subscription.topic 1 (writeCode s (result i)))) (result i)) := by
        rw [first]
        exact ⟨live.connected, live.opened, live.polled, live.scheduled⟩
      have kept : ¬ (result i).Lost := by
        rw [first]
        exact id
      rw [← first, ih (i + 1) live']
      simp [kept, Nat.add_assoc, Nat.add_comm 1]

theorem mqttSubscribeToTopic_completes {s : State} (consistent : Consistent s) (subs : List Subscription)
    (env : SubscribeEnv) :
    ((s.mqttConnected = true ∨ env.Reconnects) ∧ ∀ i < subs.length, ¬ (env.result i).Lost) ↔
      (mqttSubscribeToTopic s subs env).1 = 0 ∧ (mqttSubscribeToTopic s subs env).2.mqttConnected = true := by
  have outcome := ensureConnected_outcome consistent env.toConnectEnv
  unfold mqttSubscribeToTopic
  generalize ensureConnected s env.toConnectEnv = reconnected at *
  obtain ⟨ret, t⟩ := reconnected
  dsimp only at *
  rcases outcome with ⟨rfl, reaches, live, _⟩ | ⟨nonzero, misses, idle, _⟩
  · rw [if_neg (by decide)]
    have live' : Live { t with subscriptions := subs } := ⟨live.connected, live.opened, live.polled, live.scheduled⟩
    have sent := subscribeLoop_connected env.result 0 subs live'
    simp only [Nat.zero_add] at sent
    rw [← sent]
    exact and_congr_left fun _ => iff_of_true reaches rfl
  · refine iff_of_false (fun both => misses both.1) ?_
    intro both
    obtain ⟨zero, connected⟩ := both
    by_cases failed : ret < 0
    · rw [if_pos failed] at zero
      exact nonzero zero
    · rw [if_neg failed] at connected
      have idle' : Idle { t with subscriptions := subs } := ⟨idle.disconnected, idle.closed, idle.empty⟩
      rw [(subscribeLoop_idle env.result 0 subs idle').disconnected] at connected
      cases connected

theorem completes_iff {s : State} (consistent : Consistent s) (action : Step) :
    action.Completes s ↔ (perform s action).1 = some 0 ∧ (step s action).mqttConnected = true := by
  cases action with
  | publish topic payload retain env =>
    simpa [Step.Completes, perform, step] using mqttPublishToTopic_completes consistent topic payload retain env
  | subscribe subs env =>
    simpa [Step.Completes, perform, step] using mqttSubscribeToTopic_completes consistent subs env
  | _ => simp [Step.Completes, perform]

theorem mqttInput_negative {s : State} (consistent : Consistent s) {input : InputResult}
    (negative : (mqttInput s input).1 < 0) : (mqttInput s input).2.mqttConnected = false := by
  rcases consistent with idle | live
  · rw [mqttInput_closed idle.closed]
    exact idle.disconnected
  · cases failure : input.failure with
    | some errno => exact (mqttInput_failure live.opened failure).disconnected
    | none =>
      obtain ⟨socket, opened⟩ := Option.ne_none_iff_exists'.mp live.opened
      simp [mqttInput, opened, failure] at negative

theorem keepaliveExpires_pollThread {s : State} (consistent : Consistent s) (ping : Option Errno) :
    (keepaliveExpires s ping).pollThread = s.pollThread := by
  rcases consistent with idle | live
  · rw [keepaliveExpires_idle idle]
  · rw [keepaliveExpires_live live]
    cases ping with
    | none => rfl
    | some errno => exact (closeTransport_received _).pollThread

theorem step_pollThread {s : State} (consistent : Consistent s) (action : Step) :
    (step s action).pollThread = s.pollThread ∨
    (s.mqttConnected = false ∧ (step s action).pollThread = s.pollThread.start) ∨
    (s.pollThread.Alive ∧ ((step s action).pollThread.Alive ∨ (step s action).mqttConnected = false)) := by
  cases action with
  | publish topic payload retain env =>
    have thread := mqttPublishToTopic_pollThread s topic payload retain env
    rcases ensureConnected_pollThread consistent env.toConnectEnv with same | ⟨connected, started⟩
    · exact Or.inl (thread.trans same)
    · exact Or.inr (Or.inl ⟨connected, thread.trans started⟩)
  | subscribe subs env =>
    have thread := mqttSubscribeToTopic_pollThread s subs env
    rcases ensureConnected_pollThread consistent env.toConnectEnv with same | ⟨connected, started⟩
    · exact Or.inl (thread.trans same)
    · exact Or.inr (Or.inl ⟨connected, thread.trans started⟩)
  | pollCalls =>
    rw [step, perform, pollCalls]
    split
    · rename_i waiting
      refine Or.inr (Or.inr ⟨by simp [PollThread.Alive, waiting], Or.inl ?_⟩)
      split <;> simp [PollThread.Alive, State.record]
    · exact Or.inl rfl
  | pollReturns poll =>
    rw [step, perform, pollReturns]
    split
    · rename_i polling
      refine Or.inr (Or.inr ⟨by simp [PollThread.Alive, polling], Or.inl ?_⟩)
      dsimp only
      split <;> simp [PollThread.Alive]
    · exact Or.inl rfl
  | pollReads input =>
    rw [step, perform, pollReads]
    split
    · rename_i reading
      refine Or.inr (Or.inr ⟨by simp [PollThread.Alive, reading], ?_⟩)
      by_cases negative : (mqttInput s input).1 < 0
      · exact Or.inr (mqttInput_negative consistent negative)
      · exact Or.inl (by simp [PollThread.Alive, negative])
    · exact Or.inl rfl
  | keepaliveExpires ping => exact Or.inl (keepaliveExpires_pollThread consistent ping)
  | serverDisconnects => exact Or.inl rfl

/-! ### Runs -/

/-- Nothing has connected before the poll thread is started. -/
def Started (s : State) : Prop := s.pollThread = .notStarted → s.mqttConnected = false

theorem Live.started {s : State} (live : Live s) (started : Started s) : s.pollThread ≠ .notStarted := by
  intro absent
  have disconnected := started absent
  rw [live.connected] at disconnected
  cases disconnected

theorem afterWrite_started {s : State} (consistent : Consistent s) (started : Started s) (call : Call)
    (result : WriteResult) : Started (afterWrite (s.record call) result) := by
  intro absent
  rw [afterWrite_pollThread] at absent
  rw [afterWrite_idle (consistent.idle (started absent))]
  exact started absent

theorem Phase.started {s t : State} (phase : Phase s t) (consistent : Consistent s) (started : Started s) :
    Started t := by
  cases phase with
  | quiet quiet =>
    intro absent
    rw [quiet.connected]
    exact started (quiet.started absent)
  | dial idle attempt =>
    intro absent
    rcases (connectRound_spec idle attempt).outcome with ⟨_, _, _, thread⟩ | ⟨idle', _⟩
    · rw [thread] at absent
      cases before : s.pollThread <;> simp [before, PollThread.start] at absent
    · exact idle'.disconnected
  | poll live =>
    rintro ⟨⟩
  | input live result =>
    intro absent
    rw [(mqttInput_received s result).pollThread] at absent
    exact absurd absent (live.started started)
  | publish param result =>
    rw [mqttPublish_state]
    exact afterWrite_started consistent started _ result
  | subscribe topic result =>
    rw [subscribe_state]
    exact afterWrite_started consistent started _ result
  | expires live ping =>
    intro absent
    rw [keepaliveExpires_pollThread consistent] at absent
    exact absurd absent (live.started started)

def StillConnected (s : State) (steps : List Step) : Prop :=
  Along step (fun t _ => t.mqttConnected = true) s steps ∧ (run step s steps).mqttConnected = true

/-- At every moment of the run, if a call has returned 0 and the client is still connected since, the
poll thread has been started and has not returned. -/
def ReaderKept (start : State) (steps : List Step) : Prop :=
  ∀ before call since after, steps = before ++ call :: (since ++ after) →
    (perform (run step start before) call).1 = some 0 →
    StillConnected (step (run step start before) call) since →
    (run step (step (run step start before) call) since).pollThread.Alive

theorem StillConnected.now {s : State} {since : List Step} (connected : StillConnected s since) :
    s.mqttConnected = true := by
  cases since with
  | nil => exact connected.2
  | cons action rest => exact connected.1.1

theorem alive_while_connected {s : State} (consistent : Consistent s) (alive : s.pollThread.Alive)
    {since : List Step} (connected : StillConnected s since) : (run step s since).pollThread.Alive := by
  induction since generalizing s with
  | nil => exact alive
  | cons action rest ih =>
    obtain ⟨⟨now, along⟩, last⟩ := connected
    have consistent' := step_consistent consistent action
    refine ih consistent' ?_ ⟨along, last⟩
    rcases step_pollThread consistent action with same | ⟨disconnected, _⟩ | ⟨_, alive | lost⟩
    · rwa [same]
    · rw [now] at disconnected
      cases disconnected
    · exact alive
    · have connected := StillConnected.now ⟨along, last⟩
      rw [lost] at connected
      cases connected

theorem step_started {s : State} (consistent : Consistent s) (started : Started s) (action : Step) :
    Started (step s action) :=
  phases_invariant (fun phase => phase.started) (step_phases consistent action) consistent started

theorem completed_alive_iff {s : State} (consistent : Consistent s) (started : Started s) {action : Step}
    (completes : action.Completes s) : (step s action).pollThread.Alive ↔ s.pollThread ≠ .returned := by
  obtain ⟨_, connected⟩ := (completes_iff consistent action).mp completes
  constructor
  · intro alive returned
    rcases step_pollThread consistent action with same | ⟨_, same⟩ | ⟨before, _⟩
    · rw [same, returned] at alive
      exact alive.2 rfl
    · rw [same, returned, start_returned] at alive
      exact alive.2 rfl
    · exact before.2 returned
  · intro running
    rcases step_pollThread consistent action with same | ⟨_, same⟩ | ⟨_, alive | lost⟩
    · have live := (step_consistent consistent action).live connected
      exact ⟨live.started (step_started consistent started action), by rwa [same]⟩
    · rw [same]
      exact start_alive running
    · exact alive
    · rw [lost] at connected
      cases connected

theorem readerKept_iff_along {start : State} (consistent : Consistent start) (started : Started start)
    (steps : List Step) :
    ReaderKept start steps ↔
      Along step (fun s action => s.pollThread = .returned → ¬ action.Completes s) start steps := by
  have reached : ∀ before, Consistent (run step start before) ∧ Started (run step start before) := fun before =>
    ⟨run_consistent consistent before, run_invariant_phases (fun phase => phase.started) consistent started before⟩
  rw [along_iff_split]
  constructor
  · intro kept before call after same returned completes
    obtain ⟨consistent, started⟩ := reached before
    obtain ⟨zero, connected⟩ := (completes_iff consistent call).mp completes
    have alive := kept before call [] after same zero ⟨trivial, connected⟩
    exact (completed_alive_iff consistent started completes).mp alive returned
  · intro condition before call since after same zero connected
    obtain ⟨consistent, started⟩ := reached before
    have completes := (completes_iff consistent call).mpr ⟨zero, connected.now⟩
    refine alive_while_connected (step_consistent consistent call) ?_ connected
    refine (completed_alive_iff consistent started completes).mpr ?_
    intro returned
    exact condition before call _ same returned completes

theorem booted_started (channelId : Int) (devId lastWillTopic lastWillMessage : Text) :
    Started (booted channelId devId lastWillTopic lastWillMessage) := fun _ => rfl

/-- A run keeps its reader exactly if no call of it completes after the poll thread has returned. -/
theorem reader_kept_iff (channelId : Int) (devId lastWillTopic lastWillMessage : Text) (steps : List Step) :
    ReaderKept (booted channelId devId lastWillTopic lastWillMessage) steps ↔
      Along step (fun s action => s.pollThread = .returned → ¬ action.Completes s)
        (booted channelId devId lastWillTopic lastWillMessage) steps :=
  readerKept_iff_along (booted_consistent _ _ _ _) (booted_started _ _ _ _) steps

/-- After the second publish of `reconnection` the client is connected and nobody reads. -/
theorem reader_lost : ¬ ∀ (channelId : Int) (devId lastWillTopic lastWillMessage : Text) (steps : List Step),
    ReaderKept (booted channelId devId lastWillTopic lastWillMessage) steps := by
  intro always
  have cut : reconnection 0 = (reconnection 0).take 4 ++ (reconnection 0).getLast (by decide) :: ([] ++ []) := rfl
  have alive := always 1 [] [] [] (reconnection 0) _ _ _ _ cut (by decide) ⟨trivial, by decide⟩
  exact alive.2 (by decide)

end AirQuality.Mqtt
