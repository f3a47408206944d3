import AirQuality.Mqtt.Sending

/-!
# The connection state

What holds between any two steps of a run: the flag, the transport, the poll set and the keepalive
agree, connecting is bounded, and a publish that returns 0 has gone out over a live connection.
-/

namespace AirQuality.Mqtt
open Foundation

def Call.isConnect : Call → Bool
  | .mqttConnect _ _ _ => true
  | _ => false

def connectCount (s : State) : Nat := s.calls.countP Call.isConnect

theorem plain_not_connect {more : List Call} (plain : ∀ call ∈ more, call.Plain) :
    more.countP Call.isConnect = 0 := by
  rw [List.countP_eq_zero]
  intro call present
  have := plain call present
  cases call <;> simp_all [Call.Plain, Call.isConnect]

theorem connectRound_count {s : State} (idle : Idle s) (attempt : Attempt) :
    connectCount (connectRound s attempt).2 = connectCount s + 1 := by
  obtain ⟨more, same, plain⟩ := (connectRound_spec idle attempt).log
  have once : (dialCalls s attempt).countP Call.isConnect = 1 := by
    unfold dialCalls
    cases attempt.connect <;> rfl
  rw [connectCount, same, List.countP_append, List.countP_append, once, plain_not_connect plain]
  rfl

theorem connectLoop_count (attempt : Nat → Attempt) (retries : Nat) {s : State} (idle : Idle s) :
    connectCount (connectLoop attempt retries s).2 ≤ connectCount s + retries := by
  induction retries generalizing s with
  | zero => exact Nat.le_refl _
  | succ retries ih =>
    have once := connectRound_count idle (attempt retries)
    have outcome := (connectRound_spec idle (attempt retries)).outcome
    unfold connectLoop
    generalize connectRound s (attempt retries) = round at *
    obtain ⟨result, t⟩ := round
    cases result with
    | some rc =>
      dsimp only at once ⊢
      omega
    | none =>
      rcases outcome with ⟨impossible, _⟩ | ⟨idle', _⟩
      · cases impossible
      · have rest := ih idle'
        dsimp only at once rest ⊢
        omega

theorem tryToConnect_zero_iff {s : State} (idle : Idle s) (attempt : Nat → Attempt) :
    (tryToConnect s attempt).1 = 0 ↔ (tryToConnect s attempt).2.mqttConnected = true := by
  rcases connectLoop_outcome attempt 3 idle with ⟨zero, _, live, _⟩ | ⟨nonzero, _, idle', _⟩
  · exact iff_of_true zero live.connected
  · exact iff_of_false nonzero (by rw [tryToConnect, idle'.disconnected]; decide)

/-- The state between two steps of a run. -/
structure Sound (s : State) : Prop where
  connected : s.mqttConnected = true →
    (∃ socket, s.client.transport = some socket) ∧ s.nfds = 1 ∧ s.keepalivePending = true
  disconnected : s.mqttConnected = false → s.client.transport = none ∧ s.nfds = 0
  initialised : ∀ transport, .clientInit transport ∈ s.calls → transport = none
  attempts : ∀ lookup attempt, s.mqttConnected = false →
    let looked := (getMqttBrokerAddrinfo s lookup).2
    connectCount (tryToConnect looked attempt).2 ≤ connectCount looked + 3 ∧
      ((tryToConnect looked attempt).1 = 0 ↔ (tryToConnect looked attempt).2.mqttConnected = true)
  published : ∀ topic payload retain env, (mqttPublishToTopic s topic payload retain env).1 = 0 →
    ∃ before, (mqttPublishToTopic s topic payload retain env).2.calls = s.calls ++ before ++
      [.mqttPublish { topic, payload, messageId := env.rand.toUInt16, retainFlag := retain } true 0]

/-- In every state a run reaches, the five parts of the connection state agree. -/
theorem connection_consistent (channelId : Int) (devId lastWillTopic lastWillMessage : Text) (steps : List Step) :
    Sound (run step (booted channelId devId lastWillTopic lastWillMessage) steps) := by
  have start := booted_consistent channelId devId lastWillTopic lastWillMessage
  have consistent := run_consistent start steps
  obtain ⟨_, made⟩ := run_from start (by simp [booted, mqttInit, mqttWatchdogInit]) steps
  refine ⟨?_, ?_, ?_, ?_, ?_⟩
  · intro connected
    have live := consistent.live connected
    exact ⟨Option.ne_none_iff_exists'.mp live.opened, live.polled, live.scheduled⟩
  · intro disconnected
    have idle := consistent.idle disconnected
    exact ⟨idle.closed, idle.empty⟩
  · intro transport present
    exact made _ present
  · intro lookup attempt disconnected
    have idle := (lookupLoop_quiet lookup 3 Errno.einval.code _).1.idle (consistent.idle disconnected)
    exact ⟨connectLoop_count attempt 3 idle, tryToConnect_zero_iff idle attempt⟩
  · intro topic payload retain env success
    obtain ⟨before, _, sent⟩ := (mqttPublishToTopic_once consistent topic payload retain env).sent success
    exact ⟨before, sent⟩

end AirQuality.Mqtt
