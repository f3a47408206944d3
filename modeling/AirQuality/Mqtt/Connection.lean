import AirQuality.Mqtt.Client

/-!
# The connection

Between the steps of a run the client is either `Idle` or `Live`. One round of `try_to_connect` is
described once, with every call it logs; the loop, the interface and the other threads follow from
that description.
-/

namespace AirQuality.Mqtt
open Foundation

structure Idle (s : State) : Prop where
  disconnected : s.mqttConnected = false
  closed : s.client.transport = none
  empty : s.nfds = 0

structure Live (s : State) : Prop where
  connected : s.mqttConnected = true
  opened : s.client.transport ≠ none
  polled : s.nfds = 1
  scheduled : s.keepalivePending = true

def Consistent (s : State) : Prop := Idle s ∨ Live s

/-- The state set up before the first connection, which no step changes. -/
structure Kept (s t : State) : Prop where
  fd : t.fd = s.fd
  deviceId : t.deviceId = s.deviceId
  lastWillTopic : t.lastWillTopic = s.lastWillTopic
  lastWillMessage : t.lastWillMessage = s.lastWillMessage

theorem Kept.refl (s : State) : Kept s s := ⟨rfl, rfl, rfl, rfl⟩

theorem Kept.trans {s t u : State} (first : Kept s t) (second : Kept t u) : Kept s u :=
  ⟨second.fd.trans first.fd, second.deviceId.trans first.deviceId,
    second.lastWillTopic.trans first.lastWillTopic, second.lastWillMessage.trans first.lastWillMessage⟩

/-- The log of `t` is that of `s` followed by calls that satisfy `P`. -/
def Extends (P : Call → Prop) (s t : State) : Prop :=
  ∃ more, t.calls = s.calls ++ more ∧ ∀ call ∈ more, P call

theorem extends_refl (P : Call → Prop) (s : State) : Extends P s s := ⟨[], by simp, by simp⟩

theorem extends_of_calls {P : Call → Prop} {s t : State} (same : t.calls = s.calls) : Extends P s t :=
  ⟨[], by simp [same], by simp⟩

theorem Extends.trans {P : Call → Prop} {s t u : State} (first : Extends P s t) (second : Extends P t u) :
    Extends P s u := by
  obtain ⟨before, hb, pb⟩ := first
  obtain ⟨after, ha, pa⟩ := second
  refine ⟨before ++ after, by rw [ha, hb, List.append_assoc], ?_⟩
  intro call present
  rcases List.mem_append.mp present with early | late
  · exact pb call early
  · exact pa call late

theorem Extends.mono {P Q : Call → Prop} {s t : State} (weaker : ∀ call, P call → Q call)
    (extended : Extends P s t) : Extends Q s t := by
  obtain ⟨more, same, all⟩ := extended
  exact ⟨more, same, fun call present => weaker call (all call present)⟩

theorem Extends.forall_iff {P : Call → Prop} {s t : State} (extended : Extends P s t) :
    (∀ call ∈ t.calls, P call) ↔ ∀ call ∈ s.calls, P call := by
  obtain ⟨more, same, all⟩ := extended
  rw [same, List.forall_mem_append]
  exact and_iff_left all

theorem extends_record {P : Call → Prop} {s : State} {call : Call} (holds : P call) :
    Extends P s (s.record call) :=
  ⟨[call], rfl, by simpa using holds⟩

def Call.Plain : Call → Prop
  | .kWorkReschedule _ | .kThreadStart | .mqttAbort | .mqttInput _ | .transportClosed _
  | .callback _ _ | .wdtFeed _ => True
  | _ => False

/-! ### Receiving and closing -/

theorem closeTransport_none {s : State} (closed : s.client.transport = none) : closeTransport s = s := by
  simp [closeTransport, closed]

theorem closeTransport_transport (s : State) : (closeTransport s).client.transport = none := by
  unfold closeTransport
  split
  · assumption
  · rfl

theorem closeTransport_idle {s : State} (opened : s.client.transport ≠ none) : Idle (closeTransport s) := by
  obtain ⟨socket, held⟩ := Option.ne_none_iff_exists'.mp opened
  constructor <;> simp [closeTransport, held, handleDisconnect, clearFds, State.record]

/-- What a call made on the way may change: it closes the transport or leaves the connection as it
is, and it touches neither the set-up state, the keepalive nor the poll thread. -/
structure Received (s t : State) : Prop where
  kept : Kept s t
  haddr : t.haddr = s.haddr
  keepalivePending : t.keepalivePending = s.keepalivePending
  pollThread : t.pollThread = s.pollThread
  log : Extends Call.Plain s t

theorem Received.trans {s t u : State} (first : Received s t) (second : Received t u) : Received s u :=
  ⟨first.kept.trans second.kept, second.haddr.trans first.haddr,
    second.keepalivePending.trans first.keepalivePending, second.pollThread.trans first.pollThread,
    first.log.trans second.log⟩

theorem Received.refl (s : State) : Received s s := ⟨Kept.refl s, rfl, rfl, rfl, extends_refl _ s⟩

theorem received_record {s : State} {call : Call} (plain : call.Plain) : Received s (s.record call) :=
  ⟨⟨rfl, rfl, rfl, rfl⟩, rfl, rfl, rfl, extends_record plain⟩

theorem closeTransport_received (s : State) : Received s (closeTransport s) := by
  unfold closeTransport
  split
  · exact Received.refl s
  · exact ⟨⟨rfl, rfl, rfl, rfl⟩, rfl, rfl, rfl, ⟨_, rfl, by simp [Call.Plain]⟩⟩

theorem afterWrite_received (s : State) (result : WriteResult) : Received s (afterWrite s result) := by
  cases result with
  | lost errno => exact closeTransport_received s
  | sent | refused => exact Received.refl s

/-- Sending a packet logs it, with what closing the transport logs if the connection is lost. -/
theorem afterWrite_extends {P : Call → Prop} {s : State} {call : Call} (made : P call)
    (plain : ∀ call, call.Plain → P call) (result : WriteResult) :
    Extends P s (afterWrite (s.record call) result) := by
  have recorded : Extends P s (s.record call) := extends_record made
  exact recorded.trans ((afterWrite_received (s.record call) result).log.mono plain)

theorem mqttAbort_received (s : State) : Received s (mqttAbort s) :=
  (received_record (by trivial)).trans (closeTransport_received _)

def SameOrIdle (s t : State) : Prop :=
  Idle t ∨ (t.mqttConnected = s.mqttConnected ∧ t.client = s.client ∧ t.nfds = s.nfds)

theorem SameOrIdle.transport {s t : State} (same : SameOrIdle s t) :
    t.client.transport = none ∨ t.client.transport = s.client.transport := by
  rcases same with idle | ⟨_, client, _⟩
  · exact Or.inl idle.closed
  · exact Or.inr (by rw [client])

theorem handlePublish_received (s : State) (message : Publish) : Received s (handlePublish s message) := by
  unfold handlePublish
  dsimp only
  have closing : Received s
      (if (drain message.payloadLen message.reads).failure.isSome then closeTransport s else s) := by
    split
    · exact closeTransport_received s
    · exact Received.refl s
  split
  · exact closing
  · exact closing.trans (received_record (by trivial))

theorem handlePublish_connection (s : State) (opened : s.client.transport ≠ none) (message : Publish) :
    SameOrIdle s (handlePublish s message) := by
  unfold handlePublish
  dsimp only
  have closing : SameOrIdle s
      (if (drain message.payloadLen message.reads).failure.isSome then closeTransport s else s) := by
    split
    · exact Or.inl (closeTransport_idle opened)
    · exact Or.inr ⟨rfl, rfl, rfl⟩
  split
  · exact closing
  · rcases closing with idle | same
    · exact Or.inl ⟨idle.disconnected, idle.closed, idle.empty⟩
    · exact Or.inr same

theorem mqttEventHandler_received (s : State) (packet : Packet) : Received s (mqttEventHandler s packet) := by
  cases packet with
  | connack result =>
    by_cases refused : result ≠ 0
    · rw [mqttEventHandler, if_pos refused]
      exact Received.refl s
    · rw [mqttEventHandler, if_neg refused]
      exact ⟨⟨rfl, rfl, rfl, rfl⟩, rfl, rfl, rfl, extends_of_calls rfl⟩
  | publish message => exact handlePublish_received s message
  | pingresp => exact received_record (by trivial)
  | suback | unsuback | puback | other => exact Received.refl s

theorem mqttEventHandler_connection (s : State) (opened : s.client.transport ≠ none) (packet : Packet) :
    SameOrIdle s (mqttEventHandler s packet) ∨
      packet = .connack 0 ∧ (mqttEventHandler s packet).mqttConnected = true ∧
        (mqttEventHandler s packet).client = s.client ∧ (mqttEventHandler s packet).nfds = s.nfds := by
  cases packet with
  | connack result =>
    by_cases accepted : result = 0
    · exact Or.inr ⟨by rw [accepted], by simp [mqttEventHandler, accepted], by
        simp [mqttEventHandler, accepted], by simp [mqttEventHandler, accepted]⟩
    · exact Or.inl (Or.inr (by simp [mqttEventHandler, accepted]))
  | publish message => exact Or.inl (handlePublish_connection s opened message)
  | pingresp | suback | unsuback | puback | other => exact Or.inl (Or.inr ⟨rfl, rfl, rfl⟩)

theorem mqttInput_invariant {Inv : State → Prop}
    (record : ∀ s result, Inv s → Inv (s.record (.mqttInput result)))
    (handle : ∀ s packet, Inv s → Inv (mqttEventHandler s packet)) (close : ∀ s, Inv s → Inv (closeTransport s))
    {s : State} (start : Inv s) (result : InputResult) : Inv (mqttInput s result).2 := by
  obtain ⟨packet, failure⟩ := result
  have started := record s ⟨packet, failure⟩ start
  unfold mqttInput
  split
  · exact start
  · cases packet with
    | none =>
      cases failure with
      | none => exact started
      | some errno => exact close _ started
    | some packet =>
      have handled := handle _ packet started
      cases failure with
      | none => exact handled
      | some errno => exact close _ handled

theorem mqttInput_received (s : State) (result : InputResult) : Received s (mqttInput s result).2 := by
  refine mqttInput_invariant ?_ ?_ ?_ (Received.refl s) result
  · intro t result received
    exact received.trans (received_record (by trivial))
  · intro t packet received
    exact received.trans (mqttEventHandler_received t packet)
  · intro t received
    exact received.trans (closeTransport_received t)

/-- The input that turns an open transport into an acknowledged connection. -/
def InputResult.Acknowledges (result : InputResult) : Prop :=
  result.packet = some (.connack 0) ∧ result.failure = none

theorem closeTransport_same {s t : State} (opened : s.client.transport ≠ none) (same : SameOrIdle s t) :
    Idle (closeTransport t) := by
  rcases same with idle | ⟨_, client, _⟩
  · rwa [closeTransport_none idle.closed]
  · exact closeTransport_idle (by rwa [client])

theorem mqttInput_failure {s : State} (opened : s.client.transport ≠ none) {result : InputResult} {errno : Errno}
    (failure : result.failure = some errno) : Idle (mqttInput s result).2 := by
  obtain ⟨socket, held⟩ := Option.ne_none_iff_exists'.mp opened
  have opened' : (s.record (.mqttInput result)).client.transport ≠ none := opened
  simp only [mqttInput, held, failure]
  cases result.packet with
  | none => exact closeTransport_idle opened'
  | some packet =>
    rcases mqttEventHandler_connection _ opened' packet with same | ⟨_, _, client, _⟩
    · exact closeTransport_same opened' same
    · exact closeTransport_idle (by rwa [client])

theorem mqttInput_connection (s : State) (opened : s.client.transport ≠ none) (result : InputResult) :
    SameOrIdle s (mqttInput s result).2 ∨
      result.Acknowledges ∧ (mqttInput s result).2.mqttConnected = true ∧
        (mqttInput s result).2.client = s.client ∧ (mqttInput s result).2.nfds = s.nfds := by
  obtain ⟨socket, held⟩ := Option.ne_none_iff_exists'.mp opened
  have opened' : (s.record (.mqttInput result)).client.transport ≠ none := opened
  obtain ⟨packet, failure⟩ := result
  cases failure with
  | some errno => exact Or.inl (Or.inl (mqttInput_failure opened rfl))
  | none =>
    cases packet with
    | none => exact Or.inl (Or.inr (by simp [mqttInput, held, State.record]))
    | some packet =>
      simp only [mqttInput, held]
      rcases mqttEventHandler_connection _ opened' packet with same | ⟨rfl, connected, client, nfds⟩
      · exact Or.inl same
      · exact Or.inr ⟨⟨rfl, rfl⟩, connected, client, nfds⟩

theorem mqttInput_acknowledged {s : State} (opened : s.client.transport ≠ none) {result : InputResult}
    (acknowledges : result.Acknowledges) : (mqttInput s result).2.mqttConnected = true := by
  obtain ⟨socket, held⟩ := Option.ne_none_iff_exists'.mp opened
  obtain ⟨accepted, complete⟩ := acknowledges
  simp [mqttInput, held, accepted, complete, mqttEventHandler]

/-! ### Connecting -/

def configuredClient (s : State) : Client :=
  { clientId := s.deviceId
    will := some { topic := s.lastWillTopic, message := s.lastWillMessage, retain := true }
    keepalive := configMqttKeepalive
    transport := none }

theorem Kept.configuredClient {s t : State} (kept : Kept s t) : configuredClient t = configuredClient s := by
  simp only [Mqtt.configuredClient, kept.deviceId, kept.lastWillTopic, kept.lastWillMessage]

/-- What a round of `try_to_connect` logs up to its answer. -/
def dialCalls (s : State) (attempt : Attempt) : List Call :=
  [.clientInit s.client.transport, .kWorkInitDelayable s.keepalivePending,
    .mqttConnect s.haddr (configuredClient s) attempt.connect] ++
  match attempt.connect with
  | .opened socket _ => [.zsockPoll s.fd mqttConnectTimeoutMs (some socket)]
  | .failed _ => []

def PollThread.start : PollThread → PollThread
  | .notStarted => .waiting
  | thread => thread

theorem kThreadStart_eq (s : State) :
    kThreadStart s = { s.record .kThreadStart with pollThread := s.pollThread.start } := by
  cases thread : s.pollThread <;> simp [kThreadStart, PollThread.start, State.record, thread]

/-- The attempt opens a transport, waits without an error and reads an accepting CONNACK. -/
structure Attempt.Connects (attempt : Attempt) : Prop where
  opens : ∃ socket accepted, attempt.connect = .opened socket accepted
  waits : 0 ≤ attempt.poll.code
  acknowledges : attempt.input.Acknowledges

/-- The attempt opens a transport and fails to wait on it, which ends the loop. -/
structure Attempt.GivesUp (attempt : Attempt) : Prop where
  opens : ∃ socket accepted, attempt.connect = .opened socket accepted
  fails : attempt.poll.code < 0

/-- A round from `s` to `t`: what it logs and the state it leaves, for each of its results. -/
structure Dialled (s : State) (attempt : Attempt) (result : Option Int) (t : State) : Prop where
  kept : Kept s t
  haddr : t.haddr = s.haddr
  log : ∃ more, t.calls = s.calls ++ dialCalls s attempt ++ more ∧ ∀ call ∈ more, call.Plain
  transport : ∀ socket, t.client.transport = some socket → ∃ accepted, attempt.connect = .opened socket accepted
  outcome :
    (result = some 0 ∧ attempt.Connects ∧ Live t ∧ t.pollThread = s.pollThread.start) ∨
    (Idle t ∧ t.keepalivePending = false ∧ t.pollThread = s.pollThread ∧ ¬ attempt.Connects ∧
      ((result = none ∧ ¬ attempt.GivesUp) ∨ ∃ rc, rc < 0 ∧ result = some rc ∧ attempt.GivesUp))

/-- The state in which `try_to_connect` looks at the result of its `wait`. -/
def awaiting (s : State) (attempt : Attempt) : State :=
  (wait (prepareFds (mqttConnect (clientInit s) attempt.connect).2) mqttConnectTimeoutMs attempt.poll).2

theorem connectRound_failed {s : State} {attempt : Attempt} {errno : Errno}
    (failed : attempt.connect = .failed errno) :
    connectRound s attempt =
      (none, (clientInit s).record (.mqttConnect s.haddr (configuredClient s) attempt.connect)) := by
  simp [connectRound, mqttConnect, failed, errno.code_ne_zero]
  rfl

theorem connectRound_opened {s : State} {attempt : Attempt} {socket : Nat} {accepted : Bool}
    (opened : attempt.connect = .opened socket accepted) :
    connectRound s attempt =
      if attempt.poll.code < 0 then (some attempt.poll.code, mqttAbort (awaiting s attempt)) else
      let s := (mqttInput (awaiting s attempt) attempt.input).2
      if s.mqttConnected then (some 0, kThreadStart (kWorkReschedule s)) else
      (none, (wait (mqttAbort s) mqttAbortTimeoutMs attempt.abortPoll).2) := by
  simp [connectRound, awaiting, mqttConnect, opened, wait, prepareFds]

structure Awaiting (s : State) (socket : Nat) (u : State) : Prop where
  kept : Kept s u
  haddr : u.haddr = s.haddr
  disconnected : u.mqttConnected = false
  transport : u.client.transport = some socket
  polled : u.nfds = 1
  unscheduled : u.keepalivePending = false
  pollThread : u.pollThread = s.pollThread

theorem awaiting_spec {s : State} (idle : Idle s) {attempt : Attempt} {socket : Nat} {accepted : Bool}
    (opened : attempt.connect = .opened socket accepted) :
    Awaiting s socket (awaiting s attempt) ∧
      (awaiting s attempt).calls = s.calls ++ dialCalls s attempt := by
  have disconnected := idle.disconnected
  refine ⟨⟨⟨?_, ?_, ?_, ?_⟩, ?_, ?_, ?_, ?_, ?_, ?_⟩, ?_⟩ <;>
    simp [awaiting, dialCalls, configuredClient, mqttConnect, opened, wait, prepareFds, clientInit, brokerInit,
      State.record, disconnected]

theorem wait_idle {s : State} (idle : Idle s) (timeout : Int) (poll : PollResult) : (wait s timeout poll).2 = s := by
  simp [wait, idle.empty]

theorem mqttAbort_idle {u v : State} (opened : u.client.transport ≠ none) (same : SameOrIdle u v) :
    Idle (mqttAbort v) := by
  have same' : SameOrIdle u (v.record .mqttAbort) := by
    rcases same with idle | rest
    · exact Or.inl ⟨idle.disconnected, idle.closed, idle.empty⟩
    · exact Or.inr rest
  exact closeTransport_same opened same'

theorem dialled_failed {s : State} (idle : Idle s) {attempt : Attempt} {errno : Errno}
    (failed : attempt.connect = .failed errno) :
    Dialled s attempt none ((clientInit s).record (.mqttConnect s.haddr (configuredClient s) attempt.connect)) := by
  have opens : ¬ ∃ socket accepted, attempt.connect = .opened socket accepted := by simp [failed]
  refine ⟨⟨rfl, rfl, rfl, rfl⟩, rfl, ⟨[], ?_, by simp⟩, by rintro _ ⟨⟩, Or.inr ⟨⟨?_, rfl, ?_⟩, rfl, rfl, ?_, ?_⟩⟩
  · simp [dialCalls, failed, clientInit, brokerInit, State.record]
  · exact idle.disconnected
  · exact idle.empty
  · exact fun connects => opens connects.opens
  · exact Or.inl ⟨rfl, fun gives => opens gives.opens⟩

theorem dialled_log {s u t : State} {attempt : Attempt} (logged : u.calls = s.calls ++ dialCalls s attempt)
    (received : Received u t) :
    ∃ more, t.calls = s.calls ++ dialCalls s attempt ++ more ∧ ∀ call ∈ more, call.Plain := by
  obtain ⟨more, appended, plain⟩ := received.log
  exact ⟨more, by rw [appended, logged], plain⟩

section Awaiting
variable {s u t : State} {attempt : Attempt} {socket : Nat} (waiting : Awaiting s socket u)
  (logged : u.calls = s.calls ++ dialCalls s attempt)
include waiting logged

theorem dialled_idle (received : Received u t) (idle : Idle t) {result : Option Int} (misses : ¬ attempt.Connects)
    (ends : (result = none ∧ ¬ attempt.GivesUp) ∨ ∃ rc, rc < 0 ∧ result = some rc ∧ attempt.GivesUp) :
    Dialled s attempt result t := by
  refine ⟨waiting.kept.trans received.kept, received.haddr.trans waiting.haddr, dialled_log logged received, ?_,
    Or.inr ⟨idle, received.keepalivePending.trans waiting.unscheduled, received.pollThread.trans waiting.pollThread,
      misses, ends⟩⟩
  intro socket current
  rw [idle.closed] at current
  cases current

theorem dialled_live {accepted : Bool} (opens : attempt.connect = .opened socket accepted)
    (connects : attempt.Connects) (received : Received u t) (connected : t.mqttConnected = true)
    (client : t.client = u.client) (nfds : t.nfds = u.nfds) :
    Dialled s attempt (some 0) (kThreadStart (kWorkReschedule t)) := by
  have transport : t.client.transport = some socket := by rw [client, waiting.transport]
  have thread : t.pollThread = s.pollThread := received.pollThread.trans waiting.pollThread
  obtain ⟨more, appended, plain⟩ := dialled_log logged received
  have kept := waiting.kept.trans received.kept
  rw [kThreadStart_eq]
  refine ⟨kept.trans ⟨rfl, rfl, rfl, rfl⟩, received.haddr.trans waiting.haddr, ?_, ?_, Or.inl ⟨rfl, connects, ?_, ?_⟩⟩
  · refine ⟨more ++ [.kWorkReschedule t.client.keepalive, .kThreadStart], ?_, ?_⟩
    · simp [State.record, kWorkReschedule, appended]
    · simpa [or_imp, forall_and, Call.Plain] using plain
  · intro socket' current
    have same : some socket = some socket' := transport.symm.trans current
    cases same
    exact ⟨accepted, opens⟩
  · exact ⟨connected, Option.ne_none_iff_exists'.mpr ⟨socket, transport⟩, nfds.trans waiting.polled, rfl⟩
  · exact congrArg PollThread.start thread

end Awaiting

theorem connectRound_spec {s : State} (idle : Idle s) (attempt : Attempt) :
    Dialled s attempt (connectRound s attempt).1 (connectRound s attempt).2 := by
  cases result : attempt.connect with
  | failed errno =>
    rw [connectRound_failed result]
    exact dialled_failed idle result
  | opened socket accepted =>
    obtain ⟨waiting, logged⟩ := awaiting_spec idle result
    have opens : ∃ socket accepted, attempt.connect = .opened socket accepted := ⟨socket, accepted, result⟩
    have opened : (awaiting s attempt).client.transport ≠ none := by simp [waiting.transport]
    rw [connectRound_opened result]
    generalize awaiting s attempt = u at waiting logged opened
    by_cases fails : attempt.poll.code < 0
    · rw [if_pos fails]
      have idle' := mqttAbort_idle opened (Or.inr ⟨rfl, rfl, rfl⟩)
      refine dialled_idle waiting logged (mqttAbort_received u) idle' ?_ (Or.inr ⟨_, fails, rfl, ⟨opens, fails⟩⟩)
      intro connects
      exact absurd connects.waits (by omega)
    · rw [if_neg fails]
      have received := mqttInput_received u attempt.input
      dsimp only
      rcases mqttInput_connection u opened attempt.input with same | ⟨acknowledges, connected, client, nfds⟩
      · have disconnected : (mqttInput u attempt.input).2.mqttConnected = false := by
          rcases same with idle | ⟨connected, _, _⟩
          · exact idle.disconnected
          · rw [connected, waiting.disconnected]
        have idle' := mqttAbort_idle opened same
        rw [disconnected, if_neg (by simp), wait_idle idle']
        refine dialled_idle waiting logged (received.trans (mqttAbort_received _)) idle' ?_ (Or.inl ⟨rfl, ?_⟩)
        · intro connects
          rw [mqttInput_acknowledged opened connects.acknowledges] at disconnected
          cases disconnected
        · exact fun gives => fails gives.fails
      · rw [connected, if_pos rfl]
        exact dialled_live waiting logged result ⟨opens, by omega, acknowledges⟩ received connected client nfds

theorem connectRound_log {P : Call → Prop} {s : State} (idle : Idle s) {attempt : Attempt}
    (dials : ∀ call ∈ dialCalls s attempt, P call) (plain : ∀ call, call.Plain → P call) :
    Extends P s (connectRound s attempt).2 := by
  obtain ⟨more, same, rest⟩ := (connectRound_spec idle attempt).log
  refine ⟨dialCalls s attempt ++ more, by rw [same, List.append_assoc], ?_⟩
  rw [List.forall_mem_append]
  exact ⟨dials, fun call present => plain call (rest call present)⟩

theorem connectLoop_invariant {Inv : State → Prop}
    (keep : ∀ {s}, Idle s → ∀ attempt, Inv s → Inv (connectRound s attempt).2) (attempt : Nat → Attempt)
    (retries : Nat) {s : State} (idle : Idle s) (start : Inv s) : Inv (connectLoop attempt retries s).2 := by
  induction retries generalizing s with
  | zero => exact start
  | succ retries ih =>
    have round := keep idle (attempt retries) start
    have outcome := (connectRound_spec idle (attempt retries)).outcome
    unfold connectLoop
    generalize connectRound s (attempt retries) = result at *
    obtain ⟨rc, t⟩ := result
    cases rc with
    | some rc => exact round
    | none =>
      rcases outcome with ⟨impossible, _⟩ | ⟨idle', _⟩
      · cases impossible
      · exact ih idle' round

theorem mqttPublishToTopic_invariant {Inv : State → Prop}
    (keep : ∀ {s}, Inv s → ∀ param result, Inv (mqttPublish s param result).2) {s : State}
    (topic payload : Text) (retain : Bool) (env : PublishEnv)
    (reconnected : Inv (ensureConnected s env.toConnectEnv).2) :
    Inv (mqttPublishToTopic s topic payload retain env).2 := by
  unfold mqttPublishToTopic
  dsimp only
  split
  · exact reconnected
  · split
    · exact keep reconnected _ env.result
    · exact keep reconnected _ env.result

section Subscribe
variable {Inv : State → Prop} (keep : ∀ {s}, Inv s → ∀ topic result, Inv (subscribe s topic result))
include keep

theorem subscribeLoop_invariant (result : Nat → WriteResult) (i : Nat) (subs : List Subscription) {s : State}
    (start : Inv s) : Inv (subscribeLoop result i subs s) := by
  induction subs generalizing i s with
  | nil => exact start
  | cons subscription rest ih => exact ih (i + 1) (keep start subscription.topic (result i))

theorem mqttSubscribeToTopic_invariant (table : ∀ {s} subs, Inv s → Inv { s with subscriptions := subs })
    {s : State} (subs : List Subscription) (env : SubscribeEnv)
    (reconnected : Inv (ensureConnected s env.toConnectEnv).2) : Inv (mqttSubscribeToTopic s subs env).2 := by
  unfold mqttSubscribeToTopic
  dsimp only
  split
  · exact reconnected
  · exact subscribeLoop_invariant keep env.result 0 subs (table subs reconnected)

end Subscribe

end AirQuality.Mqtt
