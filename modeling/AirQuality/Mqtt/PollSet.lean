import AirQuality.Mqtt.Consistency

/-!
# The polled descriptor

`prepare_fds` arms the poll set without a descriptor, so `fds[0].fd` keeps the value it had at boot.
A poll therefore watches the connection only when the stack has handed out that very number.
-/

namespace AirQuality.Mqtt
open Foundation

def Opened (calls : List Call) (socket : Nat) : Prop :=
  ∃ broker client accepted, .mqttConnect broker client (.opened socket accepted) ∈ calls

def Polled (calls : List Call) (socket : Nat) : Prop :=
  ∃ fd timeout, .zsockPoll fd timeout (some socket) ∈ calls

/-- Every poll watches a socket that was handed out, and every socket handed out is polled. -/
structure Paired (s : State) : Prop where
  current : ∀ socket, s.client.transport = some socket → Opened s.calls socket
  opened_of_polled : ∀ socket, Polled s.calls socket → Opened s.calls socket
  polled_of_opened : ∀ socket, Opened s.calls socket → Polled s.calls socket

theorem opened_append {calls more : List Call} {socket : Nat} :
    Opened (calls ++ more) socket ↔ Opened calls socket ∨ Opened more socket := by
  simp only [Opened, List.mem_append, exists_or]

theorem polled_append {calls more : List Call} {socket : Nat} :
    Polled (calls ++ more) socket ↔ Polled calls socket ∨ Polled more socket := by
  simp only [Polled, List.mem_append, exists_or]

theorem steady_not_opened {more : List Call} (steady : ∀ call ∈ more, call.Steady) (socket : Nat) :
    ¬ Opened more socket := by
  intro dials
  obtain ⟨broker, client, accepted, present⟩ := dials
  exact steady _ present

theorem steady_not_polled {more : List Call} (steady : ∀ call ∈ more, call.Steady) (socket : Nat) :
    ¬ Polled more socket := by
  intro polls
  obtain ⟨fd, timeout, present⟩ := polls
  exact steady _ present

theorem Paired.steady {s t : State} (paired : Paired s) (steady : Extends Call.Steady s t)
    (transport : t.client.transport = none ∨ t.client.transport = s.client.transport) : Paired t := by
  obtain ⟨more, same, all⟩ := steady
  have opened : ∀ socket, Opened t.calls socket ↔ Opened s.calls socket := by
    intro socket
    rw [same, opened_append]
    exact or_iff_left (steady_not_opened all socket)
  have polled : ∀ socket, Polled t.calls socket ↔ Polled s.calls socket := by
    intro socket
    rw [same, polled_append]
    exact or_iff_left (steady_not_polled all socket)
  refine ⟨?_, ?_, ?_⟩
  · intro socket current
    rcases transport with closed | kept
    · rw [closed] at current
      cases current
    · exact (opened socket).mpr (paired.current socket (kept ▸ current))
  · intro socket present
    exact (opened socket).mpr (paired.opened_of_polled socket ((polled socket).mp present))
  · intro socket present
    exact (polled socket).mpr (paired.polled_of_opened socket ((opened socket).mp present))

theorem afterWrite_transport (s : State) (call : Call) (result : WriteResult) :
    (afterWrite (s.record call) result).client.transport = none ∨
      (afterWrite (s.record call) result).client.transport = s.client.transport := by
  cases result with
  | lost errno => exact Or.inl (closeTransport_transport _)
  | sent | refused => exact Or.inr rfl

theorem mqttInput_transport {s : State} (live : Live s) (result : InputResult) :
    (mqttInput s result).2.client.transport = none ∨
      (mqttInput s result).2.client.transport = s.client.transport := by
  rcases mqttInput_connection s live.opened result with same | ⟨_, _, client, _⟩
  · exact same.transport
  · exact Or.inr (by rw [client])

theorem dialCalls_paired (s : State) (attempt : Attempt) (socket : Nat) :
    (Opened (dialCalls s attempt) socket ↔ ∃ accepted, attempt.connect = .opened socket accepted) ∧
      (Polled (dialCalls s attempt) socket ↔ ∃ accepted, attempt.connect = .opened socket accepted) := by
  cases connect : attempt.connect with
  | opened handle accepted => simp [Opened, Polled, dialCalls, connect, eq_comm]
  | failed errno => simp [Opened, Polled, dialCalls, connect]

theorem connectRound_paired {s : State} (idle : Idle s) (attempt : Attempt) (paired : Paired s) :
    Paired (connectRound s attempt).2 := by
  have dialled := connectRound_spec idle attempt
  obtain ⟨more, same, plain⟩ := dialled.log
  have steady : ∀ call ∈ more, call.Steady := fun call present => (plain call present).steady
  have opened : ∀ socket, Opened (connectRound s attempt).2.calls socket ↔
      Opened s.calls socket ∨ ∃ accepted, attempt.connect = .opened socket accepted := by
    intro socket
    rw [same, opened_append, opened_append, (dialCalls_paired s attempt socket).1]
    exact or_iff_left (steady_not_opened steady socket)
  have polled : ∀ socket, Polled (connectRound s attempt).2.calls socket ↔
      Polled s.calls socket ∨ ∃ accepted, attempt.connect = .opened socket accepted := by
    intro socket
    rw [same, polled_append, polled_append, (dialCalls_paired s attempt socket).2]
    exact or_iff_left (steady_not_polled steady socket)
  refine ⟨?_, ?_, ?_⟩
  · intro socket current
    exact (opened socket).mpr (Or.inr (dialled.transport socket current))
  · intro socket present
    exact (opened socket).mpr (((polled socket).mp present).imp_left (paired.opened_of_polled socket))
  · intro socket present
    exact (polled socket).mpr (((opened socket).mp present).imp_left (paired.polled_of_opened socket))

theorem poll_paired {s : State} (paired : Paired s) :
    Paired ({ s with pollThread := .polling }.record (.zsockPoll s.fd sysForeverMs s.client.transport)) := by
  refine ⟨?_, ?_, ?_⟩
  · intro socket current
    exact opened_append.mpr (Or.inl (paired.current socket current))
  · intro socket present
    rcases polled_append.mp present with before | ⟨fd, timeout, now⟩
    · exact opened_append.mpr (Or.inl (paired.opened_of_polled socket before))
    · simp only [List.mem_singleton, Call.zsockPoll.injEq] at now
      exact opened_append.mpr (Or.inl (paired.current socket now.2.2.symm))
  · intro socket present
    rcases opened_append.mp present with before | ⟨broker, client, accepted, now⟩
    · exact polled_append.mpr (Or.inl (paired.polled_of_opened socket before))
    · simp at now

theorem Phase.paired {s t : State} (phase : Phase s t) (consistent : Consistent s) (paired : Paired s) :
    Paired t := by
  cases phase with
  | quiet quiet =>
    exact paired.steady (quiet.log.mono fun _ => Call.Aside.steady) (Or.inr (by rw [quiet.client]))
  | dial idle attempt => exact connectRound_paired idle attempt paired
  | poll live => exact poll_paired paired
  | input live result => exact paired.steady (mqttInput_received s result).steady (mqttInput_transport live result)
  | publish param result =>
    rw [mqttPublish_state]
    exact paired.steady (afterWrite_steady (by trivial) result) (afterWrite_transport s _ result)
  | subscribe topic result =>
    rw [subscribe_state]
    exact paired.steady (afterWrite_steady (by trivial) result) (afterWrite_transport s _ result)
  | expires live ping =>
    refine paired.steady (keepaliveExpires_steady consistent ping) ?_
    rw [keepaliveExpires_live live]
    cases ping with
    | none => exact Or.inr rfl
    | some errno => exact Or.inl (closeTransport_transport _)

/-- Every poll of a run watches the current connection's socket exactly if every socket the stack
hands out in it is 0. -/
theorem polled_descriptor_iff (channelId : Int) (devId lastWillTopic lastWillMessage : Text) (steps : List Step) :
    let calls := (run step (booted channelId devId lastWillTopic lastWillMessage) steps).calls
    (∀ (fd timeout : Int) (transport : Option Nat), .zsockPoll fd timeout transport ∈ calls →
      ∃ socket : Nat, transport = some socket ∧ fd = socket) ↔
    ∀ broker client socket accepted, .mqttConnect broker client (.opened socket accepted) ∈ calls → socket = 0 := by
  intro calls
  have start := booted_consistent channelId devId lastWillTopic lastWillMessage
  have unmade : (booted channelId devId lastWillTopic lastWillMessage).calls = [] := rfl
  obtain ⟨_, made⟩ := run_from start (by simp [unmade]) steps
  have paired : Paired (run step (booted channelId devId lastWillTopic lastWillMessage) steps) := by
    refine run_invariant_phases (fun phase => phase.paired) start ⟨?_, ?_, ?_⟩ steps
    · rintro socket ⟨⟩
    · simp [Polled, unmade]
    · simp [Opened, unmade]
  constructor
  · intro watched broker client socket accepted connected
    obtain ⟨fd, timeout, polled⟩ := paired.polled_of_opened socket ⟨broker, client, accepted, connected⟩
    obtain ⟨current, same, descriptor⟩ := watched fd timeout (some socket) polled
    obtain ⟨zero, _⟩ := made _ polled
    have boot : fd = 0 := zero
    cases same
    omega
  · intro zeroes fd timeout transport polled
    obtain ⟨boot, opened⟩ := made _ polled
    obtain ⟨socket, rfl⟩ := Option.ne_none_iff_exists'.mp opened
    obtain ⟨broker, client, accepted, connected⟩ := paired.opened_of_polled socket ⟨fd, timeout, polled⟩
    refine ⟨socket, rfl, ?_⟩
    rw [zeroes broker client socket accepted connected]
    exact boot

/-- A first connection on socket 7 is awaited on descriptor 0. -/
theorem polled_descriptor_fails : ¬ ∀ (channelId : Int) (devId lastWillTopic lastWillMessage : Text)
    (steps : List Step) (fd timeout : Int) (transport : Option Nat), .zsockPoll fd timeout transport ∈
      (run step (booted channelId devId lastWillTopic lastWillMessage) steps).calls →
    ∃ socket : Nat, transport = some socket ∧ fd = socket := by
  intro watched
  have polled : .zsockPoll 0 mqttConnectTimeoutMs (some 7) ∈
      (run step (booted 1 [] [] []) (reconnection 7)).calls := by decide
  obtain ⟨socket, same, descriptor⟩ := watched 1 [] [] [] (reconnection 7) _ _ _ polled
  cases same
  exact absurd descriptor (by decide)

end AirQuality.Mqtt
