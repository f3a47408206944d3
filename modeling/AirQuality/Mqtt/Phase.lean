import Mathlib.Logic.Relation
import AirQuality.Mqtt.Connection

/-!
# Phases of a step

A step of the client, with all the retries inside it, is a sequence of phases, and each phase leads
from an idle or live client to an idle or live one. What every phase keeps, every run keeps.
-/

namespace AirQuality.Mqtt
open Foundation

def Call.Aside : Call → Prop
  | .getaddrinfo _ | .serverDisconnects => True
  | _ => False

/-- A change that leaves the connection alone, and the keepalive while there is one. The poll thread
may move, but stays started. -/
structure Quiet (s t : State) : Prop where
  kept : Kept s t
  connected : t.mqttConnected = s.mqttConnected
  client : t.client = s.client
  nfds : t.nfds = s.nfds
  scheduled : s.mqttConnected = true → t.keepalivePending = s.keepalivePending
  started : t.pollThread = .notStarted → s.pollThread = .notStarted
  log : Extends Call.Aside s t

inductive Phase : State → State → Prop where
  | quiet {s t : State} (quiet : Quiet s t) : Phase s t
  | dial {s : State} (idle : Idle s) (attempt : Attempt) : Phase s (connectRound s attempt).2
  | poll {s : State} (live : Live s) :
      Phase s ({ s with pollThread := .polling }.record (.zsockPoll s.fd sysForeverMs s.client.transport))
  | input {s : State} (live : Live s) (result : InputResult) : Phase s (mqttInput s result).2
  | publish (s : State) (param : PublishParam) (result : WriteResult) : Phase s (mqttPublish s param result).2
  | subscribe (s : State) (topic : Text) (result : WriteResult) : Phase s (subscribe s topic result)
  | expires {s : State} (live : Live s) (ping : Option Errno) : Phase s (keepaliveExpires s ping)

abbrev Phases := Relation.ReflTransGen Phase

theorem phases_of_phase {s t : State} (phase : Phase s t) : Phases s t := .single phase

theorem quiet_refl (s : State) : Quiet s s := ⟨Kept.refl s, rfl, rfl, rfl, fun _ => rfl, id, extends_refl _ s⟩

theorem Quiet.trans {s t u : State} (first : Quiet s t) (second : Quiet t u) : Quiet s u := by
  refine ⟨first.kept.trans second.kept, second.connected.trans first.connected, second.client.trans first.client,
    second.nfds.trans first.nfds, ?_, first.started ∘ second.started, first.log.trans second.log⟩
  intro connected
  rw [second.scheduled (first.connected.trans connected), first.scheduled connected]

theorem Quiet.idle {s t : State} (quiet : Quiet s t) (idle : Idle s) : Idle t :=
  ⟨quiet.connected.trans idle.disconnected, by rw [quiet.client, idle.closed], quiet.nfds.trans idle.empty⟩

theorem Quiet.live {s t : State} (quiet : Quiet s t) (live : Live s) : Live t :=
  ⟨quiet.connected.trans live.connected, by rw [quiet.client]; exact live.opened,
    quiet.nfds.trans live.polled, (quiet.scheduled live.connected).trans live.scheduled⟩

theorem Consistent.idle {s : State} (consistent : Consistent s) (disconnected : s.mqttConnected = false) : Idle s := by
  rcases consistent with idle | live
  · exact idle
  · exact absurd live.connected (by simp [disconnected])

theorem Consistent.live {s : State} (consistent : Consistent s) (connected : s.mqttConnected = true) : Live s := by
  rcases consistent with idle | live
  · exact absurd idle.disconnected (by simp [connected])
  · exact live

theorem sameOrIdle_consistent {s t : State} (live : Live s) (scheduled : t.keepalivePending = s.keepalivePending)
    (same : SameOrIdle s t) : Consistent t := by
  rcases same with idle | ⟨connected, client, nfds⟩
  · exact Or.inl idle
  · exact Or.inr ⟨connected.trans live.connected, by rw [client]; exact live.opened, nfds.trans live.polled,
      scheduled.trans live.scheduled⟩

theorem mqttInput_consistent {s : State} (live : Live s) (result : InputResult) :
    Consistent (mqttInput s result).2 := by
  have scheduled := (mqttInput_received s result).keepalivePending
  rcases mqttInput_connection s live.opened result with same | ⟨_, connected, client, nfds⟩
  · exact sameOrIdle_consistent live scheduled same
  · exact Or.inr ⟨connected, by rw [client]; exact live.opened, nfds.trans live.polled,
      scheduled.trans live.scheduled⟩

theorem mqttPublish_state (s : State) (param : PublishParam) (result : WriteResult) :
    (mqttPublish s param result).2 =
      afterWrite (s.record (.mqttPublish param s.mqttConnected (writeCode s result))) result := rfl

theorem subscribe_state (s : State) (topic : Text) (result : WriteResult) :
    subscribe s topic result = afterWrite (s.record (.mqttSubscribe topic 1 (writeCode s result))) result := rfl

theorem afterWrite_idle {s : State} (idle : Idle s) (call : Call) (result : WriteResult) :
    afterWrite (s.record call) result = s.record call := by
  cases result with
  | lost errno => exact closeTransport_none idle.closed
  | sent | refused => rfl

theorem afterWrite_consistent {s : State} (consistent : Consistent s) (call : Call) (result : WriteResult) :
    Consistent (afterWrite (s.record call) result) := by
  rcases consistent with idle | live
  · rw [afterWrite_idle idle]
    exact Or.inl ⟨idle.disconnected, idle.closed, idle.empty⟩
  · cases result with
    | lost errno => exact Or.inl (closeTransport_idle live.opened)
    | sent | refused => exact Or.inr ⟨live.connected, live.opened, live.polled, live.scheduled⟩

/-- The handler runs with the item already off the queue: it is put back, or the connection is lost. -/
theorem keepaliveExpires_live {s : State} (live : Live s) (ping : Option Errno) :
    keepaliveExpires s ping = match ping with
      | none => kWorkReschedule ({ s with keepalivePending := false }.record (.mqttPing 0))
      | some errno => closeTransport ({ s with keepalivePending := false }.record (.mqttPing errno.code)) := by
  obtain ⟨socket, opened⟩ := Option.ne_none_iff_exists'.mp live.opened
  cases ping with
  | none => simp [keepaliveExpires, keepalive, live.scheduled, live.connected, mqttPing, writeCode, opened, afterWrite]
  | some errno =>
    simp [keepaliveExpires, keepalive, live.scheduled, live.connected, mqttPing, writeCode, opened, afterWrite,
      errno.negative]

theorem Phase.consistent {s t : State} (phase : Phase s t) (consistent : Consistent s) : Consistent t := by
  cases phase with
  | quiet quiet => exact consistent.imp quiet.idle quiet.live
  | dial idle attempt =>
    rcases (connectRound_spec idle attempt).outcome with ⟨_, _, live, _⟩ | ⟨idle, _⟩
    · exact Or.inr live
    · exact Or.inl idle
  | poll live => exact Or.inr ⟨live.connected, live.opened, live.polled, live.scheduled⟩
  | input live result => exact mqttInput_consistent live result
  | publish param result =>
    rw [mqttPublish_state]
    exact afterWrite_consistent consistent _ result
  | subscribe topic result =>
    rw [subscribe_state]
    exact afterWrite_consistent consistent _ result
  | expires live ping =>
    rw [keepaliveExpires_live live]
    cases ping with
    | none => exact Or.inr ⟨live.connected, live.opened, live.polled, rfl⟩
    | some errno => exact Or.inl (closeTransport_idle live.opened)

theorem Phases.consistent {s t : State} (phases : Phases s t) (consistent : Consistent s) : Consistent t := by
  induction phases with
  | refl => exact consistent
  | tail _ last ih => exact last.consistent ih

/-! ### Reconnecting -/

/-- One of the lookups of `get_mqtt_broker_addrinfo` succeeds. -/
def Resolves (lookup : Nat → LookupResult) : Nat → Prop
  | 0 => False
  | retries + 1 => (∃ address, lookup retries = .resolved address) ∨ Resolves lookup retries

/-- One of the rounds of `try_to_connect` connects, and none before it gives up. -/
def Connects (attempt : Nat → Attempt) : Nat → Prop
  | 0 => False
  | retries + 1 =>
    (attempt retries).Connects ∨ (¬ (attempt retries).GivesUp ∧ Connects attempt retries)

def ConnectEnv.Reconnects (env : ConnectEnv) : Prop := Resolves env.lookup 3 ∧ Connects env.attempt 3

theorem lookupLoop_quiet (lookup : Nat → LookupResult) (retries : Nat) (rc : Int) (s : State) :
    Quiet s (lookupLoop lookup retries rc s).2 ∧
      (lookupLoop lookup retries rc s).2.pollThread = s.pollThread ∧
      (lookupLoop lookup retries rc s).2.keepalivePending = s.keepalivePending := by
  induction retries generalizing rc s with
  | zero => exact ⟨quiet_refl s, rfl, rfl⟩
  | succ retries ih =>
    have asked : ∀ result haddr, Quiet s { s.record (.getaddrinfo result) with haddr } := fun _ _ =>
      ⟨⟨rfl, rfl, rfl, rfl⟩, rfl, rfl, rfl, fun _ => rfl, id, extends_record (by trivial)⟩
    unfold lookupLoop
    cases lookup retries with
    | resolved address => exact ⟨asked _ _, rfl, rfl⟩
    | failed code nonzero =>
      obtain ⟨quiet, rest⟩ := ih code (s.record (.getaddrinfo (.failed code nonzero)))
      exact ⟨(asked _ s.haddr).trans quiet, rest⟩

theorem lookupLoop_zero_iff (lookup : Nat → LookupResult) (retries : Nat) {rc : Int} (failing : rc ≠ 0) (s : State) :
    (lookupLoop lookup retries rc s).1 = 0 ↔ Resolves lookup retries := by
  induction retries generalizing rc s with
  | zero => simp [lookupLoop, Resolves, failing]
  | succ retries ih =>
    unfold lookupLoop Resolves
    cases lookup retries with
    | resolved address => simp
    | failed code nonzero => simp [ih nonzero]

/-- What reconnecting from an idle client ends in, when `connects` is what it takes to succeed. -/
def Outcome (connects : Prop) (s : State) (rc : Int) (t : State) : Prop :=
  (rc = 0 ∧ connects ∧ Live t ∧ t.pollThread = s.pollThread.start) ∨
    (rc ≠ 0 ∧ ¬ connects ∧ Idle t ∧ t.pollThread = s.pollThread)

theorem connectLoop_outcome (attempt : Nat → Attempt) (retries : Nat) {s : State} (idle : Idle s) :
    Outcome (Connects attempt retries) s (connectLoop attempt retries s).1 (connectLoop attempt retries s).2 := by
  induction retries generalizing s with
  | zero => exact Or.inr ⟨Errno.einval.code_ne_zero, not_false, idle, rfl⟩
  | succ retries ih =>
    have outcome := (connectRound_spec idle (attempt retries)).outcome
    unfold connectLoop Connects
    generalize connectRound s (attempt retries) = round at *
    obtain ⟨result, t⟩ := round
    dsimp only at outcome
    rcases outcome with ⟨rfl, connects, live, thread⟩ | ⟨idle', _, thread, fails, ⟨rfl, goes⟩ | ⟨rc, negative, rfl, gives⟩⟩
    · exact Or.inl ⟨rfl, Or.inl connects, live, thread⟩
    · have rest := ih idle'
      rw [Outcome, thread] at rest
      simpa [Outcome, fails, goes] using rest
    · exact Or.inr ⟨by dsimp only; omega, by simp [fails, gives], idle', thread⟩

theorem connectLoop_phases (attempt : Nat → Attempt) (retries : Nat) {s : State} (idle : Idle s) :
    Phases s (connectLoop attempt retries s).2 := by
  apply connectLoop_invariant _ attempt retries idle .refl
  intro t idle' attempt phases
  exact phases.tail (.dial idle' attempt)

theorem connectToServer_cases (s : State) (env : ConnectEnv) :
    (¬ Resolves env.lookup 3 ∧ (connectToServer s env).1 ≠ 0 ∧
      connectToServer s env = lookupLoop env.lookup 3 Errno.einval.code s) ∨
    (Resolves env.lookup 3 ∧
      connectToServer s env = connectLoop env.attempt 3 (lookupLoop env.lookup 3 Errno.einval.code s).2) := by
  have found := lookupLoop_zero_iff env.lookup 3 Errno.einval.code_ne_zero s
  unfold connectToServer getMqttBrokerAddrinfo tryToConnect
  dsimp only
  by_cases resolves : Resolves env.lookup 3
  · rw [if_neg (not_not.mpr (found.mpr resolves))]
    refine Or.inr ⟨resolves, ?_⟩
    split
    · rfl
    · rename_i answered
      exact Prod.ext (not_not.mp answered).symm rfl
  · have missing := mt found.mp resolves
    rw [if_pos missing]
    exact Or.inl ⟨resolves, missing, rfl⟩

theorem connectToServer_outcome {s : State} (idle : Idle s) (env : ConnectEnv) :
    Outcome env.Reconnects s (connectToServer s env).1 (connectToServer s env).2 := by
  obtain ⟨quiet, thread, _⟩ := lookupLoop_quiet env.lookup 3 Errno.einval.code s
  rcases connectToServer_cases s env with ⟨missing, nonzero, looked⟩ | ⟨resolves, dialled⟩
  · refine Or.inr ⟨nonzero, fun both => missing both.1, ?_, ?_⟩
    · rw [looked]
      exact quiet.idle idle
    · rw [looked]
      exact thread
  · have outcome := connectLoop_outcome env.attempt 3 (quiet.idle idle)
    rw [Outcome, thread] at outcome
    rw [dialled]
    simpa [Outcome, ConnectEnv.Reconnects, resolves] using outcome

/-- What holds after the lookups and after the attempts that follow them, holds after reconnecting. -/
theorem ensureConnected_invariant {Inv : State → Prop} {s : State} (consistent : Consistent s) (env : ConnectEnv)
    (start : Inv s) (look : ∀ t, Quiet s t → Inv t)
    (dial : ∀ t, Idle t → Inv t → Inv (connectLoop env.attempt 3 t).2) : Inv (ensureConnected s env).2 := by
  unfold ensureConnected
  cases connected : s.mqttConnected with
  | true => exact start
  | false =>
    obtain ⟨quiet, _⟩ := lookupLoop_quiet env.lookup 3 Errno.einval.code s
    have looked := look _ quiet
    simp only [Bool.false_eq_true, if_false]
    rcases connectToServer_cases s env with ⟨_, _, same⟩ | ⟨_, same⟩
    · rw [same]
      exact looked
    · rw [same]
      exact dial _ (quiet.idle (consistent.idle connected)) looked

theorem ensureConnected_outcome {s : State} (consistent : Consistent s) (env : ConnectEnv) :
    ((ensureConnected s env).1 = 0 ∧ (s.mqttConnected = true ∨ env.Reconnects) ∧ Live (ensureConnected s env).2 ∧
      (ensureConnected s env).2.pollThread = if s.mqttConnected then s.pollThread else s.pollThread.start) ∨
    ((ensureConnected s env).1 ≠ 0 ∧ ¬ (s.mqttConnected = true ∨ env.Reconnects) ∧ Idle (ensureConnected s env).2 ∧
      (ensureConnected s env).2.pollThread = s.pollThread) := by
  unfold ensureConnected
  cases connected : s.mqttConnected with
  | true => exact Or.inl ⟨rfl, Or.inl rfl, consistent.live connected, rfl⟩
  | false => simpa [Outcome] using connectToServer_outcome (consistent.idle connected) env

theorem ensureConnected_phases {s : State} (consistent : Consistent s) (env : ConnectEnv) :
    Phases s (ensureConnected s env).2 := by
  apply ensureConnected_invariant consistent env .refl
  · intro t quiet
    exact phases_of_phase (.quiet quiet)
  · intro t idle looked
    exact looked.trans (connectLoop_phases env.attempt 3 idle)

section Log
variable {P : Call → Prop} (dials : ∀ s attempt, ∀ call ∈ dialCalls s attempt, P call)
  (plain : ∀ call, call.Plain → P call)
include dials plain

theorem connectLoop_log (attempt : Nat → Attempt) (retries : Nat) {s : State} (idle : Idle s) :
    Extends P s (connectLoop attempt retries s).2 := by
  apply connectLoop_invariant _ attempt retries idle (extends_refl _ s)
  intro t idle' attempt logged
  exact logged.trans (connectRound_log idle' (dials t attempt) plain)

theorem ensureConnected_log (aside : ∀ call, call.Aside → P call) {s : State} (consistent : Consistent s)
    (env : ConnectEnv) : Extends P s (ensureConnected s env).2 := by
  apply ensureConnected_invariant consistent env (extends_refl _ s)
  · intro t quiet
    exact quiet.log.mono aside
  · intro t idle looked
    exact looked.trans (connectLoop_log dials plain env.attempt 3 idle)

end Log

/-! ### Every step is a sequence of phases -/

theorem mqttPublishToTopic_phases {s : State} (consistent : Consistent s) (topic payload : Text) (retain : Bool)
    (env : PublishEnv) : Phases s (mqttPublishToTopic s topic payload retain env).2 := by
  apply mqttPublishToTopic_invariant _ topic payload retain env (ensureConnected_phases consistent env.toConnectEnv)
  intro t phases param result
  exact phases.tail (.publish t param result)

theorem mqttSubscribeToTopic_phases {s : State} (consistent : Consistent s) (subs : List Subscription)
    (env : SubscribeEnv) : Phases s (mqttSubscribeToTopic s subs env).2 := by
  apply mqttSubscribeToTopic_invariant _ _ subs env (ensureConnected_phases consistent env.toConnectEnv)
  · intro t phases topic result
    exact phases.tail (.subscribe t topic result)
  · intro t subs phases
    exact phases.tail (.quiet ⟨⟨rfl, rfl, rfl, rfl⟩, rfl, rfl, rfl, fun _ => rfl, id, extends_of_calls rfl⟩)

theorem quiet_thread (s : State) {thread : PollThread} (started : thread ≠ .notStarted) :
    Quiet s { s with pollThread := thread } :=
  ⟨⟨rfl, rfl, rfl, rfl⟩, rfl, rfl, rfl, fun _ => rfl, fun absent => absurd absent started, extends_of_calls rfl⟩

theorem pollCalls_phases {s : State} (consistent : Consistent s) : Phases s (pollCalls s) := by
  unfold pollCalls
  split
  · rcases consistent with idle | live
    · rw [if_pos (Int.le_of_eq idle.empty)]
      exact phases_of_phase (.quiet (quiet_thread s (by decide)))
    · rw [if_neg (by rw [live.polled]; decide)]
      exact phases_of_phase (.poll live)
  · exact .refl

theorem pollReturns_phases (s : State) (poll : PollResult) : Phases s (pollReturns s poll) := by
  unfold pollReturns
  split
  · exact phases_of_phase (.quiet (quiet_thread s (by split <;> decide)))
  · exact .refl

theorem returned_or_waiting (returns : Prop) [Decidable returns] :
    (if returns then PollThread.returned else .waiting) ≠ .notStarted := by
  split <;> decide

theorem mqttInput_closed {s : State} (closed : s.client.transport = none) (result : InputResult) :
    mqttInput s result = (Errno.enotconn.code, s) := by simp [mqttInput, closed]

theorem pollReads_phases {s : State} (consistent : Consistent s) (input : InputResult) :
    Phases s (pollReads s input) := by
  unfold pollReads
  split
  · rcases consistent with idle | live
    · rw [mqttInput_closed idle.closed]
      exact phases_of_phase (.quiet (quiet_thread s (returned_or_waiting _)))
    · exact (phases_of_phase (.input live input)).tail (.quiet (quiet_thread _ (returned_or_waiting _)))
  · exact .refl

theorem keepaliveExpires_idle {s : State} (idle : Idle s) (ping : Option Errno) :
    keepaliveExpires s ping = { s with keepalivePending := false } := by
  unfold keepaliveExpires
  split
  · simp [keepalive, idle.disconnected]
  · rename_i idleQueue
    simp only [Bool.not_eq_true] at idleQueue
    rw [← idleQueue]

theorem pollReads_log (s : State) (input : InputResult) : Extends Call.Plain s (pollReads s input) := by
  unfold pollReads
  split
  · exact (mqttInput_received s input).log
  · exact extends_refl _ s

theorem keepaliveExpires_log {P : Call → Prop} (pings : ∀ code, P (.mqttPing code))
    (plain : ∀ call, call.Plain → P call) {s : State} (consistent : Consistent s) (ping : Option Errno) :
    Extends P s (keepaliveExpires s ping) := by
  rcases consistent with idle | live
  · rw [keepaliveExpires_idle idle]
    exact extends_of_calls rfl
  · have pinged : ∀ code, Extends P s ({ s with keepalivePending := false }.record (.mqttPing code)) :=
      fun code => ⟨[.mqttPing code], rfl, by simpa using pings code⟩
    have rescheduled : P (.kWorkReschedule s.client.keepalive) := plain _ (by trivial)
    rw [keepaliveExpires_live live]
    cases ping with
    | none => exact (pinged 0).trans ⟨[.kWorkReschedule s.client.keepalive], rfl, by simpa using rescheduled⟩
    | some errno => exact (pinged errno.code).trans ((closeTransport_received _).log.mono plain)

theorem step_phases {s : State} (consistent : Consistent s) (action : Step) : Phases s (step s action) := by
  cases action with
  | publish topic payload retain env => exact mqttPublishToTopic_phases consistent topic payload retain env
  | subscribe subs env => exact mqttSubscribeToTopic_phases consistent subs env
  | pollCalls => exact pollCalls_phases consistent
  | pollReturns poll => exact pollReturns_phases s poll
  | pollReads input => exact pollReads_phases consistent input
  | keepaliveExpires ping =>
    rcases consistent with idle | live
    · rw [step, perform, keepaliveExpires_idle idle]
      refine phases_of_phase (.quiet ⟨⟨rfl, rfl, rfl, rfl⟩, rfl, rfl, rfl, ?_, id, extends_of_calls rfl⟩)
      intro connected
      exact absurd idle.disconnected (by simp [connected])
    · exact phases_of_phase (.expires live ping)
  | serverDisconnects =>
    exact phases_of_phase (.quiet ⟨⟨rfl, rfl, rfl, rfl⟩, rfl, rfl, rfl, fun _ => rfl, id, extends_record (by trivial)⟩)

end AirQuality.Mqtt
