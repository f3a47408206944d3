import AirQuality.Mqtt.Phase

/-!
# The connection state stays consistent

The invariant over whole runs, and what every call a run logs was made with.
-/

namespace AirQuality.Mqtt
open Foundation

/-- What the calls made from `s` carry: a client is initialised on a closed transport and configured
from the set-up state, a poll watches an open transport, and a packet is sent only when connected. -/
def Call.From (s : State) : Call → Prop
  | .clientInit transport => transport = none
  | .mqttConnect _ client _ => client = configuredClient s
  | .zsockPoll fd _ transport => fd = s.fd ∧ transport ≠ none
  | .mqttPublish _ connected code => code = 0 → connected = true
  | _ => True

theorem Call.Plain.from {call : Call} (plain : call.Plain) (s : State) : call.From s := by
  cases call with
  | kWorkReschedule | kThreadStart | mqttAbort | mqttInput | transportClosed | callback | wdtFeed => trivial
  | _ => exact plain.elim

theorem Call.Aside.from {call : Call} (aside : call.Aside) (s : State) : call.From s := by
  cases call with
  | getaddrinfo | serverDisconnects => trivial
  | _ => exact aside.elim

theorem Kept.from_iff {s t : State} (kept : Kept s t) (call : Call) : call.From t ↔ call.From s := by
  cases call <;> simp [Call.From, kept.fd, kept.configuredClient]

theorem afterWrite_log {s : State} {call : Call} (made : call.From s) (result : WriteResult) :
    Extends (Call.From s) s (afterWrite (s.record call) result) :=
  afterWrite_extends made (fun _ plain => plain.from s) result

theorem afterWrite_kept (s : State) (call : Call) (result : WriteResult) :
    Kept s (afterWrite (s.record call) result) := by
  have recorded : Kept s (s.record call) := ⟨rfl, rfl, rfl, rfl⟩
  exact recorded.trans (afterWrite_received (s.record call) result).kept

theorem writeCode_cases {s : State} (consistent : Consistent s) (result : WriteResult) :
    (writeCode s result = 0 ∧ s.mqttConnected = true ∧ result = .sent) ∨
      (writeCode s result < 0 ∧ ¬ (s.mqttConnected = true ∧ result = .sent)) := by
  rcases consistent with idle | live
  · refine Or.inr ⟨?_, by simp [idle.disconnected]⟩
    simp only [writeCode, idle.closed]
    exact Errno.enotconn.negative
  · obtain ⟨socket, opened⟩ := Option.ne_none_iff_exists'.mp live.opened
    cases result with
    | sent => exact Or.inl ⟨by simp [writeCode, opened], live.connected, rfl⟩
    | refused errno => exact Or.inr ⟨by simp [writeCode, opened, errno.negative], by simp⟩
    | lost errno => exact Or.inr ⟨by simp [writeCode, opened, errno.negative], by simp⟩

theorem dialCalls_from {s : State} (idle : Idle s) (attempt : Attempt) :
    ∀ call ∈ dialCalls s attempt, call.From s := by
  intro call present
  unfold dialCalls at present
  rw [List.mem_append] at present
  rcases present with first | polled
  · simp only [List.mem_cons, List.not_mem_nil, or_false] at first
    rcases first with rfl | rfl | rfl
    · exact idle.closed
    · trivial
    · rfl
  · cases connect : attempt.connect with
    | opened socket accepted =>
      simp only [connect, List.mem_singleton] at polled
      subst polled
      exact ⟨rfl, by simp⟩
    | failed errno => simp [connect] at polled

def Call.Steady : Call → Prop
  | .clientInit _ | .kWorkInitDelayable _ | .mqttConnect _ _ _ | .zsockPoll _ _ _ => False
  | _ => True

theorem Call.Plain.steady {call : Call} (plain : call.Plain) : call.Steady := by
  cases call <;> trivial

theorem Call.Aside.steady {call : Call} (aside : call.Aside) : call.Steady := by
  cases call <;> trivial

theorem Received.steady {s t : State} (received : Received s t) : Extends Call.Steady s t :=
  received.log.mono fun _ plain => plain.steady

theorem afterWrite_steady {s : State} {call : Call} (steady : call.Steady) (result : WriteResult) :
    Extends Call.Steady s (afterWrite (s.record call) result) :=
  afterWrite_extends steady (fun _ plain => plain.steady) result

def Call.Poll : Call → Prop
  | .zsockPoll _ _ _ => True
  | _ => False

theorem pollCalls_log (s : State) : Extends Call.Poll s (pollCalls s) := by
  unfold pollCalls
  split
  · split
    · exact extends_of_calls rfl
    · exact ⟨[_], rfl, by simp [Call.Poll]⟩
  · exact extends_refl _ s

theorem pollReturns_calls (s : State) (poll : PollResult) : (pollReturns s poll).calls = s.calls := by
  unfold pollReturns
  split <;> rfl

theorem mqttPublishToTopic_steady (s : State) (topic payload : Text) (retain : Bool) (env : PublishEnv) :
    Extends Call.Steady (ensureConnected s env.toConnectEnv).2 (mqttPublishToTopic s topic payload retain env).2 := by
  apply mqttPublishToTopic_invariant _ topic payload retain env (extends_refl _ _)
  intro t steady param result
  exact steady.trans (afterWrite_steady (by trivial) result)

theorem subscribe_steady (s : State) (topic : Text) (result : WriteResult) :
    Extends Call.Steady s (subscribe s topic result) := by
  rw [subscribe_state]
  exact afterWrite_steady (by trivial) result

theorem subscribeLoop_steady (result : Nat → WriteResult) (i : Nat) (subs : List Subscription) (s : State) :
    Extends Call.Steady s (subscribeLoop result i subs s) := by
  apply subscribeLoop_invariant _ result i subs (extends_refl _ s)
  intro t steady topic result
  exact steady.trans (subscribe_steady t topic result)

theorem mqttSubscribeToTopic_steady (s : State) (subs : List Subscription) (env : SubscribeEnv) :
    Extends Call.Steady (ensureConnected s env.toConnectEnv).2 (mqttSubscribeToTopic s subs env).2 := by
  apply mqttSubscribeToTopic_invariant _ _ subs env (extends_refl _ _)
  · intro t steady topic result
    exact steady.trans (subscribe_steady t topic result)
  · intro t subs steady
    exact steady

theorem pollReads_steady (s : State) (input : InputResult) : Extends Call.Steady s (pollReads s input) :=
  (pollReads_log s input).mono fun _ plain => plain.steady

theorem keepaliveExpires_steady {s : State} (consistent : Consistent s) (ping : Option Errno) :
    Extends Call.Steady s (keepaliveExpires s ping) :=
  keepaliveExpires_log (fun _ => trivial) (fun _ plain => plain.steady) consistent ping

theorem Phase.kept {s t : State} (phase : Phase s t) : Kept s t := by
  cases phase with
  | quiet quiet => exact quiet.kept
  | dial idle attempt => exact (connectRound_spec idle attempt).kept
  | poll live => exact ⟨rfl, rfl, rfl, rfl⟩
  | input live result => exact (mqttInput_received s result).kept
  | publish param result =>
    rw [mqttPublish_state]
    exact afterWrite_kept s _ result
  | subscribe topic result =>
    rw [subscribe_state]
    exact afterWrite_kept s _ result
  | expires live ping =>
    rw [keepaliveExpires_live live]
    cases ping with
    | none => exact ⟨rfl, rfl, rfl, rfl⟩
    | some errno =>
      have pinged : Kept s ({ s with keepalivePending := false }.record (.mqttPing errno.code)) :=
        ⟨rfl, rfl, rfl, rfl⟩
      exact pinged.trans (closeTransport_received _).kept

theorem Phase.log {s t : State} (phase : Phase s t) (consistent : Consistent s) : Extends (Call.From s) s t := by
  cases phase with
  | quiet quiet => exact quiet.log.mono fun _ aside => aside.from s
  | dial idle attempt =>
    exact connectRound_log idle (dialCalls_from idle attempt) fun _ plain => plain.from s
  | poll live => exact extends_record ⟨rfl, live.opened⟩
  | input live result => exact (mqttInput_received s result).log.mono fun _ plain => plain.from s
  | publish param result =>
    rw [mqttPublish_state]
    refine afterWrite_log ?_ result
    intro success
    rcases writeCode_cases consistent result with ⟨_, connected, _⟩ | ⟨failed, _⟩
    · exact connected
    · exact absurd success (by omega)
  | subscribe topic result =>
    rw [subscribe_state]
    exact afterWrite_log (by trivial) result
  | expires live ping => exact keepaliveExpires_log (fun _ => trivial) (fun _ plain => plain.from s) consistent ping

theorem phases_invariant {Inv : State → Prop} (keep : ∀ {s t}, Phase s t → Consistent s → Inv s → Inv t)
    {s t : State} (phases : Phases s t) (consistent : Consistent s) (start : Inv s) : Inv t := by
  induction phases with
  | refl => exact start
  | tail before last ih => exact keep last (Phases.consistent before consistent) ih

theorem run_phases {s : State} (consistent : Consistent s) (steps : List Step) : Phases s (run step s steps) := by
  induction steps generalizing s with
  | nil => exact .refl
  | cons action rest ih =>
    have phases := step_phases consistent action
    exact phases.trans (ih (phases.consistent consistent))

theorem run_invariant_phases {Inv : State → Prop}
    (keep : ∀ {s t}, Phase s t → Consistent s → Inv s → Inv t) {s : State} (consistent : Consistent s)
    (start : Inv s) (steps : List Step) : Inv (run step s steps) :=
  phases_invariant keep (run_phases consistent steps) consistent start

theorem booted_idle (channelId : Int) (devId lastWillTopic lastWillMessage : Text) :
    Idle (booted channelId devId lastWillTopic lastWillMessage) := ⟨rfl, rfl, rfl⟩

theorem booted_consistent (channelId : Int) (devId lastWillTopic lastWillMessage : Text) :
    Consistent (booted channelId devId lastWillTopic lastWillMessage) :=
  Or.inl (booted_idle channelId devId lastWillTopic lastWillMessage)

theorem step_consistent {s : State} (consistent : Consistent s) (action : Step) : Consistent (step s action) :=
  (step_phases consistent action).consistent consistent

theorem run_consistent {s : State} (consistent : Consistent s) (steps : List Step) :
    Consistent (run step s steps) := (run_phases consistent steps).consistent consistent

/-- Every call in the log was made with what `Call.From` says, and the set-up state stays. -/
theorem Phases.from {s t : State} (phases : Phases s t) (consistent : Consistent s)
    (start : ∀ call ∈ s.calls, call.From s) : Kept s t ∧ ∀ call ∈ t.calls, call.From s := by
  have keep : ∀ {t u}, Phase t u → Consistent t → (Kept s t ∧ ∀ call ∈ t.calls, call.From s) →
      Kept s u ∧ ∀ call ∈ u.calls, call.From s := by
    intro t u phase consistent before
    obtain ⟨kept, made⟩ := before
    have log := (phase.log consistent).mono fun call made => (kept.from_iff call).mp made
    exact ⟨kept.trans phase.kept, log.forall_iff.mpr made⟩
  exact phases_invariant keep phases consistent ⟨Kept.refl s, start⟩

theorem run_from {s : State} (consistent : Consistent s) (start : ∀ call ∈ s.calls, call.From s)
    (steps : List Step) :
    Kept s (run step s steps) ∧ ∀ call ∈ (run step s steps).calls, call.From s :=
  (run_phases consistent steps).from consistent start

/-- The network answers at once, with `socket`, and the broker accepts. -/
def answering (socket : Nat) : ConnectEnv where
  lookup _ := .resolved 1
  attempt _ :=
    { connect := .opened socket true
      poll := .ready 1
      input := { packet := some (.connack 0) }
      abortPoll := .ready 0 }

/-- A publish connects, the poll thread finds the connection aborted, and a publish reconnects. -/
def reconnection (socket : Nat) : List Step :=
  let publish := Step.publish ['t'] ['p'] false { answering socket with rand := 0, result := .sent }
  [publish, .pollCalls, .pollReturns (.ready 1), .pollReads { failure := some Errno.econnaborted }, publish]

end AirQuality.Mqtt
