import AirQuality.Mqtt.Consistency

/-!
# Initialising the keepalive work

`broker_init` runs on every attempt and initialises `keepalive_work`, which a lost connection leaves
scheduled. The only attempt that can find it so is the first of a reconnection.
-/

namespace AirQuality.Mqtt
open Foundation

def Call.Unscheduled : Call → Prop
  | .kWorkInitDelayable pending => pending = false
  | _ => True

def AllUnscheduled (s : State) : Prop := ∀ call ∈ s.calls, call.Unscheduled

theorem Call.Steady.unscheduled {call : Call} (steady : call.Steady) : call.Unscheduled := by
  cases call <;> trivial

theorem Extends.unscheduled {s t : State} (steady : Extends Call.Steady s t) : AllUnscheduled t ↔ AllUnscheduled s :=
  (steady.mono fun _ => Call.Steady.unscheduled).forall_iff

theorem connectRound_unscheduled {s : State} (idle : Idle s) (attempt : Attempt) :
    AllUnscheduled (connectRound s attempt).2 ↔ AllUnscheduled s ∧ s.keepalivePending = false := by
  obtain ⟨more, same, plain⟩ := (connectRound_spec idle attempt).log
  have rest : ∀ call ∈ more, call.Unscheduled := fun call present => (plain call present).steady.unscheduled
  have dialled : (∀ call ∈ dialCalls s attempt, call.Unscheduled) ↔ s.keepalivePending = false := by
    unfold dialCalls
    cases attempt.connect <;> simp [Call.Unscheduled]
  unfold AllUnscheduled
  rw [same, List.forall_mem_append, List.forall_mem_append, dialled]
  exact and_iff_left rest

/-- The first round decides: it leaves the work unscheduled for the next one. -/
theorem connectLoop_unscheduled (attempt : Nat → Attempt) (retries : Nat) {s : State} (idle : Idle s) :
    AllUnscheduled (connectLoop attempt (retries + 1) s).2 ↔ AllUnscheduled s ∧ s.keepalivePending = false := by
  induction retries generalizing s with
  | zero =>
    rw [← connectRound_unscheduled idle (attempt 0)]
    simp only [connectLoop]
    split
    · rename_i same
      rw [same]
    · rename_i same
      rw [same]
  | succ retries ih =>
    rw [← connectRound_unscheduled idle (attempt (retries + 1)), connectLoop]
    have outcome := (connectRound_spec idle (attempt (retries + 1))).outcome
    generalize connectRound s (attempt (retries + 1)) = round at *
    obtain ⟨result, t⟩ := round
    cases result with
    | some rc => exact Iff.rfl
    | none =>
      rcases outcome with ⟨impossible, _⟩ | ⟨idle', unscheduled, _⟩
      · cases impossible
      · exact (ih idle').trans (and_iff_left unscheduled)

theorem ensureConnected_unscheduled {s : State} (consistent : Consistent s) (env : ConnectEnv) :
    AllUnscheduled (ensureConnected s env).2 ↔
      AllUnscheduled s ∧ (s.mqttConnected = false → Resolves env.lookup 3 → s.keepalivePending = false) := by
  unfold ensureConnected
  cases connected : s.mqttConnected with
  | true => simp
  | false =>
    obtain ⟨quiet, _, pending⟩ := lookupLoop_quiet env.lookup 3 Errno.einval.code s
    have looked := (quiet.log.mono fun _ => Call.Aside.steady).unscheduled
    have dialled := connectLoop_unscheduled env.attempt 2 (quiet.idle (consistent.idle connected))
    simp only [Bool.false_eq_true, if_false, true_implies]
    rcases connectToServer_cases s env with ⟨missing, _, same⟩ | ⟨resolves, same⟩
    · rw [same, looked]
      exact (and_iff_left fun resolves => absurd resolves missing).symm
    · rw [same, dialled, looked, pending]
      simp only [resolves, true_implies]

/-! ### Steps and runs -/

def Step.env : Step → Option ConnectEnv
  | .publish _ _ _ env => some env.toConnectEnv
  | .subscribe _ env => some env.toConnectEnv
  | _ => none

/-- If the step publishes or subscribes while disconnected, and the broker's address is found, the
keepalive work is not scheduled. -/
def UnscheduledWhenReconnecting (s : State) (action : Step) : Prop :=
  ∀ env, action.env = some env → s.mqttConnected = false → Resolves env.lookup 3 → s.keepalivePending = false

theorem step_unscheduled {s : State} (consistent : Consistent s) (action : Step) :
    AllUnscheduled (step s action) ↔ AllUnscheduled s ∧ UnscheduledWhenReconnecting s action := by
  have other : action.env = none → Extends Call.Unscheduled s (step s action) →
      (AllUnscheduled (step s action) ↔ AllUnscheduled s ∧ UnscheduledWhenReconnecting s action) := by
    intro outside extended
    rw [AllUnscheduled, extended.forall_iff]
    simp [UnscheduledWhenReconnecting, outside, AllUnscheduled]
  cases action with
  | publish topic payload retain env =>
    have sent := (mqttPublishToTopic_steady s topic payload retain env).unscheduled
    rw [step, perform]
    dsimp only
    rw [sent, ensureConnected_unscheduled consistent]
    simp [UnscheduledWhenReconnecting, Step.env]
  | subscribe subs env =>
    have sent := (mqttSubscribeToTopic_steady s subs env).unscheduled
    rw [step, perform]
    dsimp only
    rw [sent, ensureConnected_unscheduled consistent]
    simp [UnscheduledWhenReconnecting, Step.env]
  | pollCalls =>
    refine other rfl ((pollCalls_log s).mono fun call poll => ?_)
    cases call <;> trivial
  | pollReturns poll => exact other rfl (extends_of_calls (pollReturns_calls s poll))
  | pollReads input => exact other rfl ((pollReads_steady s input).mono fun _ => Call.Steady.unscheduled)
  | keepaliveExpires ping =>
    exact other rfl ((keepaliveExpires_steady consistent ping).mono fun _ => Call.Steady.unscheduled)
  | serverDisconnects => exact other rfl (extends_record (by trivial))

theorem allUnscheduled_iff (s : State) :
    AllUnscheduled s ↔ ∀ pending, .kWorkInitDelayable pending ∈ s.calls → pending = false := by
  constructor
  · intro all pending present
    exact all _ present
  · intro all call present
    cases call with
    | kWorkInitDelayable pending => exact all pending present
    | _ => trivial

theorem run_unscheduled {s : State} (consistent : Consistent s) (start : AllUnscheduled s) (steps : List Step) :
    AllUnscheduled (run step s steps) ↔ Along step UnscheduledWhenReconnecting s steps := by
  have keep : ∀ s action, Consistent s → Consistent (step s action) := fun _ action consistent =>
    step_consistent consistent action
  have once : ∀ s action, Consistent s →
      (AllUnscheduled (step s action) ↔ AllUnscheduled s ∧ UnscheduledWhenReconnecting s action) :=
    fun _ action consistent => step_unscheduled consistent action
  exact (run_iff_along keep once consistent steps).trans (and_iff_right start)

theorem booted_unscheduled (channelId : Int) (devId lastWillTopic lastWillMessage : Text) :
    AllUnscheduled (booted channelId devId lastWillTopic lastWillMessage) := by
  intro call made
  cases made

/-- The work is never initialised while scheduled exactly if no reconnection that finds the broker's
address starts while it is. -/
theorem keepalive_reinitialised_iff (channelId : Int) (devId lastWillTopic lastWillMessage : Text)
    (steps : List Step) :
    let start := booted channelId devId lastWillTopic lastWillMessage
    (∀ pending, .kWorkInitDelayable pending ∈ (run step start steps).calls → pending = false) ↔
      Along step UnscheduledWhenReconnecting start steps := by
  intro start
  rw [← allUnscheduled_iff]
  exact run_unscheduled (booted_consistent _ _ _ _) (booted_unscheduled _ _ _ _) steps

/-- The second connection of `reconnection` is set up before the keepalive of the first expires. -/
theorem keepalive_reinitialised : ¬ ∀ (channelId : Int) (devId lastWillTopic lastWillMessage : Text)
    (steps : List Step) (pending : Bool), .kWorkInitDelayable pending ∈
      (run step (booted channelId devId lastWillTopic lastWillMessage) steps).calls → pending = false := by
  intro never
  have scheduled : .kWorkInitDelayable true ∈ (run step (booted 1 [] [] []) (reconnection 0)).calls := by decide
  exact absurd (never 1 [] [] [] (reconnection 0) true scheduled) (by decide)

end AirQuality.Mqtt
