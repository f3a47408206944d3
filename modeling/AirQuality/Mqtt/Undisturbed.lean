import Mathlib.Data.List.Induction
import AirQuality.Mqtt.Keepalive
import AirQuality.Mqtt.Lookup
import AirQuality.Mqtt.Reader

/-!
# Runs that connect once

A reader that has returned, a keepalive set up again while it is scheduled and a lookup that is not released all take a
second connection. Here is a condition on the network's answers alone under which there is none: whoever can find the
broker's address comes after calls that connect when they find it, and after nothing that takes a connection away.
-/

namespace AirQuality.Mqtt
open Foundation

/-- The answers take no live connection away. -/
def Step.Holds : Step → Prop
  | .publish _ _ _ env => ¬ env.result.Lost
  | .subscribe subs env => ∀ i < subs.length, ¬ (env.result i).Lost
  | .pollReads input => input.failure = none ∧
      ∀ message, input.packet = some (.publish message) → (drain message.payloadLen message.reads).failure = none
  | .keepaliveExpires ping => ping = none
  | .pollCalls | .pollReturns _ | .serverDisconnects => True

structure Step.Smooth (action : Step) : Prop where
  holds : action.Holds
  connects : ∀ env, action.env = some env → Resolves env.lookup 3 → env.Reconnects

def Undisturbed (steps : List Step) : Prop :=
  ∀ before action after, steps = before ++ action :: after →
    ∀ env, action.env = some env → Resolves env.lookup 3 → ∀ earlier ∈ before, earlier.Smooth

/-- The client before its first connection. -/
structure Fresh (s : State) : Prop where
  idle : Idle s
  empty : s.haddr = none
  unscheduled : s.keepalivePending = false
  notStarted : s.pollThread = .notStarted

structure Served (s : State) : Prop where
  connected : s.mqttConnected = true
  reader : s.pollThread ≠ .returned

theorem fresh_record {s : State} (fresh : Fresh s) (call : Call) : Fresh (s.record call) :=
  ⟨⟨fresh.idle.disconnected, fresh.idle.closed, fresh.idle.empty⟩, fresh.empty, fresh.unscheduled, fresh.notStarted⟩

theorem fresh_written {s : State} (fresh : Fresh s) (call : Call) (result : WriteResult) :
    Fresh (afterWrite (s.record call) result) := by
  rw [afterWrite_idle fresh.idle]
  exact fresh_record fresh call

theorem ensureConnected_fresh {s : State} (fresh : Fresh s) {env : ConnectEnv} (missing : ¬ Resolves env.lookup 3) :
    Fresh (ensureConnected s env).2 := by
  have disconnected := fresh.idle.disconnected
  obtain ⟨quiet, thread, pending⟩ := lookupLoop_quiet env.lookup 3 Errno.einval.code s
  have looked := (lookupLoop_allocates env.lookup 3 Errno.einval.code s).resolve_left fun found => missing found.1
  unfold ensureConnected
  rw [if_neg (by simp [disconnected])]
  rcases connectToServer_cases s env with ⟨_, _, same⟩ | ⟨resolves, _⟩
  · rw [same]
    exact ⟨quiet.idle fresh.idle, looked.2.haddr.trans fresh.empty, pending.trans fresh.unscheduled,
      thread.trans fresh.notStarted⟩
  · exact absurd resolves missing

theorem ensureConnected_serves {s : State} (consistent : Consistent s) (reader : s.pollThread ≠ .returned)
    {env : ConnectEnv} (reaches : s.mqttConnected = true ∨ env.Reconnects) :
    (ensureConnected s env).1 = 0 ∧ Live (ensureConnected s env).2 ∧
      (ensureConnected s env).2.pollThread ≠ .returned := by
  rcases ensureConnected_outcome consistent env with ⟨zero, _, live, thread⟩ | ⟨_, misses, _⟩
  · refine ⟨zero, live, ?_⟩
    rw [thread]
    split
    · exact reader
    · exact (start_alive reader).2
  · exact absurd reaches misses

theorem publish_served {s : State} (consistent : Consistent s) (reader : s.pollThread ≠ .returned)
    {env : PublishEnv} (reaches : s.mqttConnected = true ∨ env.Reconnects) (kept : ¬ env.result.Lost)
    (topic payload : Text) (retain : Bool) : Served (mqttPublishToTopic s topic payload retain env).2 := by
  obtain ⟨zero, live, running⟩ := ensureConnected_serves consistent reader reaches
  refine ⟨?_, by rwa [mqttPublishToTopic_pollThread]⟩
  unfold mqttPublishToTopic
  dsimp only
  rw [zero, if_neg (by decide), mqttPublish_state]
  cases result : env.result with
  | lost errno =>
    rw [result] at kept
    exact absurd trivial kept
  | sent | refused => split <;> exact live.connected

theorem subscribe_served {s : State} (consistent : Consistent s) (reader : s.pollThread ≠ .returned)
    {env : SubscribeEnv} (reaches : s.mqttConnected = true ∨ env.Reconnects) {subs : List Subscription}
    (kept : ∀ i < subs.length, ¬ (env.result i).Lost) : Served (mqttSubscribeToTopic s subs env).2 := by
  obtain ⟨zero, live, running⟩ := ensureConnected_serves consistent reader reaches
  refine ⟨?_, by rwa [mqttSubscribeToTopic_pollThread]⟩
  have registered : Live { (ensureConnected s env.toConnectEnv).2 with subscriptions := subs } :=
    ⟨live.connected, live.opened, live.polled, live.scheduled⟩
  unfold mqttSubscribeToTopic
  dsimp only
  rw [zero, if_neg (by decide), subscribeLoop_connected env.result 0 subs registered]
  simpa using kept

theorem handlePublish_connected {s : State} {message : Publish}
    (whole : (drain message.payloadLen message.reads).failure = none) :
    (handlePublish s message).mqttConnected = s.mqttConnected := by
  unfold handlePublish
  dsimp only
  rw [whole, Option.isSome_none, if_neg (by decide)]
  split <;> rfl

theorem mqttInput_connected {s : State} (live : Live s) {input : InputResult} (holds : (Step.pollReads input).Holds) :
    (mqttInput s input).2.mqttConnected = true := by
  obtain ⟨socket, opened⟩ := Option.ne_none_iff_exists'.mp live.opened
  obtain ⟨packet, failure⟩ := input
  obtain ⟨unfailed, whole⟩ := holds
  obtain rfl : failure = none := unfailed
  simp only [mqttInput, opened]
  cases packet with
  | none => exact live.connected
  | some packet =>
    cases packet with
    | publish message => exact (handlePublish_connected (whole message rfl)).trans live.connected
    | connack result =>
      show (if result ≠ 0 then _ else _ : State).mqttConnected = true
      split
      · exact live.connected
      · rfl
    | pingresp | suback | unsuback | puback | other => exact live.connected

theorem step_connected {s : State} (live : Live s) {action : Step} (inside : action.env = none)
    (holds : action.Holds) : (step s action).mqttConnected = true := by
  cases action with
  | publish | subscribe => cases inside
  | pollCalls =>
    rw [step, perform, pollCalls]
    split
    · split <;> exact live.connected
    · exact live.connected
  | pollReturns poll =>
    rw [step, perform, pollReturns]
    split <;> exact live.connected
  | pollReads input =>
    rw [step, perform, pollReads]
    split
    · exact mqttInput_connected live holds
    · exact live.connected
  | keepaliveExpires ping =>
    obtain rfl : ping = none := holds
    rw [step, perform, keepaliveExpires_live live]
    exact live.connected
  | serverDisconnects => exact live.connected

theorem step_served {s : State} (consistent : Consistent s) (served : Served s) {action : Step} (holds : action.Holds) :
    Served (step s action) := by
  have live := consistent.live served.connected
  have connected : action.env = none → Served (step s action) := by
    intro inside
    have still := step_connected live inside holds
    refine ⟨still, ?_⟩
    rcases step_pollThread consistent action with same | ⟨disconnected, _⟩ | ⟨_, alive | lost⟩
    · rw [same]
      exact served.reader
    · rw [served.connected] at disconnected
      cases disconnected
    · exact alive.2
    · rw [still] at lost
      cases lost
  cases action with
  | publish topic payload retain env =>
    exact publish_served consistent served.reader (Or.inl served.connected) holds topic payload retain
  | subscribe subs env => exact subscribe_served consistent served.reader (Or.inl served.connected) holds
  | _ => exact connected rfl

/-- Before the first connection a smooth step either makes it or changes nothing that matters. -/
theorem step_fresh {s : State} (fresh : Fresh s) {action : Step} (smooth : action.Smooth) :
    Fresh (step s action) ∨ Served (step s action) := by
  have consistent : Consistent s := Or.inl fresh.idle
  have reader : s.pollThread ≠ .returned := by
    rw [fresh.notStarted]
    decide
  cases action with
  | publish topic payload retain env =>
    by_cases resolves : Resolves env.lookup 3
    · right
      exact publish_served consistent reader (Or.inr (smooth.connects _ rfl resolves)) smooth.holds topic payload retain
    · left
      apply mqttPublishToTopic_invariant _ topic payload retain env (ensureConnected_fresh fresh resolves)
      intro t fresh' param result
      rw [mqttPublish_state]
      exact fresh_written fresh' _ result
  | subscribe subs env =>
    by_cases resolves : Resolves env.lookup 3
    · exact Or.inr (subscribe_served consistent reader (Or.inr (smooth.connects _ rfl resolves)) smooth.holds)
    · left
      apply mqttSubscribeToTopic_invariant _ _ subs env (ensureConnected_fresh fresh resolves)
      · intro t fresh' topic result
        rw [subscribe_state]
        exact fresh_written fresh' _ result
      · intro t subs fresh'
        exact ⟨⟨fresh'.idle.disconnected, fresh'.idle.closed, fresh'.idle.empty⟩, fresh'.empty, fresh'.unscheduled,
          fresh'.notStarted⟩
  | pollCalls => exact Or.inl (by simpa [step, perform, pollCalls, fresh.notStarted] using fresh)
  | pollReturns poll => exact Or.inl (by simpa [step, perform, pollReturns, fresh.notStarted] using fresh)
  | pollReads input => exact Or.inl (by simpa [step, perform, pollReads, fresh.notStarted] using fresh)
  | keepaliveExpires ping => exact Or.inl (by simpa [step, perform, keepaliveExpires, fresh.unscheduled] using fresh)
  | serverDisconnects => exact Or.inl (fresh_record fresh .serverDisconnects)

theorem run_smooth {s : State} (consistent : Consistent s) (start : Fresh s ∨ Served s) {steps : List Step}
    (smooth : ∀ action ∈ steps, action.Smooth) : Fresh (run step s steps) ∨ Served (run step s steps) := by
  induction steps generalizing s with
  | nil => exact start
  | cons action rest ih =>
    have now := smooth action List.mem_cons_self
    refine ih (step_consistent consistent action) ?_ fun later member => smooth later (List.mem_cons_of_mem _ member)
    rcases start with fresh | served
    · exact step_fresh fresh now
    · exact Or.inr (step_served consistent served now.holds)

theorem booted_fresh (channelId : Int) (devId lastWillTopic lastWillMessage : Text) :
    Fresh (booted channelId devId lastWillTopic lastWillMessage) :=
  ⟨booted_idle channelId devId lastWillTopic lastWillMessage, rfl, rfl, rfl⟩

/-! ### What needs a second connection -/

variable {channelId : Int} {devId lastWillTopic lastWillMessage : Text} {steps : List Step}

/-- A call that can find the broker's address finds the client connected, or as it was booted. -/
theorem Undisturbed.fresh (undisturbed : Undisturbed steps) {before after : List Step} {action : Step}
    (same : steps = before ++ action :: after) {env : ConnectEnv} (calls : action.env = some env)
    (resolves : Resolves env.lookup 3) :
    let s := run step (booted channelId devId lastWillTopic lastWillMessage) before
    Fresh s ∨ Served s :=
  run_smooth (booted_consistent _ _ _ _) (Or.inl (booted_fresh _ _ _ _))
    (undisturbed before action after same env calls resolves)

theorem lookups_released_undisturbed (undisturbed : Undisturbed steps) (before after : List Step)
    (same : steps = before ++ after) :
    unreleased (run step (booted channelId devId lastWillTopic lastWillMessage) before).calls ≤ 1 := by
  refine (oneResult_throughout (booted_accounted _ _ _ _) (Nat.zero_le 1) steps).mpr ?_ before after same
  rw [along_iff_split]
  rintro before action after same ⟨env, calls, disconnected, resolves⟩
  rcases undisturbed.fresh same calls resolves with fresh | served
  · exact fresh.empty
  · exact absurd disconnected (by simp [served.connected])

theorem keepalive_unscheduled_undisturbed (undisturbed : Undisturbed steps) (pending : Bool)
    (initialised : .kWorkInitDelayable pending ∈
      (run step (booted channelId devId lastWillTopic lastWillMessage) steps).calls) : pending = false := by
  refine (allUnscheduled_iff _).mp ?_ pending initialised
  rw [run_unscheduled (booted_consistent _ _ _ _) (booted_unscheduled _ _ _ _), along_iff_split]
  intro before action after same env calls disconnected resolves
  rcases undisturbed.fresh same calls resolves with fresh | served
  · exact fresh.unscheduled
  · exact absurd disconnected (by simp [served.connected])

theorem step_idle {s : State} (idle : Idle s) {action : Step}
    (missing : ∀ env, action.env = some env → ¬ Resolves env.lookup 3) : Idle (step s action) := by
  have called : ∀ {env : ConnectEnv}, action.env = some env → Idle (ensureConnected s env).2 := by
    intro env calls
    rcases ensureConnected_outcome (Or.inl idle) env with ⟨_, connected | reconnects, _⟩ | ⟨_, _, still, _⟩
    · rw [idle.disconnected] at connected
      cases connected
    · exact absurd reconnects.1 (missing env calls)
    · exact still
  cases action with
  | publish topic payload retain env =>
    apply mqttPublishToTopic_invariant _ topic payload retain env (called rfl)
    intro t still param result
    rw [mqttPublish_state, afterWrite_idle still]
    exact ⟨still.disconnected, still.closed, still.empty⟩
  | subscribe subs env =>
    apply mqttSubscribeToTopic_invariant _ _ subs env (called rfl)
    · intro t still topic result
      rw [subscribe_state, afterWrite_idle still]
      exact ⟨still.disconnected, still.closed, still.empty⟩
    · intro t subs still
      exact ⟨still.disconnected, still.closed, still.empty⟩
  | pollCalls =>
    rw [step, perform, pollCalls]
    split
    · rw [if_pos (Int.le_of_eq idle.empty)]
      exact ⟨idle.disconnected, idle.closed, idle.empty⟩
    · exact idle
  | pollReturns poll =>
    rw [step, perform, pollReturns]
    split
    · exact ⟨idle.disconnected, idle.closed, idle.empty⟩
    · exact idle
  | pollReads input =>
    rw [step, perform, pollReads]
    split
    · rw [mqttInput_closed idle.closed]
      exact ⟨idle.disconnected, idle.closed, idle.empty⟩
    · exact idle
  | keepaliveExpires ping =>
    rw [step, perform, keepaliveExpires_idle idle]
    exact ⟨idle.disconnected, idle.closed, idle.empty⟩
  | serverDisconnects => exact ⟨idle.disconnected, idle.closed, idle.empty⟩

theorem Undisturbed.unread (undisturbed : Undisturbed steps) {before after : List Step} {action : Step}
    (same : steps = before ++ action :: after)
    (returned : (run step (booted channelId devId lastWillTopic lastWillMessage) before).pollThread = .returned)
    (env : ConnectEnv) (calls : action.env = some env) : ¬ Resolves env.lookup 3 := by
  intro resolves
  rcases undisturbed.fresh same calls resolves with fresh | served
  · rw [fresh.notStarted] at returned
    cases returned
  · exact served.reader returned

/-- Once the poll thread has returned the client stays disconnected. -/
theorem returned_disconnected (undisturbed : Undisturbed steps) {before after : List Step}
    (same : steps = before ++ after)
    (returned : (run step (booted channelId devId lastWillTopic lastWillMessage) before).pollThread = .returned) :
    (run step (booted channelId devId lastWillTopic lastWillMessage) before).mqttConnected = false := by
  induction before using List.reverseRecOn generalizing after with
  | nil => cases returned
  | append_singleton before action ih =>
    have cut : steps = before ++ action :: after := by rw [same, List.append_assoc, List.singleton_append]
    have consistent := run_consistent (booted_consistent channelId devId lastWillTopic lastWillMessage) before
    rw [run_append, run_cons, run_nil] at returned ⊢
    have stays : (run step (booted channelId devId lastWillTopic lastWillMessage) before).pollThread = .returned →
        (step (run step (booted channelId devId lastWillTopic lastWillMessage) before) action).mqttConnected = false := by
      intro earlier
      exact (step_idle (consistent.idle (ih cut earlier)) (undisturbed.unread cut earlier)).disconnected
    rcases step_pollThread consistent action with kept | ⟨_, started⟩ | ⟨_, alive | lost⟩
    · exact stays (kept.symm.trans returned)
    · refine stays ?_
      by_contra running
      exact (start_alive running).2 (started.symm.trans returned)
    · exact absurd returned alive.2
    · exact lost

theorem reader_kept_undisturbed (undisturbed : Undisturbed steps) :
    ReaderKept (booted channelId devId lastWillTopic lastWillMessage) steps := by
  rw [readerKept_iff_along (booted_consistent _ _ _ _) (booted_started _ _ _ _), along_iff_split]
  intro before action after same returned completes
  have disconnected := returned_disconnected undisturbed same returned
  have unread := undisturbed.unread same returned
  cases action with
  | publish | subscribe =>
    obtain ⟨connected | reconnects, _⟩ := completes
    · rw [disconnected] at connected
      cases connected
    · exact unread _ rfl reconnects.1
  | _ => exact completes

end AirQuality.Mqtt
