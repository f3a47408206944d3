import AirQuality.Mqtt.Routing
import AirQuality.Mqtt.Waiting

/-!
# Incoming messages

A callback is invoked where a PUBLISH is read, which the poll thread does and the connecting caller once after each
CONNECT. Over a run the table searched is the one registered last. Where no entry of it that merely starts with a
message's topic is in the way, the callbacks are those of the entries with exactly the topics read, in the order of the
reads.
-/

namespace AirQuality.Mqtt
open Foundation

def Call.invokedCallback : Call → Option Nat
  | .callback address _ => some address
  | _ => none

/-- The callback of the first entry that agrees with a PUBLISH read. -/
def Call.matched (table : List Subscription) : Call → Option Nat
  | .mqttInput ⟨some (.publish message), _⟩ => (matching table message.topic).map Subscription.callback
  | _ => none

/-- The calls invoke the callbacks of the first entries that agree with their reads, in order. -/
def Searched (table : List Subscription) (calls : List Call) : Prop :=
  calls.filterMap Call.invokedCallback = calls.filterMap (Call.matched table)

/-- Neither a read nor an invocation. -/
def Call.Mute : Call → Prop
  | .mqttInput _ | .callback _ _ => False
  | _ => True

theorem Call.Mute.matched {call : Call} (mute : call.Mute) (table : List Subscription) : call.matched table = none := by
  cases call with
  | mqttInput => exact mute.elim
  | _ => rfl

theorem Call.Mute.invokedCallback {call : Call} (mute : call.Mute) : call.invokedCallback = none := by
  cases call with
  | callback => exact mute.elim
  | _ => rfl

theorem searched_mute {calls : List Call} (mute : ∀ call ∈ calls, call.Mute) (table : List Subscription) :
    Searched table calls := by
  unfold Searched
  rw [List.filterMap_eq_nil_iff.mpr fun call member => (mute call member).invokedCallback,
    List.filterMap_eq_nil_iff.mpr fun call member => (mute call member).matched table]

theorem Searched.append {table : List Subscription} {before after : List Call} (first : Searched table before)
    (second : Searched table after) : Searched table (before ++ after) := by
  unfold Searched at *
  rw [List.filterMap_append, List.filterMap_append, first, second]

/-- From `s` to `t` the table has stayed, and the log has grown by calls that it was searched for. -/
structure Routed (s t : State) : Prop where
  table : t.subscriptions = s.subscriptions
  log : ∃ more, t.calls = s.calls ++ more ∧ Searched s.subscriptions more

theorem routed_mute {s t : State} (table : t.subscriptions = s.subscriptions) (mute : Extends Call.Mute s t) :
    Routed s t := by
  obtain ⟨more, grown, each⟩ := mute
  exact ⟨table, more, grown, searched_mute each _⟩

theorem routed_refl (s : State) : Routed s s := routed_mute rfl (extends_refl _ s)

theorem routed_same {s t : State} (table : t.subscriptions = s.subscriptions) (calls : t.calls = s.calls) : Routed s t :=
  routed_mute table (extends_of_calls calls)

theorem routed_record {s : State} {call : Call} (mute : call.Mute) : Routed s (s.record call) :=
  routed_mute rfl (extends_record mute)

theorem Routed.trans {s t u : State} (first : Routed s t) (second : Routed t u) : Routed s u := by
  obtain ⟨table, before, grown, routed⟩ := first
  obtain ⟨table', after, grown', routed'⟩ := second
  rw [table] at routed'
  exact ⟨table'.trans table, before ++ after, by rw [grown', grown, List.append_assoc], routed.append routed'⟩

theorem closeTransport_mute (s : State) : Extends Call.Mute s (closeTransport s) := by
  unfold closeTransport
  split
  · exact extends_refl _ s
  · rename_i socket _
    exact ⟨[.transportClosed socket], rfl, by simp [Call.Mute]⟩

theorem closeTransport_routed (s : State) : Routed s (closeTransport s) :=
  routed_mute (closeTransport_subscriptions s) (closeTransport_mute s)

theorem mqttAbort_routed (s : State) : Routed s (mqttAbort s) :=
  (routed_record (by trivial)).trans (closeTransport_routed _)

theorem afterWrite_mute {s : State} {call : Call} (mute : call.Mute) (result : WriteResult) :
    Extends Call.Mute s (afterWrite (s.record call) result) := by
  cases result with
  | lost errno => exact (extends_record mute).trans (closeTransport_mute _)
  | sent | refused => exact extends_record mute

theorem afterWrite_routed {s : State} {call : Call} (mute : call.Mute) (result : WriteResult) :
    Routed s (afterWrite (s.record call) result) := by
  refine routed_mute ?_ (afterWrite_mute mute result)
  cases result with
  | lost errno => exact closeTransport_subscriptions _
  | sent | refused => rfl

/-- A message that is read is handed to the first entry that agrees. -/
theorem handlePublish_routed (s : State) (message : Publish) (failure : Option Errno) :
    Routed s (handlePublish (s.record (.mqttInput ⟨some (.publish message), failure⟩)) message) := by
  unfold handlePublish
  generalize drain message.payloadLen message.reads = loop
  obtain ⟨t, closed, table, more, grown, mute⟩ : ∃ t,
      (if loop.failure.isSome then closeTransport (s.record (.mqttInput ⟨some (.publish message), failure⟩))
      else s.record (.mqttInput ⟨some (.publish message), failure⟩)) = t ∧
      t.subscriptions = s.subscriptions ∧
      Extends Call.Mute (s.record (.mqttInput ⟨some (.publish message), failure⟩)) t := by
    split
    · exact ⟨_, rfl, closeTransport_subscriptions _, closeTransport_mute _⟩
    · exact ⟨_, rfl, rfl, extends_refl _ _⟩
  have silent := searched_mute mute s.subscriptions
  have calls : t.calls = s.calls ++ .mqttInput ⟨some (.publish message), failure⟩ :: more := by
    rw [grown]
    exact List.append_assoc _ _ _
  have quiet : more.filterMap Call.invokedCallback = [] :=
    List.filterMap_eq_nil_iff.mpr fun call member => (mute call member).invokedCallback
  unfold Searched at silent
  rw [quiet] at silent
  dsimp only
  rw [closed, table]
  cases found : matching s.subscriptions message.topic with
  | none =>
    have read : (Call.mqttInput ⟨some (.publish message), failure⟩).matched s.subscriptions = none := by
      simp [Call.matched, found]
    refine ⟨table, _, calls, ?_⟩
    unfold Searched
    rw [List.filterMap_cons_none rfl, List.filterMap_cons_none read, quiet, ← silent]
  | some entry =>
    have read : (Call.mqttInput ⟨some (.publish message), failure⟩).matched s.subscriptions = some entry.callback := by
      simp [Call.matched, found]
    refine ⟨table, .mqttInput ⟨some (.publish message), failure⟩ :: (more ++ [.callback entry.callback
      (dataString loop.drain.data)]), ?_, ?_⟩
    · simp [State.record, calls]
    · unfold Searched
      rw [List.filterMap_cons_none rfl, List.filterMap_cons_some read, List.filterMap_append, List.filterMap_append,
        quiet, ← silent]
      rfl

theorem read_routed (s : State) {packet : Option Packet} (failure : Option Errno)
    (unpublished : ∀ message, packet ≠ some (.publish message)) :
    Routed s (s.record (.mqttInput ⟨packet, failure⟩)) := by
  have unmatched : (Call.mqttInput ⟨packet, failure⟩).matched s.subscriptions = none := by
    unfold Call.matched
    split
    · rename_i message _ same
      exact absurd (congrArg InputResult.packet (Call.mqttInput.inj same)) (unpublished message)
    · rfl
  refine ⟨rfl, [.mqttInput ⟨packet, failure⟩], rfl, ?_⟩
  simp [Searched, Call.invokedCallback, unmatched]

theorem mqttEventHandler_routed (s : State) (packet : Packet) (failure : Option Errno) :
    Routed s (mqttEventHandler (s.record (.mqttInput ⟨some packet, failure⟩)) packet) := by
  cases packet with
  | publish message => exact handlePublish_routed s message failure
  | connack result =>
    have read : Routed s _ := @read_routed s (some (.connack result)) failure (by simp)
    rw [mqttEventHandler]
    split
    · exact read
    · exact read.trans (routed_same rfl rfl)
  | pingresp =>
    have read : Routed s _ := @read_routed s (some .pingresp) failure (by simp)
    exact read.trans (routed_record (by trivial))
  | suback | unsuback | puback | other => exact read_routed s failure (by simp)

theorem mqttInput_routed (s : State) (result : InputResult) : Routed s (mqttInput s result).2 := by
  obtain ⟨packet, failure⟩ := result
  unfold mqttInput
  split
  · exact routed_refl s
  · cases packet with
    | none =>
      have read : Routed s _ := @read_routed s none failure (by simp)
      cases failure with
      | none => exact read
      | some errno => exact read.trans (closeTransport_routed _)
    | some packet =>
      have handled := mqttEventHandler_routed s packet failure
      cases failure with
      | none => exact handled
      | some errno => exact handled.trans (closeTransport_routed _)

theorem wait_routed (s : State) (timeout : Int) (poll : PollResult) : Routed s (wait s timeout poll).2 := by
  unfold wait
  split
  · exact routed_refl s
  · exact routed_record (by trivial)

theorem kWorkReschedule_routed (s : State) : Routed s (kWorkReschedule s) :=
  routed_mute rfl ⟨[.kWorkReschedule s.client.keepalive], rfl, by simp [Call.Mute]⟩

theorem kThreadStart_routed (s : State) : Routed s (kThreadStart s) := by
  rw [kThreadStart_eq]
  exact (routed_record (by trivial)).trans (routed_same rfl rfl)

theorem clientInit_routed (s : State) : Routed s (clientInit s) := by
  refine routed_mute rfl ⟨[.clientInit s.client.transport, .kWorkInitDelayable s.keepalivePending], ?_, ?_⟩
  · simp [clientInit, brokerInit, State.record]
  · simp [Call.Mute]

theorem mqttConnect_routed (s : State) (result : ConnectResult) : Routed s (mqttConnect s result).2 := by
  cases result with
  | opened socket accepted => exact (routed_record (by trivial)).trans (routed_same rfl rfl)
  | failed errno => exact routed_record (by trivial)

theorem connectRound_routed (s : State) (attempt : Attempt) : Routed s (connectRound s attempt).2 := by
  have dialled := (clientInit_routed s).trans (mqttConnect_routed (clientInit s) attempt.connect)
  have prepared := dialled.trans (routed_same (t := prepareFds _) rfl rfl)
  have waited := prepared.trans (wait_routed _ mqttConnectTimeoutMs attempt.poll)
  have answered := waited.trans (mqttInput_routed _ attempt.input)
  unfold connectRound
  dsimp only
  split
  · exact dialled
  · split
    · exact waited.trans (mqttAbort_routed _)
    · split
      · exact answered.trans ((kWorkReschedule_routed _).trans (kThreadStart_routed _))
      · exact answered.trans ((mqttAbort_routed _).trans (wait_routed _ mqttAbortTimeoutMs attempt.abortPoll))

theorem connectLoop_routed (attempt : Nat → Attempt) (retries : Nat) (s : State) :
    Routed s (connectLoop attempt retries s).2 := by
  induction retries generalizing s with
  | zero => exact routed_refl s
  | succ retries ih =>
    have round := connectRound_routed s (attempt retries)
    unfold connectLoop
    generalize connectRound s (attempt retries) = result at *
    obtain ⟨rc, t⟩ := result
    cases rc with
    | some rc => exact round
    | none => exact round.trans (ih t)

theorem lookupLoop_routed (lookup : Nat → LookupResult) (retries : Nat) (rc : Int) (s : State) :
    Routed s (lookupLoop lookup retries rc s).2 := by
  induction retries generalizing rc s with
  | zero => exact routed_refl s
  | succ retries ih =>
    have asked : Routed s (s.record (.getaddrinfo (lookup retries))) := routed_record (by trivial)
    unfold lookupLoop
    cases found : lookup retries with
    | resolved address =>
      rw [found] at asked
      exact asked.trans (routed_same rfl rfl)
    | failed code nonzero =>
      rw [found] at asked
      exact asked.trans (ih code _)

theorem ensureConnected_routed (s : State) (env : ConnectEnv) : Routed s (ensureConnected s env).2 := by
  have looked := lookupLoop_routed env.lookup 3 Errno.einval.code s
  unfold ensureConnected
  split
  · exact routed_refl s
  · rcases connectToServer_cases s env with ⟨_, _, same⟩ | ⟨_, same⟩
    · rw [same]
      exact looked
    · rw [same]
      exact looked.trans (connectLoop_routed env.attempt 3 _)

theorem mqttPublishToTopic_routed (s : State) (topic payload : Text) (retain : Bool) (env : PublishEnv) :
    Routed s (mqttPublishToTopic s topic payload retain env).2 := by
  apply mqttPublishToTopic_invariant _ topic payload retain env (ensureConnected_routed s _)
  intro t before param result
  exact before.trans (afterWrite_routed (by trivial) result)

/-- The table is replaced between the connection and the requests, which read nothing. -/
theorem mqttSubscribeToTopic_routed (s : State) (subs : List Subscription) (env : SubscribeEnv) :
    ∃ more, (mqttSubscribeToTopic s subs env).2.calls = s.calls ++ more ∧ Searched s.subscriptions more := by
  obtain ⟨_, before, grown, routed⟩ := ensureConnected_routed s env.toConnectEnv
  have requests : Extends Call.Mute (ensureConnected s env.toConnectEnv).2 (mqttSubscribeToTopic s subs env).2 := by
    apply mqttSubscribeToTopic_invariant _ _ subs env (extends_refl _ _)
    · intro t mute topic result
      rw [subscribe_state]
      exact mute.trans (afterWrite_mute (by trivial) result)
    · intro t subs mute
      exact mute
  obtain ⟨after, grown', mute⟩ := requests
  refine ⟨before ++ after, ?_, routed.append (searched_mute mute _)⟩
  rw [grown', grown, List.append_assoc]

theorem keepaliveExpires_routed (s : State) (ping : Option Errno) : Routed s (keepaliveExpires s ping) := by
  unfold keepaliveExpires
  split
  · have expired : Routed s { s with keepalivePending := false } := routed_same rfl rfl
    unfold keepalive
    split
    · exact expired
    · have pinged : Routed s (mqttPing { s with keepalivePending := false } ping).2 :=
        expired.trans (afterWrite_routed (by trivial) _)
      dsimp only
      split
      · exact pinged
      · exact pinged.trans (kWorkReschedule_routed _)
  · exact routed_refl s

theorem pollReads_routed (s : State) (input : InputResult) : Routed s (pollReads s input) := by
  unfold pollReads
  split
  · exact (mqttInput_routed s input).trans (routed_same rfl rfl)
  · exact routed_refl s

theorem pollCalls_routed (s : State) : Routed s (pollCalls s) := by
  unfold pollCalls
  split
  · split
    · exact routed_same rfl rfl
    · exact routed_mute rfl ⟨[.zsockPoll s.fd sysForeverMs s.client.transport], rfl, by simp [Call.Mute]⟩
  · exact routed_refl s

theorem pollReturns_routed (s : State) (poll : PollResult) : Routed s (pollReturns s poll) := by
  unfold pollReturns
  split
  · exact routed_same rfl rfl
  · exact routed_refl s

/-! ### Runs -/

/-- The table after a step, by its result: a call of `mqtt_subscribe_to_topic` that returns 0 registers its own. -/
def registered (s : State) (table : List Subscription) : Step → List Subscription
  | .subscribe subs env => if (mqttSubscribeToTopic s subs env).1 = 0 then subs else table
  | _ => table

/-- The table registered last. -/
def latestTable : State → List Subscription → List Step → List Subscription
  | _, table, [] => table
  | s, table, action :: rest => latestTable (step s action) (registered s table action) rest

theorem mqttSubscribeToTopic_failed {s : State} {subs : List Subscription} {env : SubscribeEnv}
    (failed : (mqttSubscribeToTopic s subs env).1 ≠ 0) :
    (mqttSubscribeToTopic s subs env).2.subscriptions = s.subscriptions := by
  have kept := (ensureConnected_routed s env.toConnectEnv).table
  unfold mqttSubscribeToTopic at failed ⊢
  dsimp only at failed ⊢
  split at failed
  · rename_i refused
    rw [if_pos refused]
    exact kept
  · exact absurd rfl failed

theorem step_routed (s : State) (action : Step) :
    (step s action).subscriptions = registered s s.subscriptions action ∧
      ∃ more, (step s action).calls = s.calls ++ more ∧ Searched s.subscriptions more := by
  cases action with
  | publish topic payload retain env =>
    obtain ⟨table, log⟩ := mqttPublishToTopic_routed s topic payload retain env
    exact ⟨table, log⟩
  | subscribe subs env =>
    refine ⟨?_, mqttSubscribeToTopic_routed s subs env⟩
    show (mqttSubscribeToTopic s subs env).2.subscriptions = registered s s.subscriptions (.subscribe subs env)
    by_cases succeeded : (mqttSubscribeToTopic s subs env).1 = 0
    · rw [registered, if_pos succeeded]
      exact mqttSubscribeToTopic_table s subs env succeeded
    · rw [registered, if_neg succeeded]
      exact mqttSubscribeToTopic_failed succeeded
  | pollCalls =>
    obtain ⟨table, log⟩ := pollCalls_routed s
    exact ⟨table, log⟩
  | pollReturns poll =>
    obtain ⟨table, log⟩ := pollReturns_routed s poll
    exact ⟨table, log⟩
  | pollReads input =>
    obtain ⟨table, log⟩ := pollReads_routed s input
    exact ⟨table, log⟩
  | keepaliveExpires ping =>
    obtain ⟨table, log⟩ := keepaliveExpires_routed s ping
    exact ⟨table, log⟩
  | serverDisconnects =>
    obtain ⟨table, log⟩ : Routed s (s.record .serverDisconnects) := routed_record (by trivial)
    exact ⟨table, log⟩

theorem run_table (s : State) (steps : List Step) :
    (run step s steps).subscriptions = latestTable s s.subscriptions steps := by
  induction steps generalizing s with
  | nil => rfl
  | cons action rest ih => rw [run_cons, ih, (step_routed s action).1, latestTable]

theorem added_searched (channelId : Int) (devId lastWillTopic lastWillMessage : Text) (steps : List Step)
    (action : Step) :
    Searched (latestTable (booted channelId devId lastWillTopic lastWillMessage) [] steps)
      (added (run step (booted channelId devId lastWillTopic lastWillMessage) steps) action) := by
  have table := run_table (booted channelId devId lastWillTopic lastWillMessage) steps
  obtain ⟨_, more, grown, searched⟩ := step_routed (run step (booted _ _ _ _) steps) action
  rw [table] at searched
  rw [added, grown, List.drop_left]
  exact searched

/-- The callback a call should be answered with: that of the entry with exactly the topic of a PUBLISH read. -/
def Call.addressee (table : Table) : Call → Option Nat
  | .mqttInput ⟨some (.publish message), _⟩ =>
    (table.entries.find? fun entry => entry.topic = message.topic).map Subscription.callback
  | _ => none

/-- No entry that merely starts with the topic of a PUBLISH read is in the way. -/
def Call.Clear (table : Table) : Call → Prop
  | .mqttInput ⟨some (.publish message), _⟩ => FirstIsExact table message.topic
  | _ => True

theorem matched_addressee {table : Table} {call : Call} (clear : call.Clear table) :
    call.matched table.entries = call.addressee table := by
  unfold Call.matched Call.addressee
  unfold Call.Clear at clear
  split at clear
  · rename_i message _
    have routed := (routed_matching_iff table message.topic).mpr clear
    cases search : table.entries.find? fun entry => entry.topic = message.topic with
    | none =>
      have absent := List.find?_eq_none.mp search
      have nothing : ¬ ∃ entry ∈ table.entries, entry.topic = message.topic := by
        intro found
        obtain ⟨entry, present, same⟩ := found
        exact absent entry present (decide_eq_true same)
      have empty := not_not.mp (routed.onlyExact.not.mpr nothing)
      exact Option.toList_eq_nil_iff.mp empty
    | some entry =>
      have same : entry.topic = message.topic := by simpa using List.find?_some search
      have called := routed.once entry (List.mem_of_find?_eq_some search) same
      exact Option.toList_eq_singleton_iff.mp called
  · rfl

/-- At every point of every run, let the table of the last call of `mqtt_subscribe_to_topic` that returned 0 have no
entry in the way of the messages a step reads. The step invokes the callbacks of the entries with exactly the topics of
these messages, in order, and no others. -/
theorem inbound_exact (channelId : Int) (devId lastWillTopic lastWillMessage : Text) (steps : List Step) (action : Step)
    (table : Table) :
    let start := booted channelId devId lastWillTopic lastWillMessage
    let calls := added (run step start steps) action
    table.entries = latestTable start [] steps → (∀ call ∈ calls, call.Clear table) →
      calls.filterMap Call.invokedCallback = calls.filterMap (Call.addressee table) := by
  intro start calls latest clear
  have searched := added_searched channelId devId lastWillTopic lastWillMessage steps action
  rw [← latest] at searched
  exact searched.trans (List.filterMap_congr fun call member => matched_addressee (clear call member))

/-- A table is registered, and the poll thread wakes up to read. -/
def subscription : List Step :=
  [.subscribe homeTable.entries { answering 7 with result := fun _ => .sent }, .pollCalls, .pollReturns (.ready 1)]

def temperatureMessage : Publish where
  topic := "home/temperature".toList
  payloadLen := 0
  reads := []
  finished := rfl

theorem homeTable_clear : FirstIsExact homeTable "home/temperature".toList := by
  rw [← routed_matching_iff]
  refine ⟨by decide, fun entry present same => ?_⟩
  rcases List.mem_cons.mp present with rfl | rest
  · decide
  · rw [List.mem_singleton.mp rest] at same
    exact absurd same (by decide)

theorem inbound_exact_home :
    let calls := added (run step (booted 1 [] [] []) subscription)
      (.pollReads { packet := some (.publish temperatureMessage) })
    calls.filterMap Call.invokedCallback = [1] ∧
      calls.filterMap Call.invokedCallback = calls.filterMap (Call.addressee homeTable) := by
  refine ⟨rfl, inbound_exact 1 [] [] [] subscription (.pollReads { packet := some (.publish temperatureMessage) })
    homeTable rfl ?_⟩
  intro call member
  rcases List.mem_cons.mp member with rfl | rest
  · exact homeTable_clear
  · rw [List.mem_singleton.mp rest]
    trivial

end AirQuality.Mqtt
