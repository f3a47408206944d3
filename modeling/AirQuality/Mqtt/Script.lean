import Mathlib.Data.List.Induction
import AirQuality.Foundation.Output
import AirQuality.Mqtt.Consistency

/-!
# What the client logs

Packets are read in two places only: by the poll thread, and once after each CONNECT to see its answer. The log
of a run follows a script in which the watchdog is fed right after a read that found a PINGRESP, and a wait
without an end is one of the poll thread's.
-/

namespace AirQuality.Mqtt
open Foundation

/-- What handling a read feeds. -/
def fed (channelId : Int) (result : InputResult) : List Call :=
  if result.packet = some .pingresp then [.wdtFeed channelId] else []

/-- Neither a read nor a feed, nor a wait without an end. -/
def Call.Bare : Call → Prop
  | .mqttInput _ | .wdtFeed _ => False
  | .zsockPoll _ timeout _ => timeout ≠ sysForeverMs
  | _ => True

/-- The calls up to the answer to a CONNECT. -/
def answerCalls (broker : Option Address) (client : Client) (socket : Nat) (accepted : Bool) (fd : Int)
    (result : InputResult) : List Call :=
  [.mqttConnect broker client (.opened socket accepted), .zsockPoll fd mqttConnectTimeoutMs (some socket),
    .mqttInput result]

/-- The script of a client; `reader` says whether the poll thread takes part. -/
inductive Script (channelId : Int) (reader : Prop) : List Call → Prop where
  | nil : Script channelId reader []
  | bare {calls : List Call} (call : Call) (bare : call.Bare) (script : Script channelId reader calls) :
      Script channelId reader (calls ++ [call])
  | watch {calls : List Call} (fd : Int) (transport : Option Nat) (reads : reader)
      (script : Script channelId reader calls) :
      Script channelId reader (calls ++ [.zsockPoll fd sysForeverMs transport])
  | read {calls : List Call} (result : InputResult) (reads : reader) (script : Script channelId reader calls) :
      Script channelId reader (calls ++ .mqttInput result :: fed channelId result)
  | answer {calls : List Call} (broker : Option Address) (client : Client) (socket : Nat) (accepted : Bool)
      (fd : Int) (result : InputResult) (script : Script channelId reader calls) :
      Script channelId reader
        (calls ++ (answerCalls broker client socket accepted fd result ++ fed channelId result))

section Script
variable {channelId : Int} {reader : Prop}

theorem Script.append {before after : List Call} (first : Script channelId reader before)
    (second : Script channelId reader after) : Script channelId reader (before ++ after) := by
  induction second with
  | nil => simpa using first
  | bare call bare _ ih =>
    rw [← List.append_assoc]
    exact .bare call bare ih
  | watch fd transport reads _ ih =>
    rw [← List.append_assoc]
    exact .watch fd transport reads ih
  | read result reads _ ih =>
    rw [← List.append_assoc]
    exact .read result reads ih
  | answer broker client socket accepted fd result _ ih =>
    rw [← List.append_assoc]
    exact .answer broker client socket accepted fd result ih

theorem Script.mono {calls : List Call} {other : Prop} (weaker : reader → other)
    (script : Script channelId reader calls) : Script channelId other calls := by
  induction script with
  | nil => exact .nil
  | bare call bare _ ih => exact .bare call bare ih
  | watch fd transport reads _ ih => exact .watch fd transport (weaker reads) ih
  | read result reads _ ih => exact .read result (weaker reads) ih
  | answer broker client socket accepted fd result _ ih => exact .answer broker client socket accepted fd result ih

theorem script_bare {calls : List Call} (bare : ∀ call ∈ calls, call.Bare) : Script channelId reader calls := by
  induction calls using List.reverseRecOn with
  | nil => exact .nil
  | append_singleton rest call ih =>
    rw [List.forall_mem_append] at bare
    exact .bare call (bare.2 call List.mem_cons_self) (ih bare.1)

end Script

/-- From `s` to `t` the log has grown by a script. -/
structure Scripted (reader : Prop) (s t : State) : Prop where
  channel : t.wdtChannelId = s.wdtChannelId
  log : ∃ more, t.calls = s.calls ++ more ∧ Script s.wdtChannelId reader more

section Scripted
variable {reader : Prop}

theorem scripted_same {s t : State} (channel : t.wdtChannelId = s.wdtChannelId) (calls : t.calls = s.calls) :
    Scripted reader s t := ⟨channel, [], by rw [calls, List.append_nil], .nil⟩

theorem scripted_refl (s : State) : Scripted reader s s := scripted_same rfl rfl

theorem Scripted.trans {s t u : State} (first : Scripted reader s t) (second : Scripted reader t u) :
    Scripted reader s u := by
  obtain ⟨channel, before, grown, script⟩ := first
  obtain ⟨channel', after, grown', script'⟩ := second
  rw [channel] at script'
  exact ⟨channel'.trans channel, before ++ after, by rw [grown', grown, List.append_assoc], script.append script'⟩

theorem Scripted.mono {other : Prop} (weaker : reader → other) {s t : State} (scripted : Scripted reader s t) :
    Scripted other s t := by
  obtain ⟨channel, more, grown, script⟩ := scripted
  exact ⟨channel, more, grown, script.mono weaker⟩

theorem scripted_bare {s t : State} (channel : t.wdtChannelId = s.wdtChannelId)
    (log : Extends Call.Bare s t) : Scripted reader s t := by
  obtain ⟨more, grown, bare⟩ := log
  exact ⟨channel, more, grown, script_bare bare⟩

theorem scripted_record {s : State} {call : Call} (bare : call.Bare) : Scripted reader s (s.record call) :=
  scripted_bare rfl (extends_record bare)

theorem closeTransport_scripted (s : State) : Scripted reader s (closeTransport s) := by
  unfold closeTransport
  split
  · exact scripted_refl s
  · rename_i socket _
    have closed : (Call.transportClosed socket).Bare := trivial
    exact scripted_bare rfl ⟨[.transportClosed socket], rfl, by simpa using closed⟩

theorem mqttAbort_scripted (s : State) : Scripted reader s (mqttAbort s) :=
  (scripted_record (by trivial)).trans (closeTransport_scripted _)

theorem handlePublish_scripted (s : State) (message : Publish) : Scripted reader s (handlePublish s message) := by
  unfold handlePublish
  dsimp only
  have closing : Scripted reader s
      (if (drain message.payloadLen message.reads).failure.isSome then closeTransport s else s) := by
    split
    · exact closeTransport_scripted s
    · exact scripted_refl s
  split
  · exact closing
  · exact closing.trans (scripted_record (by trivial))

theorem mqttEventHandler_scripted (s : State) (packet : Packet) (failure : Option Errno) :
    ∃ t : State, t.wdtChannelId = s.wdtChannelId ∧
      t.calls = s.calls ++ fed s.wdtChannelId ⟨some packet, failure⟩ ∧ Scripted reader t (mqttEventHandler s packet) := by
  have quiet : ∀ {packet : Packet}, packet ≠ .pingresp → fed s.wdtChannelId ⟨some packet, failure⟩ = [] := by
    intro packet other
    simp [fed, other]
  cases packet with
  | pingresp => exact ⟨s.record (.wdtFeed s.wdtChannelId), rfl, rfl, scripted_refl _⟩
  | connack result =>
    refine ⟨s, rfl, by rw [quiet (by simp), List.append_nil], ?_⟩
    rw [mqttEventHandler]
    split
    · exact scripted_refl s
    · exact scripted_same rfl rfl
  | publish message =>
    exact ⟨s, rfl, by rw [quiet (by simp), List.append_nil], handlePublish_scripted s message⟩
  | suback | unsuback | puback | other =>
    exact ⟨s, rfl, by rw [quiet (by simp), List.append_nil], scripted_refl s⟩

/-- A read is logged with what it feeds; closing the transport may add to that. -/
theorem mqttInput_log {s : State} (opened : s.client.transport ≠ none) (result : InputResult) :
    ∃ t : State, t.wdtChannelId = s.wdtChannelId ∧
      t.calls = s.calls ++ .mqttInput result :: fed s.wdtChannelId result ∧
      Scripted reader t (mqttInput s result).2 := by
  obtain ⟨socket, held⟩ := Option.ne_none_iff_exists'.mp opened
  obtain ⟨packet, failure⟩ := result
  cases packet with
  | none =>
    refine ⟨s.record (.mqttInput ⟨none, failure⟩), rfl, by simp [fed, State.record], ?_⟩
    simp only [mqttInput, held]
    cases failure with
    | none => exact scripted_refl _
    | some errno => exact closeTransport_scripted _
  | some packet =>
    obtain ⟨t, channel, calls, handled⟩ :=
      @mqttEventHandler_scripted reader (s.record (.mqttInput ⟨some packet, failure⟩)) packet failure
    refine ⟨t, channel, ?_, ?_⟩
    · rw [calls]
      exact List.append_assoc _ _ _
    · simp only [mqttInput, held]
      cases failure with
      | none => exact handled
      | some errno => exact handled.trans (closeTransport_scripted _)

theorem afterWrite_scripted {s : State} {call : Call} (bare : call.Bare) (result : WriteResult) :
    Scripted reader s (afterWrite (s.record call) result) := by
  have recorded : Scripted reader s (s.record call) := scripted_record bare
  cases result with
  | lost errno => exact recorded.trans (closeTransport_scripted _)
  | sent | refused => exact recorded

theorem kWorkReschedule_scripted (s : State) : Scripted reader s (kWorkReschedule s) := by
  have pending : Scripted reader s { s with keepalivePending := true } := scripted_same rfl rfl
  exact pending.trans (scripted_record (by trivial))

theorem connectRound_scripted {s : State} (idle : Idle s) (attempt : Attempt) :
    Scripted reader s (connectRound s attempt).2 := by
  have initialised : Scripted reader s (clientInit s) := by
    refine scripted_bare rfl ⟨[.clientInit s.client.transport, .kWorkInitDelayable s.keepalivePending], ?_, ?_⟩
    · simp [clientInit, brokerInit, State.record]
    · simp [Call.Bare]
  cases result : attempt.connect with
  | failed errno =>
    rw [connectRound_failed result]
    exact initialised.trans (scripted_record (by trivial))
  | opened socket accepted =>
    obtain ⟨waiting, logged⟩ := awaiting_spec idle result
    have channel : (awaiting s attempt).wdtChannelId = s.wdtChannelId := by
      simp [awaiting, mqttConnect, result, wait, prepareFds, clientInit, brokerInit, State.record]
    have dialled : (awaiting s attempt).calls = (clientInit s).calls ++
        [.mqttConnect s.haddr (configuredClient s) (.opened socket accepted),
          .zsockPoll s.fd mqttConnectTimeoutMs (some socket)] := by
      rw [logged]
      simp [dialCalls, result, clientInit, brokerInit, State.record]
    have opened : (awaiting s attempt).client.transport ≠ none := by simp [waiting.transport]
    rw [connectRound_opened result]
    split
    · refine (initialised.trans (scripted_bare channel ⟨_, dialled, ?_⟩)).trans (mqttAbort_scripted _)
      simp [Call.Bare, mqttConnectTimeoutMs, sysForeverMs]
    · obtain ⟨t, channel', read, after⟩ := @mqttInput_log reader _ opened attempt.input
      have answered : Scripted reader (clientInit s) t := by
        refine ⟨channel'.trans channel, answerCalls s.haddr (configuredClient s) socket accepted s.fd attempt.input ++
          fed s.wdtChannelId attempt.input, ?_, .answer _ _ _ _ _ _ .nil⟩
        rw [read, dialled, channel]
        simp [answerCalls]
      have handled := (initialised.trans answered).trans after
      dsimp only
      split
      · rw [kThreadStart_eq]
        have started := (handled.trans (kWorkReschedule_scripted _)).trans (@scripted_record reader _ .kThreadStart trivial)
        exact started.trans (scripted_same rfl rfl)
      · rename_i disconnected
        rcases mqttInput_connection _ opened attempt.input with same | ⟨_, connected, _⟩
        · rw [wait_idle (mqttAbort_idle opened same)]
          exact handled.trans (mqttAbort_scripted _)
        · exact absurd connected disconnected

theorem lookupLoop_scripted (lookup : Nat → LookupResult) (retries : Nat) (rc : Int) (s : State) :
    Scripted reader s (lookupLoop lookup retries rc s).2 := by
  induction retries generalizing rc s with
  | zero => exact scripted_refl s
  | succ retries ih =>
    have asked : Scripted reader s (s.record (.getaddrinfo (lookup retries))) := scripted_record (by trivial)
    unfold lookupLoop
    cases found : lookup retries with
    | resolved address =>
      rw [found] at asked
      exact asked.trans (scripted_same rfl rfl)
    | failed code nonzero =>
      rw [found] at asked
      exact asked.trans (ih code _)

theorem connectLoop_scripted {s : State} (idle : Idle s) (attempt : Nat → Attempt) (retries : Nat) :
    Scripted reader s (connectLoop attempt retries s).2 := by
  apply connectLoop_invariant _ attempt retries idle (scripted_refl s)
  intro t idle' attempt before
  exact before.trans (connectRound_scripted idle' attempt)

theorem ensureConnected_scripted {s : State} (consistent : Consistent s) (env : ConnectEnv) :
    Scripted reader s (ensureConnected s env).2 := by
  unfold ensureConnected
  cases connected : s.mqttConnected with
  | true => exact scripted_refl s
  | false =>
    have looked := @lookupLoop_scripted reader env.lookup 3 Errno.einval.code s
    obtain ⟨quiet, _⟩ := lookupLoop_quiet env.lookup 3 Errno.einval.code s
    simp only [Bool.false_eq_true, if_false]
    rcases connectToServer_cases s env with ⟨_, _, same⟩ | ⟨_, same⟩
    · rw [same]
      exact looked
    · rw [same]
      exact looked.trans (connectLoop_scripted (quiet.idle (consistent.idle connected)) env.attempt 3)

theorem mqttPublishToTopic_scripted {s : State} (consistent : Consistent s) (topic payload : Text) (retain : Bool)
    (env : PublishEnv) : Scripted reader s (mqttPublishToTopic s topic payload retain env).2 := by
  apply mqttPublishToTopic_invariant _ topic payload retain env (ensureConnected_scripted consistent _)
  intro t before param result
  exact before.trans (afterWrite_scripted (by trivial) result)

theorem mqttSubscribeToTopic_scripted {s : State} (consistent : Consistent s) (subs : List Subscription)
    (env : SubscribeEnv) : Scripted reader s (mqttSubscribeToTopic s subs env).2 := by
  apply mqttSubscribeToTopic_invariant _ _ subs env (ensureConnected_scripted consistent _)
  · intro t before topic result
    exact before.trans (afterWrite_scripted (by trivial) result)
  · intro t subs before
    exact before.trans (scripted_same rfl rfl)

/-! ### Steps and runs -/

theorem pollReads_scripted {s : State} (reads : s.pollThread = .reading → reader) (input : InputResult) :
    Scripted reader s (pollReads s input) := by
  unfold pollReads
  split
  · rename_i reading
    have after : Scripted reader s (mqttInput s input).2 := by
      cases opened : s.client.transport with
      | none =>
        rw [mqttInput_closed opened]
        exact scripted_refl s
      | some socket =>
        obtain ⟨t, channel, read, after⟩ := @mqttInput_log reader s (by simp [opened]) input
        exact Scripted.trans ⟨channel, _, read, .read input (reads reading) .nil⟩ after
    exact after.trans (scripted_same rfl rfl)
  · exact scripted_refl s

theorem keepaliveExpires_scripted (s : State) (ping : Option Errno) : Scripted reader s (keepaliveExpires s ping) := by
  unfold keepaliveExpires
  split
  · have expired : Scripted reader s { s with keepalivePending := false } := scripted_same rfl rfl
    unfold keepalive
    split
    · exact expired
    · have pinged : Scripted reader s (mqttPing { s with keepalivePending := false } ping).2 :=
        expired.trans (afterWrite_scripted (by trivial) _)
      dsimp only
      split
      · exact pinged
      · exact pinged.trans (kWorkReschedule_scripted _)
  · exact scripted_refl s

/-- Without the poll thread a step logs no read of it. -/
theorem step_scripted {s : State} (consistent : Consistent s) (reads : s.pollThread ≠ .returned → reader)
    (action : Step) : Scripted reader s (step s action) := by
  cases action with
  | publish topic payload retain env => exact mqttPublishToTopic_scripted consistent topic payload retain env
  | subscribe subs env => exact mqttSubscribeToTopic_scripted consistent subs env
  | pollCalls =>
    show Scripted reader s (pollCalls s)
    unfold pollCalls
    split
    · rename_i waiting
      split
      · exact scripted_same rfl rfl
      · exact ⟨rfl, _, rfl, .watch s.fd s.client.transport (reads (by simp [waiting])) .nil⟩
    · exact scripted_refl s
  | pollReturns poll =>
    show Scripted reader s (pollReturns s poll)
    unfold pollReturns
    split
    · exact scripted_same rfl rfl
    · exact scripted_refl s
  | pollReads input =>
    exact pollReads_scripted (fun reading => reads (by simp [reading])) input
  | keepaliveExpires ping => exact keepaliveExpires_scripted s ping
  | serverDisconnects => exact scripted_record (by trivial)

theorem run_scripted {s : State} (consistent : Consistent s) (steps : List Step) : Scripted True s (run step s steps) := by
  let Inv (t : State) : Prop := Consistent t ∧ Scripted True s t
  have keep : ∀ t action, Inv t → Inv (step t action) := by
    rintro t action ⟨held, before⟩
    exact ⟨step_consistent held action, before.trans (step_scripted held (fun _ => trivial) action)⟩
  have start : Inv s := ⟨consistent, scripted_refl s⟩
  exact (run_invariant keep start steps).2

end Scripted

end AirQuality.Mqtt
