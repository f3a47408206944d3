import AirQuality.Foundation.Custody
import AirQuality.Mqtt.Consistency

/-!
# The client on the network

Seen from outside the client is a machine that holds one transport at most: it looks an address up, opens a
transport to the address it has found last, uses it and closes it. Every step of `mqtt.c` is a sequence of
moves of this machine.
-/

namespace AirQuality.Mqtt
open Foundation

/-- The calls made so far and the transport that is open. -/
structure Dealings where
  calls : List Call
  transport : Option Nat

def State.dealings (s : State) : Dealings := ⟨s.calls, s.client.transport⟩

def Dealings.log (d : Dealings) (call : Call) : Dealings := { d with calls := d.calls ++ [call] }

def Call.lookup : Call → Option LookupResult
  | .getaddrinfo result => some result
  | _ => none

def lastLookup (calls : List Call) : Option LookupResult := (calls.filterMap Call.lookup).getLast?

/-- The call leaves the transport as it is, and is one to make with this transport. -/
def Call.Fits (transport : Option Nat) : Call → Prop
  | .mqttConnect _ _ _ | .transportClosed _ => False
  | .clientInit _ => transport = none
  | .mqttInput _ | .zsockPoll _ _ _ => transport ≠ none
  | .mqttPublish _ _ code | .mqttSubscribe _ _ code | .mqttPing code => code = 0 → transport ≠ none
  | _ => True

/-- The transport that `mqtt_connect` leaves open. -/
def ConnectResult.transport : ConnectResult → Option Nat
  | .opened socket _ => some socket
  | .failed _ => none

inductive Move (identity : Client) : Dealings → Dealings → Prop where
  | call (d : Dealings) (call : Call) (fits : call.Fits d.transport) : Move identity d (d.log call)
  | connect (d : Dealings) (address : Address) (result : ConnectResult) (closed : d.transport = none)
      (fresh : lastLookup d.calls = some (.resolved address)) :
      Move identity d { d.log (.mqttConnect (some address) identity result) with transport := result.transport }
  | close (d : Dealings) (socket : Nat) (opened : d.transport = some socket) :
      Move identity d { d.log (.transportClosed socket) with transport := none }

abbrev Moves (identity : Client) := Relation.ReflTransGen (Move identity)

/-- The client gets from `s` to `t` by moves of the machine. -/
def Gets (identity : Client) (s t : State) : Prop := Moves identity s.dealings t.dealings

section Gets
variable {identity : Client}

theorem gets_refl (s : State) : Gets identity s s := .refl

theorem Gets.trans {s t u : State} (first : Gets identity s t) (second : Gets identity t u) : Gets identity s u :=
  Relation.ReflTransGen.trans first second

theorem gets_same {s t : State} (calls : t.calls = s.calls) (transport : t.client.transport = s.client.transport) :
    Gets identity s t := by
  unfold Gets State.dealings
  rw [calls, transport]

theorem gets_call {s t : State} (call : Call) (fits : call.Fits s.client.transport)
    (calls : t.calls = s.calls ++ [call]) (transport : t.client.transport = s.client.transport) : Gets identity s t := by
  unfold Gets State.dealings
  rw [calls, transport]
  exact .single (.call s.dealings call fits)

theorem gets_record {s : State} {call : Call} (fits : call.Fits s.client.transport) :
    Gets identity s (s.record call) := gets_call call fits rfl rfl

theorem closeTransport_gets (s : State) : Gets identity s (closeTransport s) := by
  cases opened : s.client.transport with
  | none =>
    rw [closeTransport_none opened]
    exact gets_refl s
  | some socket =>
    have closes : (closeTransport s).dealings = { s.dealings.log (.transportClosed socket) with transport := none } := by
      simp [closeTransport, opened, State.dealings, Dealings.log, handleDisconnect, clearFds, State.record]
    unfold Gets
    rw [closes]
    exact .single (.close s.dealings socket opened)

theorem mqttAbort_gets (s : State) : Gets identity s (mqttAbort s) :=
  (gets_record (by trivial)).trans (closeTransport_gets _)

theorem handlePublish_gets (s : State) (message : Publish) : Gets identity s (handlePublish s message) := by
  unfold handlePublish
  dsimp only
  have closing : Gets identity s
      (if (drain message.payloadLen message.reads).failure.isSome then closeTransport s else s) := by
    split
    · exact closeTransport_gets s
    · exact gets_refl s
  split
  · exact closing
  · exact closing.trans (gets_record (by trivial))

theorem mqttEventHandler_gets (s : State) (packet : Packet) : Gets identity s (mqttEventHandler s packet) := by
  cases packet with
  | connack result =>
    rw [mqttEventHandler]
    split
    · exact gets_refl s
    · exact gets_same rfl rfl
  | publish message => exact handlePublish_gets s message
  | pingresp => exact gets_record (by trivial)
  | suback | unsuback | puback | other => exact gets_refl s

theorem mqttInput_gets (s : State) (result : InputResult) : Gets identity s (mqttInput s result).2 := by
  cases opened : s.client.transport with
  | none =>
    rw [mqttInput_closed opened]
    exact gets_refl s
  | some socket =>
    have read : Gets identity s (s.record (.mqttInput result)) := by
      refine gets_record ?_
      show s.client.transport ≠ none
      simp [opened]
    obtain ⟨packet, failure⟩ := result
    simp only [mqttInput, opened]
    cases packet with
    | none =>
      cases failure with
      | none => exact read
      | some errno => exact read.trans (closeTransport_gets _)
    | some packet =>
      have handled := read.trans (mqttEventHandler_gets _ packet)
      cases failure with
      | none => exact handled
      | some errno => exact handled.trans (closeTransport_gets _)

theorem afterWrite_gets {s : State} {call : Call} (fits : call.Fits s.client.transport) (result : WriteResult) :
    Gets identity s (afterWrite (s.record call) result) := by
  have recorded : Gets identity s (s.record call) := gets_record fits
  cases result with
  | lost errno => exact recorded.trans (closeTransport_gets _)
  | sent | refused => exact recorded

theorem opened_of_written {s : State} {result : WriteResult} (written : writeCode s result = 0) :
    s.client.transport ≠ none := by
  intro closed
  simp only [writeCode, closed] at written
  exact Errno.code_ne_zero _ written

theorem mqttPublish_gets (s : State) (param : PublishParam) (result : WriteResult) :
    Gets identity s (mqttPublish s param result).2 := by
  rw [mqttPublish_state]
  apply afterWrite_gets
  exact fun written => opened_of_written written

theorem subscribe_gets (s : State) (topic : Text) (result : WriteResult) : Gets identity s (subscribe s topic result) := by
  rw [subscribe_state]
  apply afterWrite_gets
  exact fun written => opened_of_written written

theorem mqttPing_gets (s : State) (failure : Option Errno) : Gets identity s (mqttPing s failure).2 := by
  apply afterWrite_gets
  exact fun written => opened_of_written written

theorem lastLookup_record (calls : List Call) {call : Call} (other : call.lookup = none) :
    lastLookup (calls ++ [call]) = lastLookup calls := by simp [lastLookup, other]

theorem lastLookup_extends {s t : State} (unasked : Extends (fun call => call.lookup = none) s t) :
    lastLookup t.calls = lastLookup s.calls := by
  obtain ⟨more, grown, each⟩ := unasked
  rw [grown, lastLookup, List.filterMap_append, List.filterMap_eq_nil_iff.mpr each, List.append_nil]
  rfl

/-- The client is set up as `identity`, and `haddr` is what the last lookup has found. -/
structure Ready (identity : Client) (s : State) : Prop where
  configured : configuredClient s = identity
  found : ∃ address, s.haddr = some address ∧ lastLookup s.calls = some (.resolved address)

theorem dialled_ready {s t : State} {attempt : Attempt} {result : Option Int} (ready : Ready identity s)
    (dialled : Dialled s attempt result t) : Ready identity t := by
  refine ⟨dialled.kept.configuredClient.trans ready.configured, ?_⟩
  obtain ⟨address, held, fresh⟩ := ready.found
  obtain ⟨more, grown, plain⟩ := dialled.log
  refine ⟨address, dialled.haddr.trans held, ?_⟩
  rw [← fresh]
  refine lastLookup_extends ⟨dialCalls s attempt ++ more, by rw [grown, List.append_assoc], ?_⟩
  intro call member
  rcases List.mem_append.mp member with dials | rest
  · unfold dialCalls at dials
    cases connect : attempt.connect <;> simp [connect] at dials <;> rcases dials with rfl | rfl | rfl | rfl <;> rfl
  · cases call with
    | getaddrinfo result => exact (plain _ rest).elim
    | _ => rfl

/-- The client is initialised and dials, on a closed transport and with the address found last. -/
theorem dials_gets {s t : State} (idle : Idle s) (ready : Ready identity s) (result : ConnectResult)
    (calls : t.calls = s.calls ++ [.clientInit s.client.transport, .kWorkInitDelayable s.keepalivePending,
      .mqttConnect s.haddr (configuredClient s) result])
    (transport : t.client.transport = result.transport) : Gets identity s t := by
  obtain ⟨address, held, fresh⟩ := ready.found
  have closed : s.dealings.transport = none := idle.closed
  let first := s.dealings.log (.clientInit none)
  let second := first.log (.kWorkInitDelayable s.keepalivePending)
  have initialised : Moves identity s.dealings first := .single (.call _ _ closed)
  have prepared : Moves identity first second := .single (.call _ _ trivial)
  have fresh' : lastLookup second.calls = some (.resolved address) := by
    show lastLookup ((s.calls ++ [.clientInit none]) ++ [.kWorkInitDelayable s.keepalivePending]) = _
    rw [lastLookup_record _ rfl, lastLookup_record _ rfl, fresh]
  have dialled := (initialised.trans prepared).tail (.connect second address result closed fresh')
  have same : t.dealings =
      { second.log (.mqttConnect (some address) identity result) with transport := result.transport } := by
    unfold State.dealings
    rw [calls, transport, idle.closed, held, ready.configured]
    simp [second, first, Dealings.log, State.dealings]
  unfold Gets
  rw [same]
  exact dialled

theorem connectRound_gets {s : State} (idle : Idle s) (ready : Ready identity s) (attempt : Attempt) :
    Gets identity s (connectRound s attempt).2 := by
  cases result : attempt.connect with
  | failed errno =>
    rw [connectRound_failed result]
    refine dials_gets idle ready attempt.connect ?_ ?_
    · simp [State.record, clientInit, brokerInit]
    · rw [result]
      rfl
  | opened socket accepted =>
    obtain ⟨waiting, logged⟩ := awaiting_spec idle result
    have dialled : Gets identity s (mqttConnect (clientInit s) attempt.connect).2 := by
      apply dials_gets idle ready attempt.connect
      · simp [mqttConnect, result, State.record, clientInit, brokerInit, configuredClient]
      · simp [mqttConnect, result, ConnectResult.transport]
    have waits : Gets identity s (awaiting s attempt) := by
      refine dialled.trans (gets_call (.zsockPoll s.fd mqttConnectTimeoutMs (some socket)) ?_ ?_ ?_)
      · show (mqttConnect (clientInit s) attempt.connect).2.client.transport ≠ none
        simp [mqttConnect, result]
      · rw [logged]
        simp [dialCalls, mqttConnect, result, State.record, clientInit, brokerInit, configuredClient]
      · rw [waiting.transport]
        simp [mqttConnect, result]
    have opened : (awaiting s attempt).client.transport ≠ none := by simp [waiting.transport]
    rw [connectRound_opened result]
    split
    · exact waits.trans (mqttAbort_gets _)
    · have read := waits.trans (mqttInput_gets (awaiting s attempt) attempt.input)
      dsimp only
      split
      · rw [kThreadStart_eq]
        have scheduled := read.trans (gets_call (t := kWorkReschedule _) (.kWorkReschedule _) (by trivial) rfl rfl)
        exact scheduled.trans (gets_call .kThreadStart (by trivial) rfl rfl)
      · rename_i disconnected
        rcases mqttInput_connection _ opened attempt.input with same | ⟨_, connected, _⟩
        · rw [wait_idle (mqttAbort_idle opened same)]
          exact read.trans (mqttAbort_gets _)
        · exact absurd connected disconnected

theorem connectLoop_gets {s : State} (idle : Idle s) (ready : Ready identity s) (attempt : Nat → Attempt)
    (retries : Nat) : Gets identity s (connectLoop attempt retries s).2 := by
  let Inv (t : State) : Prop := Ready identity t ∧ Gets identity s t
  have keep : ∀ {t}, Idle t → ∀ attempt, Inv t → Inv (connectRound t attempt).2 := by
    rintro t idle' attempt ⟨ready', before⟩
    exact ⟨dialled_ready ready' (connectRound_spec idle' attempt), before.trans (connectRound_gets idle' ready' attempt)⟩
  exact (connectLoop_invariant keep attempt retries idle ⟨ready, gets_refl s⟩).2

theorem lookupLoop_gets (lookup : Nat → LookupResult) (retries : Nat) (rc : Int) (s : State) :
    Gets identity s (lookupLoop lookup retries rc s).2 ∧
      (Resolves lookup retries → ∃ address, (lookupLoop lookup retries rc s).2.haddr = some address ∧
        lastLookup (lookupLoop lookup retries rc s).2.calls = some (.resolved address)) := by
  induction retries generalizing rc s with
  | zero => exact ⟨gets_refl s, False.elim⟩
  | succ retries ih =>
    have asked : Gets identity s (s.record (.getaddrinfo (lookup retries))) := gets_record (by trivial)
    unfold lookupLoop
    dsimp only
    cases found : lookup retries with
    | resolved address =>
      rw [found] at asked
      refine ⟨asked.trans (gets_same rfl rfl), fun _ => ⟨address, rfl, ?_⟩⟩
      simp [lastLookup, State.record, Call.lookup]
    | failed code nonzero =>
      rw [found] at asked
      obtain ⟨rest, fresh⟩ := ih code (s.record (.getaddrinfo (.failed code nonzero)))
      refine ⟨asked.trans rest, fun resolves => fresh (resolves.resolve_left ?_)⟩
      rintro ⟨address, resolved⟩
      rw [found] at resolved
      cases resolved

theorem ensureConnected_gets {s : State} (consistent : Consistent s) (configured : configuredClient s = identity)
    (env : ConnectEnv) : Gets identity s (ensureConnected s env).2 := by
  unfold ensureConnected
  cases connected : s.mqttConnected with
  | true => exact gets_refl s
  | false =>
    obtain ⟨looked, fresh⟩ := @lookupLoop_gets identity env.lookup 3 Errno.einval.code s
    obtain ⟨quiet, _⟩ := lookupLoop_quiet env.lookup 3 Errno.einval.code s
    simp only [Bool.false_eq_true, if_false]
    rcases connectToServer_cases s env with ⟨_, _, same⟩ | ⟨resolves, same⟩
    · rw [same]
      exact looked
    · rw [same]
      have ready : Ready identity (lookupLoop env.lookup 3 Errno.einval.code s).2 :=
        ⟨quiet.kept.configuredClient.trans configured, fresh resolves⟩
      exact looked.trans (connectLoop_gets (quiet.idle (consistent.idle connected)) ready env.attempt 3)

/-! ### Every step is a sequence of moves -/

theorem step_gets {s : State} (consistent : Consistent s) (configured : configuredClient s = identity) (action : Step) :
    Gets identity s (step s action) := by
  cases action with
  | publish topic payload retain env =>
    apply mqttPublishToTopic_invariant _ topic payload retain env (ensureConnected_gets consistent configured _)
    intro t before param result
    exact before.trans (mqttPublish_gets t param result)
  | subscribe subs env =>
    apply mqttSubscribeToTopic_invariant _ _ subs env (ensureConnected_gets consistent configured _)
    · intro t before topic result
      exact before.trans (subscribe_gets t topic result)
    · intro t subs before
      exact before.trans (gets_same rfl rfl)
  | pollCalls =>
    show Gets identity s (pollCalls s)
    unfold pollCalls
    split
    · split
      · exact gets_same rfl rfl
      · rename_i polled
        rcases consistent with idle | live
        · exact absurd (Int.le_of_eq idle.empty) polled
        · exact gets_call (.zsockPoll s.fd sysForeverMs s.client.transport) live.opened rfl rfl
    · exact gets_refl s
  | pollReturns poll =>
    show Gets identity s (pollReturns s poll)
    unfold pollReturns
    split
    · exact gets_same rfl rfl
    · exact gets_refl s
  | pollReads input =>
    show Gets identity s (pollReads s input)
    unfold pollReads
    split
    · exact (mqttInput_gets s input).trans (gets_same rfl rfl)
    · exact gets_refl s
  | keepaliveExpires ping =>
    show Gets identity s (keepaliveExpires s ping)
    unfold keepaliveExpires
    split
    · have expired : Gets identity s { s with keepalivePending := false } := gets_same rfl rfl
      unfold keepalive
      split
      · exact expired
      · have pinged := expired.trans (@mqttPing_gets identity _ ping)
        dsimp only
        split
        · exact pinged
        · exact pinged.trans (gets_call (t := kWorkReschedule _) (.kWorkReschedule _) (by trivial) rfl rfl)
    · exact gets_refl s
  | serverDisconnects => exact gets_record (by trivial)

end Gets

/-- A run of a booted client, as a sequence of moves. -/
theorem run_gets (channelId : Int) (devId lastWillTopic lastWillMessage : Text) (steps : List Step) :
    let start := booted channelId devId lastWillTopic lastWillMessage
    Gets (configuredClient start) start (run step start steps) := by
  intro start
  let Inv (s : State) : Prop :=
    Consistent s ∧ configuredClient s = configuredClient start ∧ Gets (configuredClient start) start s
  have keep : ∀ s action, Inv s → Inv (step s action) := by
    rintro s action ⟨consistent, configured, before⟩
    have kept : Kept s (step s action) :=
      phases_invariant (fun phase _ kept => kept.trans phase.kept) (step_phases consistent action) consistent (Kept.refl s)
    exact ⟨step_consistent consistent action, kept.configuredClient.trans configured,
      before.trans (step_gets consistent configured action)⟩
  have held : Inv start := ⟨booted_consistent _ _ _ _, rfl, gets_refl start⟩
  exact (run_invariant keep held steps).2.2

/-- What every move keeps holds after any number of them. -/
theorem Moves.invariant {identity : Client} {Inv : Dealings → Prop}
    (keep : ∀ {d e}, Move identity d e → Inv d → Inv e) {d e : Dealings} (moves : Moves identity d e)
    (start : Inv d) : Inv e := by
  induction moves with
  | refl => exact start
  | tail _ last ih => exact keep last ih

end AirQuality.Mqtt
