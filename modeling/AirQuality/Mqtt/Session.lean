import AirQuality.Foundation.Broker
import AirQuality.Mqtt.Consistency

/-!
# What the broker sees

The log of a client determines its transport, and with it the sessions the broker has had with the
client: `mqtt_connect` is only called without a transport, and a packet is only sent over one.
-/

namespace AirQuality.Mqtt
open Foundation

def transportAfter (opened : Bool) : Call → Bool
  | .mqttConnect _ _ (.opened _ _) => true
  | .transportClosed _ => false
  | _ => opened

/-- The call can be made when a transport is open, or not. -/
def Call.Possible (opened : Bool) : Call → Prop
  | .mqttConnect _ _ _ => opened = false
  | .mqttPublish _ _ code => code = 0 → opened = true
  | _ => True

/-- The log is a possible one and ends with the transport the client has. -/
structure Logged (s : State) : Prop where
  transport : run transportAfter false s.calls = s.client.transport.isSome
  possible : Along transportAfter Call.Possible false s.calls

theorem Logged.congr {s t : State} (logged : Logged s) (calls : t.calls = s.calls)
    (transport : t.client.transport = s.client.transport) : Logged t := by
  refine ⟨?_, by rw [calls]; exact logged.possible⟩
  rw [calls, transport]
  exact logged.transport

theorem Logged.call {s t : State} (logged : Logged s) (call : Call) (calls : t.calls = s.calls ++ [call])
    (possible : call.Possible s.client.transport.isSome)
    (transport : t.client.transport.isSome = transportAfter s.client.transport.isSome call) : Logged t := by
  refine ⟨?_, ?_⟩
  · rw [calls, run_append, logged.transport, transport]
    rfl
  · rw [calls, along_append, logged.transport]
    exact ⟨logged.possible, possible, trivial⟩

theorem closeTransport_logged {s : State} (logged : Logged s) : Logged (closeTransport s) := by
  cases opened : s.client.transport with
  | none =>
    rw [closeTransport_none opened]
    exact logged
  | some socket =>
    refine logged.call (.transportClosed socket) ?_ trivial ?_
    · simp [closeTransport, opened, handleDisconnect, clearFds, State.record]
    · rw [closeTransport_transport]
      rfl

theorem record_logged {s : State} (logged : Logged s) (call : Call)
    (steady : ∀ opened, call.Possible opened ∧ transportAfter opened call = opened) : Logged (s.record call) :=
  logged.call call rfl (steady _).1 (steady _).2.symm

theorem mqttAbort_logged {s : State} (logged : Logged s) : Logged (mqttAbort s) :=
  closeTransport_logged (record_logged logged .mqttAbort fun _ => ⟨trivial, rfl⟩)

theorem handlePublish_logged {s : State} (logged : Logged s) (message : Publish) :
    Logged (handlePublish s message) := by
  unfold handlePublish
  dsimp only
  have closing : Logged
      (if (drain message.payloadLen message.reads).failure.isSome then closeTransport s else s) := by
    split
    · exact closeTransport_logged logged
    · exact logged
  split
  · exact closing
  · exact record_logged closing _ fun _ => ⟨trivial, rfl⟩

theorem mqttEventHandler_logged {s : State} (logged : Logged s) (packet : Packet) :
    Logged (mqttEventHandler s packet) := by
  cases packet with
  | connack result =>
    rw [mqttEventHandler]
    split
    · exact logged
    · exact logged.congr rfl rfl
  | publish message => exact handlePublish_logged logged message
  | pingresp => exact record_logged logged _ fun _ => ⟨trivial, rfl⟩
  | suback | unsuback | puback | other => exact logged

theorem mqttInput_logged {s : State} (logged : Logged s) (result : InputResult) :
    Logged (mqttInput s result).2 := by
  refine mqttInput_invariant ?_ ?_ ?_ logged result
  · intro t result logged
    exact record_logged logged _ fun _ => ⟨trivial, rfl⟩
  · intro t packet logged
    exact mqttEventHandler_logged logged packet
  · intro t logged
    exact closeTransport_logged logged

theorem kWorkReschedule_logged {s : State} (logged : Logged s) : Logged (kWorkReschedule s) :=
  logged.call (.kWorkReschedule s.client.keepalive) rfl trivial rfl

theorem afterWrite_logged {s : State} (logged : Logged s) {call : Call}
    (possible : call.Possible s.client.transport.isSome)
    (transport : ∀ opened, transportAfter opened call = opened) (result : WriteResult) :
    Logged (afterWrite (s.record call) result) := by
  have recorded : Logged (s.record call) := logged.call call rfl possible (transport _).symm
  cases result with
  | lost errno => exact closeTransport_logged recorded
  | sent | refused => exact recorded

theorem awaiting_logged {s : State} (idle : Idle s) (logged : Logged s) {attempt : Attempt} {socket : Nat}
    {accepted : Bool} (opened : attempt.connect = .opened socket accepted) : Logged (awaiting s attempt) := by
  obtain ⟨waiting, calls⟩ := awaiting_spec idle opened
  have closed : run transportAfter false s.calls = false := by
    rw [logged.transport, idle.closed]
    rfl
  refine ⟨?_, ?_⟩
  · rw [calls, run_append, closed, waiting.transport]
    simp [dialCalls, opened, run, transportAfter]
  · rw [calls, along_append, closed]
    refine ⟨logged.possible, ?_⟩
    simp [dialCalls, opened, Along, transportAfter, Call.Possible]

theorem connectRound_logged {s : State} (idle : Idle s) (logged : Logged s) (attempt : Attempt) :
    Logged (connectRound s attempt).2 := by
  cases result : attempt.connect with
  | failed errno =>
    have closed : run transportAfter false s.calls = false := by
      rw [logged.transport, idle.closed]
      rfl
    rw [connectRound_failed result]
    refine ⟨?_, ?_⟩
    · simp [State.record, clientInit, brokerInit, run_append, closed, run, transportAfter, result]
    · simp [State.record, clientInit, brokerInit, along_append, closed, Along, transportAfter, Call.Possible,
        logged.possible]
  | opened socket accepted =>
    have waiting := awaiting_logged idle logged result
    have read := mqttInput_logged waiting attempt.input
    rw [connectRound_opened result]
    split
    · exact mqttAbort_logged waiting
    · dsimp only
      split
      · rw [kThreadStart_eq]
        have scheduled := kWorkReschedule_logged read
        exact (record_logged scheduled .kThreadStart fun _ => ⟨trivial, rfl⟩).congr rfl rfl
      · have aborted := mqttAbort_logged read
        unfold wait
        split
        · exact aborted
        · exact aborted.call _ rfl trivial rfl

/-- Calls that do not reach the transport are possible at any time. -/
theorem along_of_aside {more : List Call} (aside : ∀ call ∈ more, call.Aside) (opened : Bool) :
    run transportAfter opened more = opened ∧ Along transportAfter Call.Possible opened more := by
  induction more with
  | nil => exact ⟨rfl, trivial⟩
  | cons call rest ih =>
    rw [List.forall_mem_cons] at aside
    obtain ⟨same, along⟩ := ih aside.2
    have first : call.Possible opened ∧ transportAfter opened call = opened := by
      cases call with
      | getaddrinfo | serverDisconnects => exact ⟨trivial, rfl⟩
      | _ => exact aside.1.elim
    rw [run_cons, Along, first.2]
    exact ⟨same, first.1, along⟩

theorem Phase.logged {s t : State} (phase : Phase s t) (consistent : Consistent s) (logged : Logged s) :
    Logged t := by
  cases phase with
  | quiet quiet =>
    obtain ⟨more, same, aside⟩ := quiet.log
    obtain ⟨unchanged, along⟩ := along_of_aside aside (run transportAfter false s.calls)
    refine ⟨?_, ?_⟩
    · rw [same, run_append, unchanged, quiet.client]
      exact logged.transport
    · rw [same, along_append]
      exact ⟨logged.possible, along⟩
  | dial idle attempt => exact connectRound_logged idle logged attempt
  | poll live => exact logged.call _ rfl trivial rfl
  | input live result => exact mqttInput_logged logged result
  | publish param result =>
    rw [mqttPublish_state]
    refine afterWrite_logged logged ?_ (fun _ => rfl) result
    intro success
    rcases writeCode_cases consistent result with ⟨_, connected, _⟩ | ⟨failed, _⟩
    · exact Option.isSome_iff_ne_none.mpr (consistent.live connected).opened
    · omega
  | subscribe topic result =>
    rw [subscribe_state]
    exact afterWrite_logged logged (by trivial) (fun _ => rfl) result
  | expires live ping =>
    have pinged : ∀ code, Logged ({ s with keepalivePending := false }.record (.mqttPing code)) := fun code =>
      logged.call (.mqttPing code) rfl trivial rfl
    rw [keepaliveExpires_live live]
    cases ping with
    | none => exact kWorkReschedule_logged (pinged 0)
    | some errno => exact closeTransport_logged (pinged errno.code)

theorem Phases.logged {s t : State} (phases : Phases s t) (consistent : Consistent s) (logged : Logged s) :
    Logged t := phases_invariant (fun phase => phase.logged) phases consistent logged

/-! ### Sessions -/

/-- The broker's end of a call. A CONNECT it accepts starts a session; closing the transport, at
either end, ends it, since no DISCONNECT is ever sent. -/
def delivery : Call → Option (Delivery Text Text)
  | .mqttConnect _ client (.opened _ true) =>
    some (.connect (client.will.map fun will => ⟨will.topic, will.message, will.retain⟩))
  | .transportClosed _ | .serverDisconnects => some .disconnect
  | .mqttPublish param _ code => if code = 0 then some (.publish param.topic param.payload param.retainFlag) else none
  | _ => none

/-- The broker after the calls, when it held `retained` before. -/
def brokerAfter (retained : Text → Option Text) (calls : List Call) : Broker Text Text :=
  run Broker.deliver ⟨retained, none⟩ (calls.filterMap delivery)

theorem brokerAfter_append (retained : Text → Option Text) (before after : List Call) :
    brokerAfter retained (before ++ after) =
      run Broker.deliver (brokerAfter retained before) (after.filterMap delivery) := by
  rw [brokerAfter, List.filterMap_append, run_append]
  rfl

def Call.EndsSession : Call → Prop
  | .transportClosed _ | .serverDisconnects => True
  | _ => False

theorem not_connect_of_open {calls : List Call} (possible : Along transportAfter Call.Possible true calls)
    (lasting : ∀ call ∈ calls, ¬ call.EndsSession) :
    ∀ call ∈ calls, ∀ broker client result, call ≠ .mqttConnect broker client result := by
  induction calls with
  | nil => simp
  | cons call rest ih =>
    rw [List.forall_mem_cons] at lasting ⊢
    obtain ⟨now, later⟩ := possible
    have first : ∀ broker client result, call ≠ .mqttConnect broker client result := by
      rintro broker client result rfl
      cases now
    refine ⟨first, ih ?_ lasting.2⟩
    have same : transportAfter true call = true := by
      cases call with
      | mqttConnect broker client result => exact absurd rfl (first broker client result)
      | transportClosed socket => exact (lasting.1 trivial).elim
      | _ => rfl
    rwa [same] at later

end AirQuality.Mqtt
