import AirQuality.Foundation.Transition
import AirQuality.Mqtt.Receive

/-!
# The MQTT client

`mqtt.c` as a state machine: its static variables, the parts of Zephyr's objects it depends on, and
the log of its calls into Zephyr. The results of these calls are inputs. Zephyr's own contract is
built into their types: a successful `mqtt_connect` opens the transport and a failed one leaves it
closed, and whenever the library closes an open transport it delivers `MQTT_EVT_DISCONNECT` before it
returns.
-/

namespace AirQuality.Mqtt
open Foundation

abbrev Address := BitVec 128

def sysForeverMs : Int := -1
def mqttConnectTimeoutMs : Int := 1000
def mqttAbortTimeoutMs : Int := 5000
def configMqttKeepalive : Nat := 60

inductive LookupResult where
  | resolved (address : Address)
  | failed (code : Int) (nonzero : code ≠ 0)
  deriving DecidableEq

/-- `accepted` says whether the broker takes the CONNECT sent over the new transport, which the
client learns from the CONNACK only. -/
inductive ConnectResult where
  | opened (socket : Nat) (accepted : Bool)
  | failed (errno : Errno)
  deriving DecidableEq

/-- `zsock_poll`: the number of ready descriptors, or the negated `errno`. -/
inductive PollResult where
  | ready (count : Nat)
  | error (errno : Errno)
  deriving DecidableEq

/-- `mqtt_input` on an open transport: the packet it handled, if one was complete, and the error
that made it close the transport, if any. -/
structure InputResult where
  packet : Option Packet := none
  failure : Option Errno := none
  deriving DecidableEq

/-- A call that sends a packet: it is written, or refused with the transport left open, or the
write fails and the library closes the transport. -/
inductive WriteResult where
  | sent
  | refused (errno : Errno)
  | lost (errno : Errno)
  deriving DecidableEq

structure Attempt where
  connect : ConnectResult
  poll : PollResult
  input : InputResult
  abortPoll : PollResult
  deriving DecidableEq

/-- The answers inside `connect_to_server`, each loop's indexed by the retries left. -/
structure ConnectEnv where
  lookup : Nat → LookupResult
  attempt : Nat → Attempt

structure PublishEnv extends ConnectEnv where
  rand : UInt32
  result : WriteResult

structure SubscribeEnv extends ConnectEnv where
  result : Nat → WriteResult

/-! ### State -/

structure Will where
  topic : Text
  message : Text
  retain : Bool
  deriving DecidableEq

structure Client where
  clientId : Text := []
  will : Option Will := none
  keepalive : Nat := 0
  transport : Option Nat := none
  deriving DecidableEq

structure PublishParam where
  topic : Text
  payload : Text
  messageId : UInt16
  retainFlag : Bool
  deriving DecidableEq

/-- A call into Zephyr, with the part of the state it is made in that matters to it. -/
inductive Call where
  | getaddrinfo (result : LookupResult)
  | clientInit (transport : Option Nat)
  | kWorkInitDelayable (pending : Bool)
  | kWorkReschedule (seconds : Nat)
  | kThreadStart
  | mqttConnect (broker : Option Address) (client : Client) (result : ConnectResult)
  | mqttAbort
  | mqttInput (result : InputResult)
  | mqttPublish (param : PublishParam) (connected : Bool) (code : Int)
  | mqttSubscribe (topic : Text) (messageId : UInt16) (code : Int)
  | mqttPing (code : Int)
  | zsockPoll (fd : Int) (timeout : Int) (transport : Option Nat)
  | transportClosed (socket : Nat)
  | serverDisconnects
  | callback (callback : Nat) (data : List (Option UInt8))
  | wdtFeed (channelId : Int)
  deriving DecidableEq

/-- Where the poll thread stands: before `wait`, inside the `zsock_poll` of `wait`, or between
`wait` and `mqtt_input`. -/
inductive PollThread where
  | notStarted | waiting | polling | reading | returned
  deriving DecidableEq, Repr

structure State where
  client : Client := {}
  lastWillTopic : Text := []
  lastWillMessage : Text := []
  broker : Option Address := none
  fd : Int := 0
  pollIn : Bool := false
  nfds : Int := 0
  deviceId : Text := []
  mqttConnected : Bool := false
  subscriptions : List Subscription := []
  keepalivePending : Bool := false
  haddr : Option Address := none
  wdtChannelId : Int := 0
  pollThread : PollThread := .notStarted
  calls : List Call := []
  deriving DecidableEq

def State.record (s : State) (call : Call) : State := { s with calls := s.calls ++ [call] }

/-- `prepare_fds` sets the event mask and the count of the poll set. -/
def prepareFds (s : State) : State := { s with pollIn := true, nfds := 1 }

def clearFds (s : State) : State := { s with nfds := 0 }

/-- `MQTT_EVT_DISCONNECT`. -/
def handleDisconnect (s : State) : State := clearFds { s with mqttConnected := false }

/-- The library closes the transport, if it is open, and delivers `MQTT_EVT_DISCONNECT`. -/
def closeTransport (s : State) : State :=
  match s.client.transport with
  | none => s
  | some socket =>
    handleDisconnect
      ({ s with client := { s.client with transport := none } }.record (.transportClosed socket))

/-- `MQTT_EVT_PUBLISH`. A failing payload read closes the transport inside the call. -/
def handlePublish (s : State) (message : Publish) : State :=
  let loop := drain message.payloadLen message.reads
  let s := if loop.failure.isSome then closeTransport s else s
  match matching s.subscriptions message.topic with
  | none => s
  | some subscription => s.record (.callback subscription.callback (dataString loop.drain.data))

def mqttEventHandler (s : State) : Packet → State
  | .connack result => if result ≠ 0 then s else { s with mqttConnected := true }
  | .publish message => handlePublish s message
  | .pingresp => s.record (.wdtFeed s.wdtChannelId)
  | .suback _ | .unsuback _ | .puback _ _ | .other _ => s

/-! ### Library calls -/

def kWorkReschedule (s : State) : State :=
  { s with keepalivePending := true }.record (.kWorkReschedule s.client.keepalive)

/-- A thread starts once. -/
def kThreadStart (s : State) : State :=
  let s := s.record .kThreadStart
  match s.pollThread with
  | .notStarted => { s with pollThread := .waiting }
  | _ => s

def mqttConnect (s : State) (result : ConnectResult) : Int × State :=
  let s := s.record (.mqttConnect s.broker s.client result)
  match result with
  | .opened socket _ => (0, { s with client := { s.client with transport := some socket } })
  | .failed errno => (errno.code, s)

def mqttAbort (s : State) : State := closeTransport (s.record .mqttAbort)

def mqttInput (s : State) (result : InputResult) : Int × State :=
  match s.client.transport with
  | none => (Errno.enotconn.code, s)
  | some _ =>
    let s := s.record (.mqttInput result)
    let s := match result.packet with
      | none => s
      | some packet => mqttEventHandler s packet
    match result.failure with
    | none => (0, s)
    | some errno => (errno.code, closeTransport s)

/-- The outcome of sending over the current transport; without one the library reports
`-ENOTCONN`. -/
def writeCode (s : State) (result : WriteResult) : Int :=
  match s.client.transport, result with
  | none, _ => Errno.enotconn.code
  | some _, .sent => 0
  | some _, .refused errno | some _, .lost errno => errno.code

def afterWrite (s : State) : WriteResult → State
  | .lost _ => closeTransport s
  | .sent | .refused _ => s

def mqttPublish (s : State) (param : PublishParam) (result : WriteResult) : Int × State :=
  let code := writeCode s result
  (code, afterWrite (s.record (.mqttPublish param s.mqttConnected code)) result)

def mqttSubscribe (s : State) (topic : Text) (messageId : UInt16) (result : WriteResult) : Int × State :=
  let code := writeCode s result
  (code, afterWrite (s.record (.mqttSubscribe topic messageId code)) result)

/-- A connected client can always encode a ping, so only the write can fail. -/
def mqttPing (s : State) (failure : Option Errno) : Int × State :=
  let result := match failure with
    | none => .sent
    | some errno => WriteResult.lost errno
  let code := writeCode s result
  (code, afterWrite (s.record (.mqttPing code)) result)

/-! ### The client -/

def PollResult.code : PollResult → Int
  | .ready count => count
  | .error errno => errno.code

def wait (s : State) (timeout : Int) (poll : PollResult) : Int × State :=
  if s.nfds ≤ 0 then (Errno.einval.code, s)
  else (poll.code, s.record (.zsockPoll s.fd timeout s.client.transport))

/-- `haddr` is valid here: `connect_to_server` looked it up. Initialising the work item clears it. -/
def brokerInit (s : State) : State :=
  { s with broker := s.haddr, keepalivePending := false }.record (.kWorkInitDelayable s.keepalivePending)

def clientInit (s : State) : State :=
  let s := brokerInit (s.record (.clientInit s.client.transport))
  { s with
    client :=
      { clientId := s.deviceId
        will := some { topic := s.lastWillTopic, message := s.lastWillMessage, retain := true }
        keepalive := configMqttKeepalive
        transport := none } }

/-- One round of the loop of `try_to_connect`: the result it returns, or `none` to go on. -/
def connectRound (s : State) (attempt : Attempt) : Option Int × State :=
  let s := clientInit s
  let (rc, s) := mqttConnect s attempt.connect
  if rc ≠ 0 then (none, s) else
  let s := prepareFds s
  let (rc, s) := wait s mqttConnectTimeoutMs attempt.poll
  if rc < 0 then (some rc, mqttAbort s) else
  let s := (mqttInput s attempt.input).2
  if s.mqttConnected then (some 0, kThreadStart (kWorkReschedule s)) else
  let s := mqttAbort s
  (none, (wait s mqttAbortTimeoutMs attempt.abortPoll).2)

def connectLoop (attempt : Nat → Attempt) : Nat → State → Int × State
  | 0, s => (Errno.einval.code, s)
  | retries + 1, s =>
    match connectRound s (attempt retries) with
    | (some rc, s) => (rc, s)
    | (none, s) => connectLoop attempt retries s

def tryToConnect (s : State) (attempt : Nat → Attempt) : Int × State := connectLoop attempt 3 s

/-- The loop of `get_mqtt_broker_addrinfo`; `rc` is the last result. -/
def lookupLoop (lookup : Nat → LookupResult) : Nat → Int → State → Int × State
  | 0, rc, s => (rc, s)
  | retries + 1, _, s =>
    let s := s.record (.getaddrinfo (lookup retries))
    match lookup retries with
    | .resolved address => (0, { s with haddr := some address })
    | .failed code _ => lookupLoop lookup retries code s

def getMqttBrokerAddrinfo (s : State) (lookup : Nat → LookupResult) : Int × State :=
  lookupLoop lookup 3 Errno.einval.code s

def connectToServer (s : State) (env : ConnectEnv) : Int × State :=
  let (rc, s) := getMqttBrokerAddrinfo s env.lookup
  if rc ≠ 0 then (rc, s) else
  let (rc, s) := tryToConnect s env.attempt
  if rc ≠ 0 then (rc, s) else (0, s)

def mqttWatchdogInit (s : State) (channelId : Int) : State := { s with wdtChannelId := channelId }

def mqttInit (s : State) (devId lastWillTopic lastWillMessage : Text) : State :=
  { s with deviceId := devId, lastWillTopic, lastWillMessage }

/-- The reconnection at the head of `mqtt_publish_to_topic` and `mqtt_subscribe_to_topic`. -/
def ensureConnected (s : State) (env : ConnectEnv) : Int × State :=
  if s.mqttConnected then (0, s) else connectToServer s env

def mqttPublishToTopic (s : State) (topic payload : Text) (retain : Bool) (env : PublishEnv) : Int × State :=
  let param := { topic, payload, messageId := env.rand.toUInt16, retainFlag := retain }
  let (ret, s) := ensureConnected s env.toConnectEnv
  if ret < 0 then (ret, s) else
  let (ret, s) := mqttPublish s param env.result
  if ret < 0 then (ret, s) else (0, s)

def subscribe (s : State) (topic : Text) (result : WriteResult) : State := (mqttSubscribe s topic 1 result).2

def subscribeLoop (result : Nat → WriteResult) : Nat → List Subscription → State → State
  | _, [], s => s
  | i, subscription :: rest, s =>
    subscribeLoop result (i + 1) rest (subscribe s subscription.topic (result i))

def mqttSubscribeToTopic (s : State) (subs : List Subscription) (env : SubscribeEnv) : Int × State :=
  let (ret, s) := ensureConnected s env.toConnectEnv
  if ret < 0 then (ret, s) else
  let s := { s with subscriptions := subs }
  (0, subscribeLoop env.result 0 subs s)

/-- The handler of `keepalive_work`. -/
def keepalive (s : State) (ping : Option Errno) : State :=
  if !s.mqttConnected then s else
  let (rc, s) := mqttPing s ping
  if rc < 0 then s else kWorkReschedule s

def keepaliveExpires (s : State) (ping : Option Errno) : State :=
  if s.keepalivePending then keepalive { s with keepalivePending := false } ping else s

/-- The poll thread calls `wait`, which blocks in `zsock_poll` unless the poll set is empty. -/
def pollCalls (s : State) : State :=
  match s.pollThread with
  | .waiting =>
    if s.nfds ≤ 0 then { s with pollThread := .reading }
    else { s with pollThread := .polling }.record (.zsockPoll s.fd sysForeverMs s.client.transport)
  | _ => s

/-- `zsock_poll` returns to the poll thread; only a result of 0 sends it back to `wait`. -/
def pollReturns (s : State) (poll : PollResult) : State :=
  match s.pollThread with
  | .polling => { s with pollThread := if poll.code ≠ 0 then .reading else .waiting }
  | _ => s

/-- The poll thread calls `mqtt_input`, and returns for good on an error. -/
def pollReads (s : State) (input : InputResult) : State :=
  match s.pollThread with
  | .reading =>
    let (rc, s) := mqttInput s input
    { s with pollThread := if rc < 0 then .returned else .waiting }
  | _ => s

inductive Step where
  | publish (topic payload : Text) (retain : Bool) (env : PublishEnv)
  | subscribe (subs : List Subscription) (env : SubscribeEnv)
  | pollCalls
  | pollReturns (poll : PollResult)
  | pollReads (input : InputResult)
  | keepaliveExpires (ping : Option Errno)
  | serverDisconnects

/-- A step, with the result it returns to `main` when it is a call of the interface. -/
def perform (s : State) : Step → Option Int × State
  | .publish topic payload retain env =>
    let (ret, s) := mqttPublishToTopic s topic payload retain env
    (some ret, s)
  | .subscribe subs env =>
    let (ret, s) := mqttSubscribeToTopic s subs env
    (some ret, s)
  | .pollCalls => (none, Mqtt.pollCalls s)
  | .pollReturns poll => (none, Mqtt.pollReturns s poll)
  | .pollReads input => (none, Mqtt.pollReads s input)
  | .keepaliveExpires ping => (none, Mqtt.keepaliveExpires s ping)
  | .serverDisconnects => (none, s.record .serverDisconnects)

def step (s : State) (action : Step) : State := (perform s action).2

def booted (channelId : Int) (devId lastWillTopic lastWillMessage : Text) : State :=
  mqttInit (mqttWatchdogInit {} channelId) devId lastWillTopic lastWillMessage

end AirQuality.Mqtt
