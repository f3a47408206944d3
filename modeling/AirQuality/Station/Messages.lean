import AirQuality.Mqtt.Delivery
import AirQuality.Station.Availability
import AirQuality.Station.Readings

/-!
# The messages of a station

What the network takes from a station, in order: the registration of each sensor, the availability, the
watchdog sensor's state, and then exactly what the sampling loop counts as published.
-/

namespace AirQuality.Station
open Foundation Ha Uid

def sentAs (param : Mqtt.PublishParam) : Ha.Sent := ⟨param.topic, param.payload, param.retainFlag⟩

def messages (calls : List Mqtt.Call) : List Ha.Sent := (Mqtt.accepted calls).map sentAs

/-- From `s` to `t` the client has got through what `sent` lists, and no other message. -/
structure Sends (sent : List Ha.Sent) (s t : Mqtt.State) : Prop where
  phases : Mqtt.Phases s t
  messages : messages t.calls = messages s.calls ++ sent

theorem sends_refl (s : Mqtt.State) : Sends [] s s := ⟨.refl, by simp⟩

theorem Sends.trans {first second : List Ha.Sent} {s t u : Mqtt.State} (before : Sends first s t)
    (after : Sends second t u) : Sends (first ++ second) s u :=
  ⟨before.phases.trans after.phases, by rw [after.messages, before.messages, List.append_assoc]⟩

theorem Sends.silent {s t u : Mqtt.State} (before : Sends [] s t) {sent : List Ha.Sent} (after : Sends sent t u) :
    Sends sent s u := before.trans after

theorem World.publish_sends {w : World} (consistent : Mqtt.Consistent w.mqtt) (topic payload : Text) (retain : Bool) :
    Sends (if (World.publish topic payload retain w).1 < 0 then [] else [⟨topic, payload, retain⟩]) w.mqtt
      (World.publish topic payload retain w).2.mqtt := by
  obtain ⟨param, ⟨rfl, rfl, rfl⟩, once⟩ := World.publish_once consistent topic payload retain
  refine ⟨once.phases, ?_⟩
  unfold messages
  rw [once.accepted_eq, List.map_append]
  rcases once.result with zero | negative
  · rw [if_pos zero, if_neg (by omega)]
    rfl
  · rw [if_neg (by omega), if_pos negative]
    rfl

/-- The callers of a publish pass a failure on and return 0 otherwise. -/
theorem Sends.passed_on {sent : List Ha.Sent} {s : Mqtt.State} {answer : Int × World}
    (sends : Sends (if answer.1 < 0 then [] else sent) s answer.2.mqtt) :
    let (ret, net) := answer
    let result := if ret < 0 then (ret, net) else (0, net)
    Sends (if result.1 < 0 then [] else sent) s result.2.mqtt := by
  obtain ⟨ret, net⟩ := answer
  dsimp only at sends ⊢
  split
  · rename_i failed
    simpa only [failed, if_true] using sends
  · rename_i succeeded
    simpa only [succeeded, if_false, lt_irrefl] using sends

/-- The message that registers a sensor. -/
def discovery (platform : Platform) (ha : HomeAssistant) (sensor : HaSensor) : Ha.Sent where
  topic := storedDiscoveryTopic sensor
  payload := (encodeConfig platform sensor.type (announcedConfig platform ha sensor)).2
  retain := true

theorem haRegisterSensor_sends (platform : Platform) (ha : HomeAssistant) (sensor : HaSensor) {w : World}
    (consistent : Mqtt.Consistent w.mqtt) :
    Sends (if (haRegisterSensor World.publish platform ha sensor w).1 < 0 then [] else [discovery platform ha sensor])
      w.mqtt (haRegisterSensor World.publish platform ha sensor w).2.2.mqtt := by
  rw [haRegisterSensor_eq]
  unfold haSendDiscovery
  by_cases refused : (encodeConfig platform sensor.type (announcedConfig platform ha sensor)).1 < 0
  · simp only [refused, if_true]
    exact sends_refl _
  · simp only [refused, if_false]
    exact (World.publish_sends consistent _ _ true).passed_on

/-! ### Retrying -/

/-- A retry loop that does not return has only seen attempts that failed. -/
theorem retry_exhausted {τ : Type*} {attempt : τ → Int × τ} {Inv : τ → Prop}
    (keep : ∀ t, Inv t → (attempt t).1 < 0 → Inv (attempt t).2) {patience : Nat} {t : τ} (start : Inv t)
    (exhausted : (retry attempt patience t).1 = false) : Inv (retry attempt patience t).2 := by
  induction patience generalizing t with
  | zero => exact start
  | succ patience ih =>
    unfold retry at exhausted ⊢
    dsimp only at exhausted ⊢
    split at exhausted
    · rename_i failed
      rw [if_pos failed]
      exact ih (keep t start failed) exhausted
    · cases exhausted

/-- The sensor of a registration in progress is the declared one, but for the topic it gets. -/
def SameButTopic (sensor registered : HaSensor) : Prop :=
  registered = { sensor with fullStateTopic := registered.fullStateTopic }

theorem SameButTopic.discovery {sensor registered : HaSensor} (same : SameButTopic sensor registered)
    (platform : Platform) (ha : HomeAssistant) : discovery platform ha registered = discovery platform ha sensor := by
  rw [same]
  rfl

theorem SameButTopic.register {sensor registered : HaSensor} (same : SameButTopic sensor registered)
    (platform : Platform) (ha : HomeAssistant) (w : World) :
    (haRegisterSensor World.publish platform ha registered w).2.1 =
      { sensor with fullStateTopic := storedStateTopic ha.mqttBasePath sensor } := by
  rw [haRegisterSensor_eq, same]
  rfl

section Register
variable (platform : Platform) (ha : HomeAssistant)

/-- Attempts to register a sensor that have failed so far. -/
structure Registering (sensor : HaSensor) (start : Mqtt.State) (x : HaSensor × World) : Prop where
  same : SameButTopic sensor x.1
  sends : Sends [] start x.2.mqtt

theorem Registering.failed {sensor : HaSensor} {start : Mqtt.State} (consistent : Mqtt.Consistent start)
    {x : HaSensor × World} (registering : Registering sensor start x)
    (failed : (haRegisterSensor World.publish platform ha x.1 x.2).1 < 0) :
    Registering sensor start (haRegisterSensor World.publish platform ha x.1 x.2).2 := by
  have sends := haRegisterSensor_sends platform ha x.1 (registering.sends.phases.consistent consistent)
  rw [if_pos failed] at sends
  refine ⟨?_, registering.sends.silent sends⟩
  have same := registering.same.register platform ha x.2
  exact same.trans (by rw [same])

/-- The sensors after the registration of `todo`. -/
def registeredSensors (todo : List SensorId) (sensors : SensorId → HaSensor) (sensor : SensorId) : HaSensor :=
  if sensor ∈ todo then
    { sensors sensor with fullStateTopic := storedStateTopic ha.mqttBasePath (sensors sensor) }
  else sensors sensor

theorem registerAll_sends (patience : SensorId → Nat) (todo : List SensorId) (distinct : todo.Nodup)
    {sensors : SensorId → HaSensor} {w : World} (consistent : Mqtt.Consistent w.mqtt) :
    let result := registerAll World.publish platform ha patience todo sensors w
    (result.1 = true → result.2.1 = registeredSensors ha todo sensors) ∧
      ∃ sent rest, Sends sent w.mqtt result.2.2.mqtt ∧ (result.1 = true → rest = []) ∧
        sent ++ rest = todo.map fun sensor => discovery platform ha (sensors sensor) := by
  induction todo generalizing sensors w with
  | nil => exact ⟨fun _ => by funext sensor; simp [registeredSensors, registerAll], [], [], sends_refl _, fun _ => rfl, rfl⟩
  | cons sensor rest ih =>
    rw [List.nodup_cons] at distinct
    have fails : ∀ x : HaSensor × World, Registering (sensors sensor) w.mqtt x →
        (haRegisterSensor World.publish platform ha x.1 x.2).1 < 0 →
        Registering (sensors sensor) w.mqtt (haRegisterSensor World.publish platform ha x.1 x.2).2 :=
      fun x registering failed => registering.failed platform ha consistent failed
    have start : Registering (sensors sensor) w.mqtt (sensors sensor, w) := ⟨rfl, sends_refl _⟩
    unfold registerAll
    dsimp only
    cases finished : (retry (fun (x : HaSensor × World) => haRegisterSensor World.publish platform ha x.1 x.2)
      (patience sensor) (sensors sensor, w)).1 with
    | false =>
      have stuck := retry_exhausted fails start finished
      simp only [Bool.false_eq_true, if_false, false_implies, true_and]
      exact ⟨[], _, stuck.sends, rfl⟩
    | true =>
      obtain ⟨last, registering, succeeded, same⟩ := retry_returned fails start finished
      have held := registering.sends.phases.consistent consistent
      have sends := haRegisterSensor_sends platform ha last.1 held
      rw [if_neg succeeded, registering.same.discovery platform ha] at sends
      have first := registering.sends.silent sends
      have registered := registering.same.register platform ha last.2
      simp only [if_true, same, registered]
      have others : ∀ other ∈ rest, Function.update sensors sensor
          { sensors sensor with fullStateTopic := storedStateTopic ha.mqttBasePath (sensors sensor) } other =
          sensors other := by
        intro other member
        refine Function.update_of_ne ?_ _ _
        rintro rfl
        exact distinct.1 member
      obtain ⟨stored, sent, left, later, nothing, all⟩ := ih distinct.2 (first.phases.consistent consistent)
      refine ⟨fun returned => ?_, _, left, first.trans later, nothing, ?_⟩
      · rw [stored returned]
        funext other
        unfold registeredSensors
        by_cases this : other = sensor
        · rw [this, if_neg distinct.1, if_pos List.mem_cons_self, Function.update_self]
        · by_cases member : other ∈ rest
          · rw [if_pos member, if_pos (List.mem_cons_of_mem _ member), others other member]
          · rw [if_neg member, if_neg (by simp [this, member]), Function.update_of_ne this]
      · rw [List.append_assoc, all, List.map_cons, List.singleton_append]
        refine congrArg (_ :: ·) (List.map_congr_left fun other member => ?_)
        rw [others other member]

end Register

theorem setOnline_sends (ha : HomeAssistant) (patience : Nat) {w : World} (consistent : Mqtt.Consistent w.mqtt) :
    let result := retry (haSetOnline World.publish ha) patience w
    Sends (if result.1 then [⟨ha.lastWillTopic, onlineMessage, true⟩] else []) w.mqtt result.2.mqtt := by
  have attempt : ∀ u : World, Mqtt.Consistent u.mqtt →
      Sends (if (haSetOnline World.publish ha u).1 < 0 then [] else [⟨ha.lastWillTopic, onlineMessage, true⟩]) u.mqtt
        (haSetOnline World.publish ha u).2.mqtt := by
    intro u held
    exact (World.publish_sends held ha.lastWillTopic onlineMessage true).passed_on
  have fails : ∀ u : World, Sends [] w.mqtt u.mqtt → (haSetOnline World.publish ha u).1 < 0 →
      Sends [] w.mqtt (haSetOnline World.publish ha u).2.mqtt := by
    intro u before failed
    have sends := attempt u (before.phases.consistent consistent)
    rw [if_pos failed] at sends
    exact before.silent sends
  intro result
  cases returned : result.1 with
  | false => exact retry_exhausted fails (sends_refl _) returned
  | true =>
    obtain ⟨last, before, succeeded, same⟩ := retry_returned fails (sends_refl _) returned
    have sends := attempt last (before.phases.consistent consistent)
    rw [if_neg succeeded] at sends
    rw [show result.2 = _ from same]
    exact before.silent sends

/-- The sensors as `uid_fill_unique_ids` leaves them. -/
def Deployment.sensor (station : Deployment) (sensor : SensorId) : HaSensor :=
  { declared sensor with uniqueId := station.identity.ids sensor }

def Deployment.stateTopic (station : Deployment) (sensor : SensorId) : Text :=
  storedStateTopic station.identity.homeAssistant.mqttBasePath (station.sensor sensor)

/-- The messages that register the sensors. -/
def Deployment.registrations (station : Deployment) : List Ha.Sent :=
  SensorId.all.map fun sensor => discovery station.platform station.identity.homeAssistant (station.sensor sensor)

def Deployment.availability (station : Deployment) : Ha.Sent := ⟨station.identity.willTopic, onlineMessage, true⟩

/-! ### The sampling loop -/

section Network
variable {σ : Type*} (publish : Publish σ)

def statePayload (state : Bool) : Text := if state then "ON".toList else "OFF".toList

theorem sendBinarySensorState_eq (sensor : SensorId) (s : App σ) :
    let payload := statePayload (s.sensors sensor).binaryState
    let (ret, net) := publish (s.sensors sensor).fullStateTopic payload (s.sensors sensor).retain s.net
    sendBinarySensorState publish sensor s =
      (if ret < 0 then ret else 0, { s with net, events := s.events ++ [.published sensor payload ret] }) := by
  unfold sendBinarySensorState haSendBinarySensorState recorded statePayload
  generalize (if (s.sensors sensor).binaryState then "ON".toList else "OFF".toList) = payload
  dsimp only
  split <;> rfl

/-- A value goes out as one recorded publish, if there is any. -/
theorem sendSensorValue_net (s : App σ) (sensor : SensorId) :
    ((sendSensorValue publish s sensor).2.net = s.net ∧ (sendSensorValue publish s sensor).2.events = s.events) ∨
      ∃ payload, ((sendSensorValue publish s sensor).2.net, (sendSensorValue publish s sensor).2.events) =
        (recorded publish sensor (s.sensors sensor).fullStateTopic payload (s.sensors sensor).retain
          (s.net, s.events)).2 := by
  by_cases empty : (s.sensors sensor).numberOfValues = 0
  · rw [sendSensorValue, haSendSensorValue_empty _ empty]
    exact Or.inl ⟨rfl, rfl⟩
  · rw [sendSensorValue, haSendSensorValue_pending _ empty]
    dsimp only
    refine Or.inr ⟨(valueString ((s.sensors sensor).totalValue / (s.sensors sensor).numberOfValues)).2, ?_⟩
    split <;> rfl

/-- Sending a value changes nothing of a sensor but its readings. -/
theorem sendSensorValue_keeps (s : App σ) (sensor other : SensorId) :
    ∃ total number, (sendSensorValue publish s sensor).2.sensors other =
      { s.sensors other with totalValue := total, numberOfValues := number } := by
  rcases sendSensorValue_cases publish s sensor with ⟨_, same⟩ | ⟨_, ret, net, updated, same, outcome⟩
  · rw [same]
    exact ⟨_, _, rfl⟩
  · rw [same]
    dsimp only
    by_cases this : other = sensor
    · subst this
      rw [Function.update_self]
      rcases outcome with ⟨_, _, rfl⟩ | ⟨_, _, rfl⟩
      · exact ⟨_, _, rfl⟩
      · exact ⟨0, 0, rfl⟩
    · rw [Function.update_of_ne this]
      exact ⟨_, _, rfl⟩

end Network

/-- The message of a publish that succeeded, on the topic of its sensor. -/
def Event.message (topics : SensorId → Text) : Event → Option Ha.Sent
  | .added _ _ => none
  | .published sensor payload ret =>
    if ret < 0 then none else some ⟨topics sensor, payload, (declared sensor).retain⟩

/-- The sensors publish on `topics`, with the retain flags they are declared with. -/
def PublishOn (topics : SensorId → Text) (sensors : SensorId → HaSensor) : Prop :=
  ∀ sensor, (sensors sensor).fullStateTopic = topics sensor ∧ (sensors sensor).retain = (declared sensor).retain

theorem PublishOn.update {topics : SensorId → Text} {sensors : SensorId → HaSensor} (on : PublishOn topics sensors)
    {sensor : SensorId} {updated : HaSensor} (topic : updated.fullStateTopic = (sensors sensor).fullStateTopic)
    (retain : updated.retain = (sensors sensor).retain) : PublishOn topics (Function.update sensors sensor updated) := by
  intro other
  by_cases this : other = sensor
  · rw [this, Function.update_self, topic, retain]
    exact on sensor
  · rw [Function.update_of_ne this]
    exact on other

theorem PublishOn.sends {topics : SensorId → Text} {s : App World} (on : PublishOn topics s.sensors)
    (consistent : Mqtt.Consistent s.net.mqtt) (sensor : SensorId) (payload : Text) :
    let answer := World.publish (s.sensors sensor).fullStateTopic payload (s.sensors sensor).retain s.net
    Sends (if answer.1 < 0 then [] else [⟨topics sensor, payload, (declared sensor).retain⟩]) s.net.mqtt answer.2.mqtt := by
  rw [(on sensor).1, (on sensor).2]
  exact World.publish_sends consistent _ payload _

/-- Since `start` the network has taken the messages of the recorded publishes that succeeded. -/
structure Counted (topics : SensorId → Text) (start : Mqtt.State) (s : App World) : Prop where
  on : PublishOn topics s.sensors
  sends : Sends (s.events.filterMap (Event.message topics)) start s.net.mqtt

section Counted
variable {topics : SensorId → Text} {start : Mqtt.State} (consistent : Mqtt.Consistent start)
include consistent

theorem Counted.recorded {s : App World} (counted : Counted topics start s) (sensor : SensorId) (payload : Text) :
    let answer := Station.recorded World.publish sensor (s.sensors sensor).fullStateTopic payload
      (s.sensors sensor).retain (s.net, s.events)
    Sends (answer.2.2.filterMap (Event.message topics)) start answer.2.1.mqtt := by
  have sends := counted.on.sends (counted.sends.phases.consistent consistent) sensor payload
  unfold Station.recorded
  dsimp only at sends ⊢
  rw [List.filterMap_append]
  refine counted.sends.trans ?_
  rw [List.filterMap_cons, List.filterMap_nil, Event.message]
  split at sends
  · rename_i failed
    simpa only [failed, if_true] using sends
  · rename_i succeeded
    simpa only [succeeded, if_false] using sends

theorem counted_rule : LoopInvariant World.publish (Counted topics start) where
  control _ _ _ counted := ⟨counted.on, counted.sends⟩
  add {s sensor} value _ counted := by
    refine ⟨counted.on.update rfl rfl, ?_⟩
    have silent : (s.events ++ [Event.added sensor value]).filterMap (Event.message topics) =
        s.events.filterMap (Event.message topics) := by simp [Event.message]
    show Sends ((s.events ++ [Event.added sensor value]).filterMap _) start s.net.mqtt
    rw [silent]
    exact counted.sends
  set _ counted := ⟨counted.on.update rfl rfl, counted.sends⟩
  send {s sensor} _ counted := by
    refine ⟨?_, ?_⟩
    · intro other
      obtain ⟨total, number, same⟩ := sendSensorValue_keeps World.publish s sensor other
      rw [same]
      exact counted.on other
    · rcases sendSensorValue_net World.publish s sensor with ⟨net, events⟩ | ⟨payload, sent⟩
      · rw [net, events]
        exact counted.sends
      · obtain ⟨net, events⟩ := Prod.mk.inj sent
        rw [net, events]
        exact counted.recorded consistent sensor payload
  announce {s} counted := by
    rw [sendBinarySensorState_eq]
    exact ⟨counted.on, counted.recorded consistent .watchdogTriggered _⟩

end Counted

theorem sendBinarySensorState_sends {topics : SensorId → Text} {s : App World} (on : PublishOn topics s.sensors)
    (consistent : Mqtt.Consistent s.net.mqtt) :
    let result := sendBinarySensorState World.publish .watchdogTriggered s
    Sends (if result.1 < 0 then [] else
      [⟨topics .watchdogTriggered, statePayload (s.sensors .watchdogTriggered).binaryState, true⟩]) s.net.mqtt
      result.2.net.mqtt := by
  have sends := (on.sends consistent .watchdogTriggered
    (statePayload (s.sensors .watchdogTriggered).binaryState)).passed_on
  rw [sendBinarySensorState_eq]
  dsimp only at sends ⊢
  split at sends
  · rename_i failed
    simp only [failed, if_true] at sends ⊢
    exact sends
  · rename_i succeeded
    simp only [succeeded, if_false] at sends ⊢
    exact sends

/-- The state is announced by one message, or the loop is not reached. It starts without events. -/
theorem announce_sends {topics : SensorId → Text} (identity : Identity) (patience : Patience) {s : App World}
    (on : PublishOn topics s.sensors) (consistent : Mqtt.Consistent s.net.mqtt) :
    let t := announce World.publish identity patience s
    Sends (if t.blocked then [] else [⟨topics .watchdogTriggered, statePayload identity.watchdogTriggered, true⟩])
      s.net.mqtt t.net.mqtt ∧ Counted topics t.net.mqtt t := by
  intro t
  let start := setWatchdogSensor s identity.watchdogTriggered
  have set : PublishOn topics start.sensors := on.update rfl rfl
  have state : (start.sensors .watchdogTriggered).binaryState = identity.watchdogTriggered := by
    show (Function.update s.sensors _ _ _).binaryState = _
    rw [Function.update_self]
    rfl
  let Trying (u : App World) : Prop := u.sensors = start.sensors ∧ Sends [] s.net.mqtt u.net.mqtt
  have attempt : ∀ u, Trying u →
      (sendBinarySensorState World.publish .watchdogTriggered u).2.sensors = start.sensors ∧
      Sends (if (sendBinarySensorState World.publish .watchdogTriggered u).1 < 0 then [] else
        [⟨topics .watchdogTriggered, statePayload identity.watchdogTriggered, true⟩]) s.net.mqtt
        (sendBinarySensorState World.publish .watchdogTriggered u).2.net.mqtt := by
    rintro u ⟨same, before⟩
    have sends := sendBinarySensorState_sends (by rw [same]; exact set) (before.phases.consistent consistent)
    rw [same, state] at sends
    exact ⟨same, before.silent sends⟩
  have fails : ∀ u, Trying u → (sendBinarySensorState World.publish .watchdogTriggered u).1 < 0 →
      Trying (sendBinarySensorState World.publish .watchdogTriggered u).2 := by
    intro u trying failed
    obtain ⟨same, sends⟩ := attempt u trying
    rw [if_pos failed] at sends
    exact ⟨same, sends⟩
  have trying : Trying start := ⟨rfl, sends_refl _⟩
  have blocked : t.blocked =
      !(retry (sendBinarySensorState World.publish .watchdogTriggered) patience.announce start).1 := rfl
  have net : t.net = (retry (sendBinarySensorState World.publish .watchdogTriggered) patience.announce start).2.net := rfl
  have sensors : t.sensors =
      (retry (sendBinarySensorState World.publish .watchdogTriggered) patience.announce start).2.sensors := rfl
  cases returned : (retry (sendBinarySensorState World.publish .watchdogTriggered) patience.announce start).1 with
  | false =>
    obtain ⟨same, sends⟩ := retry_exhausted fails trying returned
    have on : PublishOn topics t.sensors := by
      rw [sensors, same]
      exact set
    rw [blocked, returned, net]
    exact ⟨sends, on, sends_refl _⟩
  | true =>
    obtain ⟨last, held, succeeded, result⟩ := retry_returned fails trying returned
    obtain ⟨same, sends⟩ := attempt last held
    have on : PublishOn topics t.sensors := by
      rw [sensors, result, same]
      exact set
    rw [if_neg succeeded] at sends
    refine ⟨?_, on, sends_refl _⟩
    rw [blocked, returned, net, result]
    exact sends

/-! ### Runs -/

/-- The sampling loop is reached. -/
def Deployment.announced (station : Deployment) : Bool :=
  !(announce World.publish station.identity station.patience station.online.2).blocked

def Deployment.announcement (station : Deployment) : Ha.Sent :=
  ⟨station.stateTopic .watchdogTriggered, statePayload station.identity.watchdogTriggered, true⟩

/-- What is sent after the registrations, when the sampling loop has made `events`. -/
def Deployment.afterRegistering (station : Deployment) (events : List Event) : List Ha.Sent :=
  station.availability :: (if station.announced then [station.announcement] else []) ++
    events.filterMap (Event.message station.stateTopic)

/-- What has been sent when `set_online_retry` has returned, and what at most if it is not reached. -/
def Deployment.Registers (station : Deployment) : Bool × App World → Prop
  | (true, s) => Sends (station.registrations ++ [station.availability]) station.booted s.net.mqtt ∧
      PublishOn station.stateTopic s.sensors
  | (false, s) => ∃ sent rest, Sends sent station.booted s.net.mqtt ∧ sent ++ rest = station.registrations

theorem online_registers (station : Deployment) : station.Registers station.online := by
  have registers := @registerAll_sends station.platform station.identity.homeAssistant station.patience.register
    SensorId.all (by decide) (fun sensor => { declared sensor with uniqueId := station.identity.ids sensor })
    { mqtt := station.booted, moments := station.moments } station.booted_consistent
  rw [online_eq]
  dsimp only at registers ⊢
  generalize registerAll World.publish station.platform _ station.patience.register SensorId.all _ _ = result at *
  obtain ⟨registered, sensors, net⟩ := result
  obtain ⟨stored, sent, rest, sends, all, same⟩ := registers
  cases registered with
  | false => exact ⟨sent, rest, sends, same⟩
  | true =>
    obtain rfl := all rfl
    rw [List.append_nil] at same
    obtain rfl : sensors = registeredSensors station.identity.homeAssistant SensorId.all station.sensor := stored rfl
    have online := setOnline_sends station.identity.homeAssistant station.patience.online
      (sends.phases.consistent station.booted_consistent)
    simp only [Bool.not_true, Bool.false_eq_true, if_false]
    dsimp only at online
    generalize retry (haSetOnline World.publish station.identity.homeAssistant) station.patience.online net = attempts at *
    obtain ⟨returned, net⟩ := attempts
    have total := sends.trans online
    cases returned with
    | false =>
      refine ⟨sent, [], ?_, by rw [List.append_nil]; exact same⟩
      simpa using total
    | true =>
      refine ⟨?_, ?_⟩
      · rw [← show sent = station.registrations from same]
        exact total
      · intro sensor
        simp only [registeredSensors, mem_all, if_true]
        exact ⟨rfl, rfl⟩

theorem run_offline_app {station : Deployment} (offline : station.online.1 = false) (turns : List Turn) :
    station.run turns = { station.online.2 with blocked := true } := by
  unfold Deployment.online at offline ⊢
  unfold Deployment.run main
  simp only [offline, Bool.not_false, if_true]

theorem online_events (station : Deployment) : station.online.2.events = [] := by
  unfold Deployment.online goOnline
  dsimp only
  split <;> rfl

/-- A station that does not get past `set_online_retry` has sent some of its registrations. -/
theorem offline_sends {station : Deployment} (offline : station.online.1 = false) (turns : List Turn) :
    ∃ sent rest, Sends sent station.booted (station.run turns).net.mqtt ∧ sent ++ rest = station.registrations := by
  have sends := online_registers station
  rw [← Prod.eta station.online, offline] at sends
  rw [run_offline_app offline turns]
  exact sends

/-- A station that gets past `set_online_retry` sends what the loop counts as published after that. -/
theorem online_sends {station : Deployment} (online : station.online.1 = true) (turns : List Turn) :
    Sends (station.registrations ++ station.afterRegistering (station.run turns).events) station.booted
      (station.run turns).net.mqtt := by
  have sends := online_registers station
  rw [← Prod.eta station.online, online] at sends
  obtain ⟨sends, on⟩ := sends
  have held := sends.phases.consistent station.booted_consistent
  obtain ⟨announced, counted⟩ := announce_sends station.identity station.patience on held
  have sampled := (counted_rule (announced.phases.consistent held)).run counted turns
  rw [← run_online online turns] at sampled
  have all := (sends.trans announced).trans sampled.sends
  rw [List.append_assoc, List.append_assoc] at all
  unfold Deployment.afterRegistering Deployment.announced
  cases blocked : (announce World.publish station.identity station.patience station.online.2).blocked with
  | false | true =>
    rw [blocked] at all
    exact all

theorem sends_from_booted {sent : List Ha.Sent} {station : Deployment} {t : Mqtt.State}
    (sends : Sends sent station.booted t) : messages t.calls = sent := by
  have booted : messages station.booted.calls = [] := rfl
  rw [sends.messages, booted, List.nil_append]

/-- The network takes the registrations in order, then the availability, then the watchdog sensor's state, and then
what the sampling loop counts as published, and nothing else. -/
theorem messages_in_order (station : Deployment) (turns : List Turn) :
    let s := station.run turns
    if station.online.1 then
      messages s.net.mqtt.calls = station.registrations ++ station.afterRegistering s.events
    else messages s.net.mqtt.calls <+: station.registrations := by
  intro s
  cases online : station.online.1 with
  | false =>
    obtain ⟨sent, rest, sends, all⟩ := offline_sends online turns
    rw [if_neg Bool.false_ne_true, sends_from_booted sends, ← all]
    exact List.prefix_append sent rest
  | true => exact sends_from_booted (online_sends online turns)

end AirQuality.Station
