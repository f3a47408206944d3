import AirQuality.Ha.Topics
import AirQuality.Mqtt.Retained
import AirQuality.Station.World

/-!
# Availability

The station announces itself once, before it samples, and whatever it publishes after that goes to its
sensors' topics. An implicit reconnection does not announce it again.
-/

namespace AirQuality.Station
open Foundation Ha Uid

def Identity.deviceId (identity : Identity) : Text := bin2hex identity.cpu

theorem deviceId_fits (identity : Identity) : 22 + identity.deviceId.length < haTopicBufferSize := by
  have length := length_bin2hex identity.cpu
  rw [identity.cpu_length] at length
  rw [Identity.deviceId, length]
  decide

theorem declared_known (sensor : SensorId) : Known (declared sensor).type := by
  cases sensor
  case watchdogTriggered => exact Or.inr rfl
  all_goals exact Or.inl rfl

def Identity.willTopic (identity : Identity) : Text := lastWillTopic identity.deviceId

def Identity.will (identity : Identity) : Testament Text Text := ⟨identity.willTopic, lastWillMessage, true⟩

theorem will_revokes (identity : Identity) : Broker.Revokes identity.will identity.willTopic onlineMessage :=
  ⟨rfl, lastWillMessage_ne, rfl⟩

/-! ### Getting on -/

/-- The client gets from `s` to `t` and no publish to `topic` gets through. -/
structure Onward (topic : Text) (s t : Mqtt.State) : Prop where
  phases : Mqtt.Phases s t
  elsewhere : Mqtt.Extends (Mqtt.Call.Elsewhere topic) s t

theorem onward_refl (topic : Text) (s : Mqtt.State) : Onward topic s s := ⟨.refl, Mqtt.extends_refl _ s⟩

theorem Onward.trans {topic : Text} {s t u : Mqtt.State} (first : Onward topic s t) (second : Onward topic t u) :
    Onward topic s u :=
  ⟨first.phases.trans second.phases, first.elsewhere.trans second.elsewhere⟩

section Onward
variable {topic : Text} {start : Mqtt.State} (consistent : Mqtt.Consistent start)
include consistent

theorem Onward.publish {w : World} (onward : Onward topic start w.mqtt) {other payload : Text} {retain : Bool}
    (misses : other ≠ topic ∨ (World.publish other payload retain w).1 < 0) :
    Onward topic start (World.publish other payload retain w).2.mqtt := by
  obtain ⟨param, ⟨sentTo, _⟩, once⟩ := World.publish_once (onward.phases.consistent consistent) other payload retain
  refine onward.trans ⟨once.phases, once.own.mono fun call own => own.mono ?_⟩
  rintro given code ⟨rfl, vain⟩ zero
  rw [sentTo]
  refine misses.resolve_right ?_
  have returned := vain zero
  omega

theorem Onward.register {platform : Platform} {ha : HomeAssistant} {w : World} (onward : Onward topic start w.mqtt)
    {sensor : HaSensor} (away : storedDiscoveryTopic sensor ≠ topic) :
    Onward topic start (haRegisterSensor World.publish platform ha sensor w).2.2.mqtt := by
  rcases (haRegisterSensor_spec World.publish platform ha sensor w).2 with same | ⟨config, same⟩
  · rw [same]
    exact onward
  · rw [same]
    exact onward.publish consistent (Or.inl away)

theorem Onward.registerAll {identity : Identity} {platform : Platform} {ha : HomeAssistant}
    (base : ha.mqttBasePath = mqttBasePath identity.deviceId) (patience : SensorId → Nat) (todo : List SensorId)
    {sensors : SensorId → HaSensor} {w : World} (onward : Onward identity.willTopic start w.mqtt)
    (known : ∀ sensor, Known (sensors sensor).type)
    (done : ∀ sensor, sensor ∈ todo ∨ (sensors sensor).fullStateTopic ≠ identity.willTopic)
    (returned : (registerAll World.publish platform ha patience todo sensors w).1 = true) :
    Onward identity.willTopic start (registerAll World.publish platform ha patience todo sensors w).2.2.mqtt ∧
      ∀ sensor, ((registerAll World.publish platform ha patience todo sensors w).2.1 sensor).fullStateTopic ≠
        identity.willTopic := by
  induction todo generalizing sensors w with
  | nil => exact ⟨onward, fun sensor => (done sensor).resolve_left List.not_mem_nil⟩
  | cons sensor rest ih =>
    unfold Station.registerAll at returned ⊢
    dsimp only at returned ⊢
    cases finished : (retry (fun (x : HaSensor × World) => haRegisterSensor World.publish platform ha x.1 x.2)
      (patience sensor) (sensors sensor, w)).1 with
    | false =>
      simp only [finished, Bool.false_eq_true, if_false] at returned
    | true =>
      let Inv (x : HaSensor × World) : Prop := Known x.1.type ∧ Onward identity.willTopic start x.2.mqtt
      have registers : ∀ x : HaSensor × World, Inv x → Inv (haRegisterSensor World.publish platform ha x.1 x.2).2 := by
        rintro x ⟨known, held⟩
        refine ⟨?_, held.register consistent (storedDiscoveryTopic_ne x.1 identity.deviceId)⟩
        rw [(haRegisterSensor_spec World.publish platform ha x.1 x.2).1]
        exact known
      obtain ⟨last, held, _, same⟩ := retry_returned (fun x held _ => registers x held) ⟨known sensor, onward⟩ finished
      simp only [finished, if_true, same] at returned ⊢
      obtain ⟨registered, got⟩ := registers last held
      refine ih got ?_ ?_ returned
      · intro other
        by_cases this : other = sensor
        · rw [this, Function.update_self]
          exact registered
        · rw [Function.update_of_ne this]
          exact known other
      · intro other
        by_cases this : other = sensor
        · refine Or.inr ?_
          rw [this, Function.update_self, (haRegisterSensor_spec World.publish platform ha last.1 last.2).1, base]
          exact storedStateTopic_ne identity.deviceId (deviceId_fits identity) held.1
        · rw [Function.update_of_ne this]
          exact (done other).imp_left fun member => (List.mem_cons.mp member).resolve_left this

theorem Onward.setOnline {ha : HomeAssistant} (ontopic : ha.lastWillTopic = topic) {patience : Nat} {w : World}
    (onward : Onward topic start w.mqtt) (returned : (retry (haSetOnline World.publish ha) patience w).1 = true) :
    Mqtt.Phases start (retry (haSetOnline World.publish ha) patience w).2.mqtt ∧
      ∃ before param, (retry (haSetOnline World.publish ha) patience w).2.mqtt.calls =
          start.calls ++ before ++ [.mqttPublish param true 0] ∧
        (param.topic = topic ∧ param.payload = onlineMessage ∧ param.retainFlag = true) ∧
        ∀ call ∈ before, call.Elsewhere topic := by
  have attempt : ∀ w, haSetOnline World.publish ha w =
      let (ret, net) := World.publish topic onlineMessage true w
      if ret < 0 then (ret, net) else (0, net) := by
    intro w
    unfold haSetOnline
    rw [ontopic]
  have fails : ∀ w, Onward topic start w.mqtt → (haSetOnline World.publish ha w).1 < 0 →
      Onward topic start (haSetOnline World.publish ha w).2.mqtt := by
    intro w held failed
    rw [attempt] at failed ⊢
    dsimp only at failed ⊢
    split at failed
    · rename_i negative
      rw [if_pos negative]
      exact held.publish consistent (Or.inr negative)
    · cases failed
  obtain ⟨last, held, succeeded, same⟩ := retry_returned fails onward returned
  rw [same]
  rw [attempt] at succeeded ⊢
  dsimp only at succeeded ⊢
  obtain ⟨param, carries, once⟩ :=
    World.publish_once (held.phases.consistent consistent) topic onlineMessage true
  split at succeeded
  · rename_i negative
    exact absurd negative succeeded
  · rename_i sent
    rw [if_neg sent]
    obtain ⟨earlier, same, elsewhere⟩ := held.elsewhere
    obtain ⟨before, silent, logged⟩ := once.sent (once.result.resolve_right sent)
    refine ⟨held.phases.trans once.phases, earlier ++ before, param, ?_, carries, ?_⟩
    · rw [logged, same, List.append_assoc start.calls]
    · rw [List.forall_mem_append]
      exact ⟨elsewhere, fun call member => (silent call member).mono fun _ _ impossible => impossible.elim⟩

/-- The sensors publish elsewhere, and so has the client since `start`. -/
structure PublishesElsewhere (topic : Text) (start : Mqtt.State) (s : App World) : Prop where
  topics : ∀ sensor, (s.sensors sensor).fullStateTopic ≠ topic
  onward : Onward topic start s.net.mqtt

omit consistent in
theorem update_topics {sensors : SensorId → HaSensor} (topics : ∀ sensor, (sensors sensor).fullStateTopic ≠ topic)
    {sensor : SensorId} {updated : HaSensor} (same : updated.fullStateTopic = (sensors sensor).fullStateTopic) :
    ∀ other, (Function.update sensors sensor updated other).fullStateTopic ≠ topic := by
  intro other
  by_cases this : other = sensor
  · rw [this, Function.update_self, same]
    exact topics sensor
  · rw [Function.update_of_ne this]
    exact topics other

theorem publishesElsewhere_rule : LoopInvariant World.publish (PublishesElsewhere topic start) where
  control _ _ _ held := ⟨held.topics, held.onward⟩
  add _ _ held := ⟨update_topics held.topics rfl, held.onward⟩
  set _ held := ⟨update_topics held.topics rfl, held.onward⟩
  send := by
    intro s sensor _ held
    obtain ⟨same, sent⟩ := haSendSensorValue_spec (recorded World.publish sensor) (s.sensors sensor) (s.net, s.events)
    refine ⟨update_topics held.topics same, ?_⟩
    have net : (sendSensorValue World.publish s sensor).2.net =
      (haSendSensorValue (recorded World.publish sensor) (s.sensors sensor) (s.net, s.events)).2.2.1 := rfl
    rw [net]
    rcases sent with sent | ⟨text, sent⟩
    · rw [sent]
      exact held.onward
    · rw [sent]
      exact held.onward.publish consistent (Or.inl (held.topics sensor))
  announce := by
    intro s held
    obtain ⟨payload, sent⟩ := haSendBinarySensorState_spec (recorded World.publish .watchdogTriggered)
      (s.sensors .watchdogTriggered) (s.net, s.events)
    have net : (sendBinarySensorState World.publish .watchdogTriggered s).2.net =
      (haSendBinarySensorState (recorded World.publish .watchdogTriggered) (s.sensors .watchdogTriggered)
        (s.net, s.events)).2.1 := rfl
    refine ⟨held.topics, ?_⟩
    rw [net, sent]
    exact held.onward.publish consistent (Or.inl (held.topics .watchdogTriggered))

end Onward

/-! ### The station's log -/

def Identity.booted (identity : Identity) (channelId : Int) : Mqtt.State :=
  Mqtt.booted channelId identity.deviceId identity.willTopic lastWillMessage

/-- What `ha_start` leaves in `ha.c`. -/
def Identity.homeAssistant (identity : Identity) : HomeAssistant where
  deviceIdHexString := identity.deviceId
  mqttBasePath := mqttBasePath identity.deviceId
  lastWillTopic := identity.willTopic

def Deployment.booted (station : Deployment) : Mqtt.State := station.identity.booted station.channelId

theorem Deployment.booted_consistent (station : Deployment) : Mqtt.Consistent station.booted :=
  Mqtt.booted_consistent _ _ _ _

theorem online_eq (station : Deployment) :
    station.online =
      let ha := station.identity.homeAssistant
      let (registered, sensors, net) := registerAll World.publish station.platform ha station.patience.register
        SensorId.all (fun sensor => { declared sensor with uniqueId := station.identity.ids sensor })
        { mqtt := station.booted, moments := station.moments }
      if !registered then (false, { ha, sensors, net }) else
      let (online, net) := retry (haSetOnline World.publish ha) station.patience.online net
      (online, { ha, sensors, net }) := by
  have started : (haStart World.init (bin2hex station.identity.cpu) {}
      (World.powered station.channelId station.moments)).2 =
      (station.identity.homeAssistant, { mqtt := station.booted, moments := station.moments }) :=
    haStart_fits World.init (deviceId_fits station.identity) {} _
  unfold Deployment.online goOnline
  generalize haStart World.init (bin2hex station.identity.cpu) {}
    (World.powered station.channelId station.moments) = result at *
  obtain ⟨ret, ha, net⟩ := result
  obtain ⟨rfl, rfl⟩ := Prod.mk.inj started
  rfl

structure WentOnline (station : Deployment) (s : App World) : Prop where
  topics : ∀ sensor, (s.sensors sensor).fullStateTopic ≠ station.identity.willTopic
  phases : Mqtt.Phases station.booted s.net.mqtt
  last : ∃ before param, s.net.mqtt.calls = before ++ [.mqttPublish param true 0] ∧
    (param.topic = station.identity.willTopic ∧ param.payload = onlineMessage ∧ param.retainFlag = true) ∧
    ∀ call ∈ before, call.Elsewhere station.identity.willTopic

theorem online_announces {station : Deployment} (online : station.online.1 = true) :
    WentOnline station station.online.2 := by
  have consistent := station.booted_consistent
  have all : ∀ sensor, sensor ∈ SensorId.all := by
    intro sensor
    cases sensor <;> decide
  have register := @Onward.registerAll _ consistent station.identity station.platform station.identity.homeAssistant rfl
    station.patience.register SensorId.all (fun sensor => { declared sensor with uniqueId := station.identity.ids sensor })
    { mqtt := station.booted, moments := station.moments } (onward_refl _ _) declared_known
    (fun sensor => Or.inl (all sensor))
  rw [online_eq] at online ⊢
  dsimp only at online ⊢
  generalize registerAll World.publish station.platform _ station.patience.register SensorId.all _ _ = result at *
  obtain ⟨registered, sensors, net⟩ := result
  cases registered with
  | false => cases online
  | true =>
    have ontopic : station.identity.homeAssistant.lastWillTopic = station.identity.willTopic := rfl
    obtain ⟨onward, topics⟩ := register rfl
    obtain ⟨phases, last⟩ := Onward.setOnline consistent ontopic onward online
    exact ⟨topics, phases, last⟩

/-- Every CONNECT of a run leaves the station's will with the broker. -/
theorem wills_of_phases {station : Deployment} {t : Mqtt.State} (phases : Mqtt.Phases station.booted t) :
    ∀ call ∈ t.calls, call.Wills station.identity.will := by
  have unmade : station.booted.calls = [] := rfl
  obtain ⟨_, made⟩ := phases.from station.booted_consistent (by simp [unmade])
  intro call member
  cases call with
  | mqttConnect broker client result =>
    obtain rfl : client = Mqtt.configuredClient station.booted := made _ member
    rfl
  | _ => trivial

theorem run_online {station : Deployment} (online : station.online.1 = true) (turns : List Turn) :
    station.run turns = run (iterate World.publish)
      (announce World.publish station.identity station.patience station.online.2) turns := by
  unfold Deployment.online at online ⊢
  unfold Deployment.run main
  simp only [online, Bool.not_true, Bool.false_eq_true, if_false]

theorem run_announced {station : Deployment} (online : station.online.1 = true) (turns : List Turn) :
    Mqtt.Announced station.identity.willTopic onlineMessage station.identity.will station.online.2.net.mqtt.calls
      (station.run turns).net.mqtt.calls := by
  have consistent := station.booted_consistent
  have went := online_announces online
  have rule : LoopInvariant World.publish
      (PublishesElsewhere station.identity.willTopic station.online.2.net.mqtt) :=
    publishesElsewhere_rule (went.phases.consistent consistent)
  obtain ⟨topics, onward⟩ := rule.retry ⟨went.topics, onward_refl _ _⟩ station.patience.announce
    station.identity.watchdogTriggered
  have sampled := rule.run (s := announce World.publish station.identity station.patience station.online.2)
    ⟨topics, onward⟩ turns
  rw [← run_online online turns] at sampled
  have phases : Mqtt.Phases station.booted (station.run turns).net.mqtt := went.phases.trans sampled.onward.phases
  have logged := phases.logged consistent ⟨rfl, trivial⟩
  exact ⟨logged.possible, wills_of_phases phases, went.last, sampled.onward.elsewhere⟩

theorem run_offline {station : Deployment} (offline : station.online.1 = false) (turns : List Turn) :
    (station.run turns).net.mqtt.calls = station.online.2.net.mqtt.calls := by
  unfold Deployment.online at offline ⊢
  unfold Deployment.run main
  simp only [offline, Bool.not_false, if_true]

/-- The broker holds "online" at every later publish exactly if the session of the announcement lasts. -/
theorem available_iff_uninterrupted (station : Deployment) (turns : List Turn) (retained : Text → Option Text) :
    let topic := station.identity.willTopic
    let boot := station.online.2.net.mqtt.calls
    let calls := (station.run turns).net.mqtt.calls
    (Mqtt.Uninterrupted retained boot calls → Mqtt.Available retained topic onlineMessage boot calls) ∧
    (retained topic ≠ some onlineMessage →
      Mqtt.Available retained topic onlineMessage boot calls → Mqtt.Uninterrupted retained boot calls) := by
  intro topic boot calls
  cases online : station.online.1 with
  | true =>
    have announced := run_announced online turns
    exact ⟨announced.available, announced.uninterrupted (will_revokes station.identity)⟩
  | false =>
    have same : calls = boot := run_offline online turns
    have complete : ∀ between call after, calls ≠ boot ++ (between ++ call :: after) := by
      intro between call after longer
      have length := congrArg List.length (same.symm.trans longer)
      simp only [List.length_append, List.length_cons] at length
      omega
    refine ⟨fun _ => ?_, fun _ _ => ?_⟩
    · intro between param connected after longer
      exact absurd longer (complete between _ after)
    · intro between param connected after longer
      exact absurd longer (complete between _ after)

def terse : Platform where
  jsonObjEncodeBuf _ _ _ := (0, "\x7b\x7d".toList)
  appVersionFull := "1.0.0".toList

def deskUnit : Identity where
  cpu := [0x5d, 0x1e, 0x0c, 0x7a, 0x44, 0xb2, 0xf6, 0x93]
  cpu_length := rfl
  ids sensor := fullId (partNumber sensor) (sensorName sensor) "5d1e0c7a44b2f693".toList
  watchdogTriggered := false

/-- All is answered, but before the ninth publish the poll thread finds the connection aborted. -/
def abortedOnce (number : Nat) : Moment where
  background :=
    if number = 8 then [.pollCalls, .pollReturns (.ready 1), .pollReads { failure := some Errno.econnaborted }] else []
  env := { Mqtt.answering 0 with rand := 0, result := .sent }

def desk : Deployment where
  platform := terse
  identity := deskUnit
  patience := ⟨fun _ => 1, 1, 1⟩
  channelId := 0
  moments := abortedOnce

/-- The ninth publish, of the watchdog sensor's state, reconnects and leaves "offline" retained. -/
theorem available_fails : ¬ ∀ (station : Deployment) (turns : List Turn) (retained : Text → Option Text),
    Mqtt.Available retained station.identity.willTopic onlineMessage station.online.2.net.mqtt.calls
      (station.run turns).net.mqtt.calls := by
  intro always
  have boot : desk.online.2.net.mqtt.calls = (desk.run []).net.mqtt.calls.take 16 := by decide +kernel
  have cut : (desk.run []).net.mqtt.calls =
      (desk.run []).net.mqtt.calls.take 16 ++ (((desk.run []).net.mqtt.calls.drop 16).dropLast ++ [.mqttPublish
        { topic := "air_quality/5d1e0c7a44b2f693/binary_sensor/nrf52840_5d1e0c7a44b2f693_wdt/state".toList
          payload := "OFF".toList, messageId := 0, retainFlag := true } true 0]) := by decide +kernel
  have held := always desk [] (fun _ => none)
  rw [boot] at held
  exact absurd (held _ _ _ _ cut) (by decide +kernel)

end AirQuality.Station
