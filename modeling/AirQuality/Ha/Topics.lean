import AirQuality.Ha.Sensor

/-!
# The topics of a station

The last will goes to the device's "available" topic, and nothing else that `ha.c` publishes does: a
sensor's state topic parts from it right after the base path, a discovery topic at once.
-/

namespace AirQuality.Ha
open Foundation

theorem airQuality_chars : "air_quality/".toList = ['a', 'i', 'r', '_', 'q', 'u', 'a', 'l', 'i', 't', 'y', '/'] := rfl

theorem available_chars : "/available".toList = ['/', 'a', 'v', 'a', 'i', 'l', 'a', 'b', 'l', 'e'] := rfl

theorem brief_chars : "~/".toList = ['~', '/'] := rfl

theorem homeassistant_chars :
    "homeassistant/".toList = ['h', 'o', 'm', 'e', 'a', 's', 's', 'i', 's', 't', 'a', 'n', 't', '/'] := rfl

theorem sensor_chars : haSensorType = ['s', 'e', 'n', 's', 'o', 'r'] := rfl

theorem binarySensor_chars :
    haBinarySensorType = ['b', 'i', 'n', 'a', 'r', 'y', '_', 's', 'e', 'n', 's', 'o', 'r'] := rfl

theorem online_chars : onlineMessage = ['o', 'n', 'l', 'i', 'n', 'e'] := rfl

theorem offline_chars : lastWillMessage = ['o', 'f', 'f', 'l', 'i', 'n', 'e'] := rfl

theorem lastWillMessage_ne : lastWillMessage ≠ onlineMessage := by
  rw [online_chars, offline_chars]
  decide

/-- The types `ha_send_discovery` encodes a configuration for. -/
def Known (type : Text) : Prop := type = haSensorType ∨ type = haBinarySensorType

theorem Known.initial {type : Text} (known : Known type) : ∃ initial rest, type = initial :: rest ∧ initial ≠ 'a' := by
  rcases known with rfl | rfl
  · exact ⟨_, _, sensor_chars, by decide⟩
  · exact ⟨_, _, binarySensor_chars, by decide⟩

theorem mqttBasePath_length (deviceId : Text) : (mqttBasePath deviceId).length = 12 + deviceId.length := by
  have length : "air_quality/".toList.length = 12 := by rw [airQuality_chars]; rfl
  unfold mqttBasePath
  rw [List.length_append, length]

theorem lastWillTopic_length (deviceId : Text) : (lastWillTopic deviceId).length = 22 + deviceId.length := by
  have length : "/available".toList.length = 10 := by rw [available_chars]; rfl
  unfold lastWillTopic
  rw [List.length_append, mqttBasePath_length, length]
  omega

/-! ### What is stored and what is sent -/

def storedBriefTopic (sensor : HaSensor) : Text :=
  (snprintf none haTopicBufferSize (briefStateTopic sensor.type sensor.uniqueId)).2

def storedStateTopic (basePath : Text) (sensor : HaSensor) : Text :=
  (snprintf none haTopicBufferSize (basePath ++ (storedBriefTopic sensor).drop 1)).2

def storedDiscoveryTopic (sensor : HaSensor) : Text :=
  (snprintf none haTopicBufferSize (discoveryTopic sensor.type sensor.uniqueId)).2

theorem snprintf_unguarded (size : Nat) (text : Text) (guard : Bool) :
    (decide ((snprintf none size text).1 < 0) && guard) = false := by
  have length : ¬ (snprintf none size text).1 < 0 := by
    simp only [snprintf]
    omega
  rw [decide_eq_false length, Bool.false_and]

theorem haStart_fits {σ : Type*} (init : Init σ) {deviceId : Text} (fits : 22 + deviceId.length < haTopicBufferSize)
    (ha : HomeAssistant) (net : σ) :
    (haStart init deviceId ha net).2 =
      ({ deviceIdHexString := deviceId, mqttBasePath := mqttBasePath deviceId, lastWillTopic := lastWillTopic deviceId },
        (init deviceId (lastWillTopic deviceId) lastWillMessage net).2) := by
  have base : (mqttBasePath deviceId).length < haTopicBufferSize := by
    rw [mqttBasePath_length]
    omega
  have topic : (lastWillTopic deviceId).length < haTopicBufferSize := by
    rw [lastWillTopic_length]
    exact fits
  unfold haStart
  simp only [snprintf_unguarded, Bool.false_eq_true, if_false]
  rw [snprintf_fits base, snprintf_fits topic]
  split <;> rfl

/-- The configuration `ha_register_sensor` announces. -/
def announcedConfig (platform : Platform) (ha : HomeAssistant) (sensor : HaSensor) : HaSensorConfig where
  basePath := ha.mqttBasePath
  name := sensor.name
  uniqueId := sensor.uniqueId
  objectId := sensor.uniqueId
  deviceClass := sensor.deviceClass
  stateClass := sensor.stateClass
  unitOfMeasurement := sensor.unitOfMeasurement
  suggestedDisplayPrecision := sensor.suggestedDisplayPrecision
  availabilityTopic := "~/available".toList
  stateTopic := storedBriefTopic sensor
  dev := airQualityDevice ha.deviceIdHexString platform.appVersionFull

section Network
variable {σ : Type*} (publish : Publish σ)

theorem haSendDiscovery_result (platform : Platform) (type : Text) (config : HaSensorConfig) (net : σ) :
    (haSendDiscovery publish platform type config net).1 < 0 ∨
      (haSendDiscovery publish platform type config net).1 = 0 := by
  unfold haSendDiscovery
  dsimp only
  split
  · rename_i refused
    exact Or.inl refused
  · split
    · rename_i unsent
      exact Or.inl unsent
    · exact Or.inr rfl

theorem haRegisterSensor_eq (platform : Platform) (ha : HomeAssistant) (sensor : HaSensor) (net : σ) :
    haRegisterSensor publish platform ha sensor net =
      let (ret, net) := haSendDiscovery publish platform sensor.type (announcedConfig platform ha sensor) net
      (ret, { sensor with fullStateTopic := storedStateTopic ha.mqttBasePath sensor }, net) := by
  have result := haSendDiscovery_result publish platform sensor.type (announcedConfig platform ha sensor) net
  have body : haRegisterSensor publish platform ha sensor net =
      let registered := { sensor with fullStateTopic := storedStateTopic ha.mqttBasePath sensor }
      let (ret, net) := haSendDiscovery publish platform sensor.type (announcedConfig platform ha sensor) net
      if ret < 0 then (ret, registered, net) else (0, registered, net) := by
    unfold haRegisterSensor
    simp only [snprintf_unguarded, Bool.false_eq_true, if_false]
    rfl
  rw [body]
  dsimp only
  split
  · rfl
  · rename_i sent
    rw [result.resolve_left sent]

/-- A registration stores the state topic, and publishes to the discovery topic or not at all. -/
theorem haRegisterSensor_spec (platform : Platform) (ha : HomeAssistant) (sensor : HaSensor) (net : σ) :
    (haRegisterSensor publish platform ha sensor net).2.1 =
        { sensor with fullStateTopic := storedStateTopic ha.mqttBasePath sensor } ∧
      ((haRegisterSensor publish platform ha sensor net).2.2 = net ∨
        ∃ config, (haRegisterSensor publish platform ha sensor net).2.2 =
          (publish (storedDiscoveryTopic sensor) config true net).2) := by
  rw [haRegisterSensor_eq]
  refine ⟨rfl, ?_⟩
  unfold haSendDiscovery
  dsimp only
  split
  · exact Or.inl rfl
  · split
    · exact Or.inr ⟨_, rfl⟩
    · exact Or.inr ⟨_, rfl⟩

end Network

theorem haSendSensorValue_spec {σ : Type*} (publish : Publish σ) (sensor : HaSensor) (net : σ) :
    (haSendSensorValue publish sensor net).2.1.fullStateTopic = sensor.fullStateTopic ∧
      ((haSendSensorValue publish sensor net).2.2 = net ∨
        ∃ text, (haSendSensorValue publish sensor net).2.2 =
          (publish sensor.fullStateTopic text sensor.retain net).2) := by
  by_cases empty : sensor.numberOfValues = 0
  · rw [haSendSensorValue_empty publish empty]
    exact ⟨rfl, Or.inl rfl⟩
  · rw [haSendSensorValue_pending publish empty]
    dsimp only
    split
    · exact ⟨rfl, Or.inr ⟨_, rfl⟩⟩
    · exact ⟨rfl, Or.inr ⟨_, rfl⟩⟩

theorem haSendBinarySensorState_spec {σ : Type*} (publish : Publish σ) (sensor : HaSensor) (net : σ) :
    ∃ payload, (haSendBinarySensorState publish sensor net).2 =
      (publish sensor.fullStateTopic payload sensor.retain net).2 := by
  unfold haSendBinarySensorState
  dsimp only
  generalize (if sensor.binaryState then "ON".toList else "OFF".toList) = payload
  refine ⟨payload, ?_⟩
  split <;> rfl

/-- A message handed to `mqtt_publish_to_topic`. -/
structure Sent where
  topic : Text
  payload : Text
  retain : Bool
  deriving DecidableEq

/-- The network with a record of what is handed to it. -/
def noting {σ : Type*} (publish : Publish σ) : Publish (σ × List Sent) := fun topic payload retain (net, sent) =>
  let (ret, net) := publish topic payload retain net
  (ret, net, sent ++ [⟨topic, payload, retain⟩])

theorem storedStateTopic_ne (deviceId : Text) (fits : 22 + deviceId.length < haTopicBufferSize) {sensor : HaSensor}
    (known : Known sensor.type) : storedStateTopic (mqttBasePath deviceId) sensor ≠ lastWillTopic deviceId := by
  obtain ⟨initial, rest, text, different⟩ := known.initial
  have brief : ∃ more, (storedBriefTopic sensor).drop 1 = '/' :: initial :: more := by
    unfold storedBriefTopic snprintf briefStateTopic
    rw [brief_chars, text]
    exact ⟨_, rfl⟩
  obtain ⟨more, brief⟩ := brief
  have length := mqttBasePath_length deviceId
  obtain ⟨room, enough⟩ : ∃ room, haTopicBufferSize - 1 - (mqttBasePath deviceId).length = room + 2 :=
    ⟨haTopicBufferSize - 3 - (mqttBasePath deviceId).length, by omega⟩
  intro same
  have base : (mqttBasePath deviceId).length ≤ haTopicBufferSize - 1 := by omega
  simp only [storedStateTopic, snprintf, brief] at same
  rw [List.take_append, List.take_of_length_le base, enough, lastWillTopic, available_chars] at same
  have tails := List.append_cancel_left same
  simp only [List.take_succ_cons, List.cons.injEq] at tails
  exact different tails.2.1

theorem storedDiscoveryTopic_ne (sensor : HaSensor) (deviceId : Text) :
    storedDiscoveryTopic sensor ≠ lastWillTopic deviceId := by
  have discovery : (storedDiscoveryTopic sensor).head? = some 'h' := by
    unfold storedDiscoveryTopic snprintf discoveryTopic
    rw [homeassistant_chars]
    rfl
  have available : (lastWillTopic deviceId).head? = some 'a' := by
    unfold lastWillTopic mqttBasePath
    rw [airQuality_chars]
    rfl
  intro same
  rw [same, available] at discovery
  exact absurd (Option.some.inj discovery) (by decide)

end AirQuality.Ha
