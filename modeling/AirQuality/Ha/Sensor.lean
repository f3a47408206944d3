import AirQuality.Foundation.Decimal

/-!
# Home Assistant sensors

`ha.c` over any network: a publish takes a topic, a payload and a retain flag to a result and the
network after it. Readings are exact rationals, and a sensor has fewer than 2^31 of them pending.
A formatting error of `snprintf` is an input where its result is looked at, and there is none unless one
is given.
-/

namespace AirQuality.Ha
open Foundation

/-- `mqtt_publish_to_topic` over the network state `σ`. -/
abbrev Publish (σ : Type*) := Text → Text → Bool → σ → Int × σ

/-- `mqtt_init`, with the device id and the topic and message of the last will. -/
abbrev Init (σ : Type*) := Text → Text → Text → σ → Int × σ

def haTopicBufferSize : Nat := 128
def jsonConfigBufferSize : Nat := 1024
def valueStringSize : Nat := 16

def haSensorType : Text := "sensor".toList
def haBinarySensorType : Text := "binary_sensor".toList

structure HaSensor where
  type : Text
  name : Text
  uniqueId : Text := []
  deviceClass : Text
  stateClass : Option Text := none
  unitOfMeasurement : Option Text := none
  suggestedDisplayPrecision : Int := 0
  retain : Bool := false
  totalValue : ℚ := 0
  numberOfValues : Nat := 0
  binaryState : Bool := false
  fullStateTopic : Text := []
  deriving DecidableEq

/-- The static variables of `ha.c`. -/
structure HomeAssistant where
  deviceIdHexString : Text := []
  mqttBasePath : Text := []
  lastWillTopic : Text := []
  deriving DecidableEq

def mqttBasePath (deviceId : Text) : Text := "air_quality/".toList ++ deviceId
def lastWillTopic (deviceId : Text) : Text := mqttBasePath deviceId ++ "/available".toList
def lastWillMessage : Text := "offline".toList
def onlineMessage : Text := "online".toList

def briefStateTopic (type uniqueId : Text) : Text :=
  "~/".toList ++ type ++ ['/'] ++ uniqueId ++ "/state".toList

def discoveryTopic (type uniqueId : Text) : Text :=
  "homeassistant/".toList ++ type ++ ['/'] ++ uniqueId ++ "/config".toList

def haStart {σ : Type*} (init : Init σ) (deviceId : Text) (ha : HomeAssistant) (net : σ)
    (baseFailure willFailure : Option FormatError := none) : Int × HomeAssistant × σ :=
  let ha := { ha with deviceIdHexString := deviceId }
  let (ret, text) := snprintf baseFailure haTopicBufferSize (mqttBasePath deviceId)
  let ha := { ha with mqttBasePath := text }
  if ret < 0 && geSize ret haTopicBufferSize then (Errno.enomem.code, ha, net) else
  let (ret, text) := snprintf willFailure haTopicBufferSize (lastWillTopic deviceId)
  let ha := { ha with lastWillTopic := text }
  if ret < 0 && geSize ret haTopicBufferSize then (Errno.enomem.code, ha, net) else
  let (ret, net) := init deviceId ha.lastWillTopic lastWillMessage net
  if ret < 0 then (ret, ha, net) else (0, ha, net)

/-! ### Discovery -/

structure HaDevice where
  identifiers : Text
  name : Text
  swVersion : Text
  hwVersion : Text
  model : Text
  manufacturer : Text

/-- `AIR_QUALITY_DEVICE`; the version is generated by the build. -/
def airQualityDevice (deviceIdHexString appVersionFull : Text) : HaDevice where
  identifiers := deviceIdHexString
  name := "Air Quality Monitor".toList
  swVersion := appVersionFull
  hwVersion := "rev1".toList
  model := "Gold".toList
  manufacturer := "François Gervais".toList

structure HaSensorConfig where
  basePath : Text
  name : Text
  uniqueId : Text
  objectId : Text
  deviceClass : Text
  stateClass : Option Text
  unitOfMeasurement : Option Text
  suggestedDisplayPrecision : Int
  availabilityTopic : Text
  stateTopic : Text
  dev : HaDevice

/-- The members a descriptor table encodes; `basePath` is named `~`. -/
inductive ConfigField where
  | basePath | name | uniqueId | objectId | deviceClass | stateClass | unitOfMeasurement
  | suggestedDisplayPrecision | availabilityTopic | stateTopic | dev
  deriving DecidableEq, Repr

def sensorConfigDescr : List ConfigField :=
  [.basePath, .name, .uniqueId, .objectId, .deviceClass, .stateClass, .unitOfMeasurement,
    .suggestedDisplayPrecision, .availabilityTopic, .stateTopic, .dev]

def binarySensorConfigDescr : List ConfigField :=
  [.basePath, .name, .uniqueId, .objectId, .deviceClass, .availabilityTopic, .stateTopic, .dev]

/-- `json_obj_encode_buf`: the result, and the text in the buffer. -/
abbrev JsonObjEncodeBuf := List ConfigField → HaSensorConfig → Nat → Int × Text

/-- What `ha.c` takes from outside: the JSON library, the build's version and what is in `json_config` when nothing has
been encoded into it. -/
structure Platform where
  jsonObjEncodeBuf : JsonObjEncodeBuf
  appVersionFull : Text
  jsonConfig : Text := []

/-- A type that is neither of the two has nothing encoded, and no error. -/
def encodeConfig (platform : Platform) (sensorType : Text) (conf : HaSensorConfig) : Int × Text :=
  if sensorType = haSensorType then platform.jsonObjEncodeBuf sensorConfigDescr conf jsonConfigBufferSize
  else if sensorType = haBinarySensorType then
    platform.jsonObjEncodeBuf binarySensorConfigDescr conf jsonConfigBufferSize
  else (0, platform.jsonConfig)

section Network
variable {σ : Type*} (publish : Publish σ)

def haSendDiscovery (platform : Platform) (sensorType : Text) (conf : HaSensorConfig) (net : σ) : Int × σ :=
  let (_, topic) := snprintf none haTopicBufferSize (discoveryTopic sensorType conf.uniqueId)
  let (ret, jsonConfig) := encodeConfig platform sensorType conf
  if ret < 0 then (ret, net) else
  let (ret, net) := publish topic jsonConfig true net
  if ret < 0 then (ret, net) else (0, net)

def haSetOnline (ha : HomeAssistant) (net : σ) : Int × σ :=
  let (ret, net) := publish ha.lastWillTopic onlineMessage true net
  if ret < 0 then (ret, net) else (0, net)

def haRegisterSensor (platform : Platform) (ha : HomeAssistant) (sensor : HaSensor) (net : σ)
    (briefFailure fullFailure : Option FormatError := none) : Int × HaSensor × σ :=
  let (ret, brief) := snprintf briefFailure haTopicBufferSize (briefStateTopic sensor.type sensor.uniqueId)
  if ret < 0 && geSize ret haTopicBufferSize then (Errno.enomem.code, sensor, net) else
  let (ret, full) := snprintf fullFailure haTopicBufferSize (ha.mqttBasePath ++ brief.drop 1)
  let sensor := { sensor with fullStateTopic := full }
  if ret < 0 && geSize ret haTopicBufferSize then (Errno.enomem.code, sensor, net) else
  let config : HaSensorConfig :=
    { basePath := ha.mqttBasePath
      name := sensor.name
      uniqueId := sensor.uniqueId
      objectId := sensor.uniqueId
      deviceClass := sensor.deviceClass
      stateClass := sensor.stateClass
      unitOfMeasurement := sensor.unitOfMeasurement
      suggestedDisplayPrecision := sensor.suggestedDisplayPrecision
      availabilityTopic := "~/available".toList
      stateTopic := brief
      dev := airQualityDevice ha.deviceIdHexString platform.appVersionFull }
  let (ret, net) := haSendDiscovery publish platform sensor.type config net
  if ret < 0 then (ret, sensor, net) else (0, sensor, net)

/-! ### Readings and states -/

def haAddSensorReading (sensor : HaSensor) (value : ℚ) : HaSensor :=
  { sensor with totalValue := sensor.totalValue + value, numberOfValues := sensor.numberOfValues + 1 }

def haSetBinarySensorState (sensor : HaSensor) (state : Bool) : HaSensor := { sensor with binaryState := state }

def haGetBinarySensorState (sensor : HaSensor) : Bool := sensor.binaryState

def valueString (value : ℚ) (failure : Option FormatError := none) : Int × Text :=
  snprintf failure valueStringSize (formatG value)

def haSendSensorValue (sensor : HaSensor) (net : σ) (failure : Option FormatError := none) : Int × HaSensor × σ :=
  if sensor.numberOfValues = 0 then (0, sensor, net) else
  let (ret, text) := valueString (sensor.totalValue / sensor.numberOfValues) failure
  if ret < 0 && geSize ret valueStringSize then (Errno.enomem.code, sensor, net) else
  let (ret, net) := publish sensor.fullStateTopic text sensor.retain net
  if ret < 0 then (ret, sensor, net) else
  (0, { sensor with totalValue := 0, numberOfValues := 0 }, net)

theorem haSendSensorValue_empty {sensor : HaSensor} (empty : sensor.numberOfValues = 0) (net : σ)
    {failure : Option FormatError} : haSendSensorValue publish sensor net failure = (0, sensor, net) := by
  rw [haSendSensorValue, if_pos empty]

theorem valueString_guard (value : ℚ) (failure : Option FormatError) :
    (decide ((valueString value failure).1 < 0) && geSize (valueString value failure).1 valueStringSize) =
      failure.isSome :=
  snprintf_guard failure (by decide) (formatG value)

theorem haSendSensorValue_failed {sensor : HaSensor} (pending : sensor.numberOfValues ≠ 0) (net : σ)
    (error : FormatError) :
    haSendSensorValue publish sensor net (some error) = (Errno.enomem.code, sensor, net) := by
  rw [haSendSensorValue, if_neg pending]
  simp [valueString_guard]

theorem haSendSensorValue_pending {sensor : HaSensor} (pending : sensor.numberOfValues ≠ 0) (net : σ) :
    haSendSensorValue publish sensor net =
      let (ret, net) := publish sensor.fullStateTopic
        (valueString (sensor.totalValue / sensor.numberOfValues)).2 sensor.retain net
      if ret < 0 then (ret, sensor, net) else
      (0, { sensor with totalValue := 0, numberOfValues := 0 }, net) := by
  rw [haSendSensorValue, if_neg pending]
  simp [valueString_guard]

def haSendBinarySensorState (sensor : HaSensor) (net : σ) : Int × σ :=
  let payload := if sensor.binaryState then "ON".toList else "OFF".toList
  let (ret, net) := publish sensor.fullStateTopic payload sensor.retain net
  if ret < 0 then (ret, net) else (0, net)

end Network

end AirQuality.Ha
