import AirQuality.Foundation.Transition
import AirQuality.Ha.Sensor
import AirQuality.Uid.UniqueId

/-!
# `main`

The sampling loop of `main.c` with everything before it that publishes. The outcomes of the sensor
reads are inputs, and so is the number of attempts each retry loop is watched for: a loop that has not
returned by then blocks the station.
-/

namespace AirQuality.Station
open Foundation Ha Uid

def numberOfReadingsInAverage : UInt32 := 6
def numberOfLoopResetWatchdogSensor : UInt32 := 30

def declared : SensorId → HaSensor
  | .watchdogTriggered =>
    { type := haBinarySensorType, name := "Watchdog".toList, deviceClass := "problem".toList, retain := true }
  | .temperature =>
    { type := haSensorType, name := "Temperature".toList, deviceClass := "temperature".toList
      stateClass := some "measurement".toList, unitOfMeasurement := some "°C".toList
      suggestedDisplayPrecision := 2 }
  | .humidity =>
    { type := haSensorType, name := "Humidity".toList, deviceClass := "humidity".toList
      stateClass := some "measurement".toList, unitOfMeasurement := some "%".toList
      suggestedDisplayPrecision := 1 }
  | .co2 =>
    { type := haSensorType, name := "CO₂".toList, deviceClass := "carbon_dioxide".toList
      stateClass := some "measurement".toList, unitOfMeasurement := some "ppm".toList
      suggestedDisplayPrecision := 0 }
  | .pm1 =>
    { type := haSensorType, name := "Particles (1.0 µm)".toList, deviceClass := "pm1".toList
      stateClass := some "measurement".toList, unitOfMeasurement := some "µg/m³".toList
      suggestedDisplayPrecision := 2 }
  | .pm25 =>
    { type := haSensorType, name := "Particles (2.5 µm)".toList, deviceClass := "pm25".toList
      stateClass := some "measurement".toList, unitOfMeasurement := some "µg/m³".toList
      suggestedDisplayPrecision := 2 }
  | .pm10 =>
    { type := haSensorType, name := "Particles (10 µm)".toList, deviceClass := "pm10".toList
      stateClass := some "measurement".toList, unitOfMeasurement := some "µg/m³".toList
      suggestedDisplayPrecision := 2 }

def measured : List SensorId := [.temperature, .humidity, .co2, .pm1, .pm25, .pm10]

/-- What happens to the readings of a sensor: one is added, or a publish is attempted. -/
inductive Event where
  | added (sensor : SensorId) (value : ℚ)
  | published (sensor : SensorId) (payload : Text) (ret : Int)
  deriving DecidableEq

structure App (σ : Type*) where
  ha : HomeAssistant
  sensors : SensorId → HaSensor
  net : σ
  events : List Event := []
  mainLoopCounter : UInt32 := 0
  nonFatalError : Bool := false
  blocked : Bool := false

/-- The results of the three sensor reads of an iteration, with the values they deliver. -/
structure Reads where
  temphum24 : Int
  temperature : ℚ
  humidity : ℚ
  scd40 : Int
  co2Concent : UInt16
  sps30 : Int
  massPm1_0 : ℚ
  massPm2_5 : ℚ
  massPm10 : ℚ
  deriving DecidableEq

/-- An iteration: its reads, and for how many attempts its retry loop is watched. -/
structure Turn where
  reads : Reads
  patience : Nat

/-- `goto retry` while the call fails. -/
def retry {τ : Type*} (attempt : τ → Int × τ) : Nat → τ → Bool × τ
  | 0, t => (false, t)
  | patience + 1, t =>
    let (ret, t) := attempt t
    if ret < 0 then retry attempt patience t else (true, t)

section Network
variable {σ : Type*} (publish : Publish σ)

/-- The network with a record of the publishes made for `sensor`. -/
def recorded (sensor : SensorId) : Publish (σ × List Event) := fun topic payload retain (net, events) =>
  let (ret, net) := publish topic payload retain net
  (ret, net, events ++ [.published sensor payload ret])

/-! ### The sampling loop -/

def addSensorReading (s : App σ) (sensor : SensorId) (value : ℚ) : App σ :=
  { s with
    sensors := Function.update s.sensors sensor (haAddSensorReading (s.sensors sensor) value)
    events := s.events ++ [.added sensor value] }

def readTemphum24 (s : App σ) (reads : Reads) : App σ :=
  if reads.temphum24 < 0 then { s with nonFatalError := true } else
  let s := addSensorReading s .temperature reads.temperature
  addSensorReading s .humidity reads.humidity

def readScd40 (s : App σ) (reads : Reads) : App σ :=
  if reads.scd40 < 0 then { s with nonFatalError := true } else
  addSensorReading s .co2 reads.co2Concent.toNat

def readSps30 (s : App σ) (reads : Reads) : App σ :=
  if reads.sps30 < 0 then { s with nonFatalError := true } else
  let s := addSensorReading s .pm1 reads.massPm1_0
  let s := addSensorReading s .pm25 reads.massPm2_5
  addSensorReading s .pm10 reads.massPm10

def sendSensorValue (s : App σ) (sensor : SensorId) : Int × App σ :=
  let (ret, updated, net, events) :=
    haSendSensorValue (recorded publish sensor) (s.sensors sensor) (s.net, s.events)
  (ret, { s with sensors := Function.update s.sensors sensor updated, net, events })

def sendEach : List SensorId → Bool → App σ → Bool × App σ
  | [], nonFatalError, s => (nonFatalError, s)
  | sensor :: rest, nonFatalError, s =>
    let (ret, s) := sendSensorValue publish s sensor
    sendEach rest (if ret < 0 then true else nonFatalError) s

def sendSensorValues (s : App σ) : Int × App σ :=
  let (nonFatalError, s) := sendEach publish measured false s
  (if nonFatalError then -1 else 0, s)

def sendBinarySensorState (sensor : SensorId) (s : App σ) : Int × App σ :=
  let (ret, net, events) := haSendBinarySensorState (recorded publish sensor) (s.sensors sensor) (s.net, s.events)
  (ret, { s with net, events })

def sendBinarySensorRetry (patience : Nat) (s : App σ) : App σ :=
  let (returned, s) := retry (sendBinarySensorState publish .watchdogTriggered) patience s
  { s with blocked := !returned }

def setWatchdogSensor (s : App σ) (state : Bool) : App σ :=
  { s with
    sensors := Function.update s.sensors .watchdogTriggered
      (haSetBinarySensorState (s.sensors .watchdogTriggered) state) }

/-- What a completed iteration shows from outside: its counter and reads, the result of
`send_sensor_values` and the events it made, when it is called, and whether the watchdog is fed. -/
structure Report where
  counter : UInt32
  reads : Reads
  sent : Option (Int × List Event)
  fed : Bool

def publishes (counter : UInt32) : Bool := counter % numberOfReadingsInAverage = 0

def loopReads (s : App σ) (reads : Reads) : App σ :=
  readSps30 (readScd40 (readTemphum24 s reads) reads) reads

def loopSend (s : App σ) : Option (Int × List Event) × App σ :=
  if publishes s.mainLoopCounter then
    let (ret, t) := sendSensorValues publish s
    (some (ret, t.events.drop s.events.length), { t with nonFatalError := t.nonFatalError || ret ≠ 0 })
  else (none, s)

def loopResetWatchdogSensor (s : App σ) (patience : Nat) : App σ :=
  if numberOfLoopResetWatchdogSensor ≤ s.mainLoopCounter &&
      haGetBinarySensorState (s.sensors .watchdogTriggered) = true then
    sendBinarySensorRetry publish patience (setWatchdogSensor s false)
  else s

def loopBody (s : App σ) (turn : Turn) : Option Report × App σ :=
  let counter := s.mainLoopCounter
  let s := loopReads s turn.reads
  let (sent, s) := loopSend publish s
  let s := loopResetWatchdogSensor publish s turn.patience
  if s.blocked then (none, s) else
  let s := { s with mainLoopCounter := s.mainLoopCounter + 1 }
  (some { counter, reads := turn.reads, sent, fed := !s.nonFatalError }, { s with nonFatalError := false })

def iterate (s : App σ) (turn : Turn) : App σ := if s.blocked then s else (loopBody publish s turn).2

def reports : App σ → List Turn → List Report
  | _, [] => []
  | s, turn :: rest =>
    match loopBody publish s turn with
    | (none, _) => []
    | (some report, s) => report :: reports s rest

/-- The station at the top of the loop, with the ids and topics its sensors were registered with. -/
def App.sampling (ha : HomeAssistant) (ids topics : SensorId → Text) (watchdogTriggered : Bool) (net : σ)
    (events : List Event) : App σ where
  ha := ha
  sensors sensor :=
    { declared sensor with
      uniqueId := ids sensor
      fullStateTopic := topics sensor
      binaryState := watchdogTriggered && sensor = .watchdogTriggered }
  net := net
  events := events

/-! ### Before the loop -/

/-- What the hardware gives the station: the CPU id, the unique ids and the reset cause. -/
structure Identity where
  cpu : List UInt8
  cpu_length : cpu.length = 8
  ids : SensorId → Text
  watchdogTriggered : Bool

/-- For how many attempts each of the retry loops before the sampling loop is watched, or left alone by the watchdog. -/
structure Patience where
  register : SensorId → Nat
  online : Nat
  announce : Nat

/-- `register_sensor_retry` for the sensors still to do, as far as it returns. -/
def registerAll (platform : Platform) (ha : HomeAssistant) (patience : SensorId → Nat) :
    List SensorId → (SensorId → HaSensor) → σ → Bool × (SensorId → HaSensor) × σ
  | [], sensors, net => (true, sensors, net)
  | sensor :: rest, sensors, net =>
    let (returned, registered, net) :=
      retry (fun (registered, net) => haRegisterSensor publish platform ha registered net) (patience sensor)
        (sensors sensor, net)
    let sensors := Function.update sensors sensor registered
    if returned then registerAll platform ha patience rest sensors net else (false, sensors, net)

/-- From `ha_start` to `set_online_retry`; `main` ignores the result of `ha_start`. -/
def goOnline (init : Init σ) (platform : Platform) (identity : Identity) (patience : Patience) (net : σ) :
    Bool × App σ :=
  let (_, ha, net) := haStart init (bin2hex identity.cpu) {} net
  let sensors := fun sensor => { declared sensor with uniqueId := identity.ids sensor }
  let (registered, sensors, net) := registerAll publish platform ha patience.register SensorId.all sensors net
  if !registered then (false, { ha, sensors, net }) else
  let (online, net) := retry (haSetOnline publish ha) patience.online net
  (online, { ha, sensors, net })

/-- The watchdog sensor's state is sent, and the trace of the readings starts. -/
def announce (identity : Identity) (patience : Patience) (s : App σ) : App σ :=
  { sendBinarySensorRetry publish patience.announce (setWatchdogSensor s identity.watchdogTriggered) with events := [] }

def main (init : Init σ) (platform : Platform) (identity : Identity) (patience : Patience) (net : σ)
    (turns : List Turn) : App σ :=
  let (online, s) := goOnline publish init platform identity patience net
  if !online then { s with blocked := true } else
  run (iterate publish) (announce publish identity patience s) turns

end Network

end AirQuality.Station
