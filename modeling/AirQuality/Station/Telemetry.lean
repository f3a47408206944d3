import AirQuality.Station.Catalogue
import AirQuality.Station.Identified
import AirQuality.Station.Measuring

/-!
# From the sensors to the network

A sensor's readings are cut into batches, and the network takes the mean of each batch. Over a whole run no reading that
has arrived is lost or counted twice.
-/

namespace AirQuality.Station
open Foundation Ha Uid Hvac TempHum24

def publishedReadings (sensor : SensorId) (events : List Event) : List (List ℚ) :=
  flushed (events.filterMap (entry sensor))

theorem publishedReadings_pending (sensor : SensorId) (events : List Event) :
    (publishedReadings sensor events).flatten ++ pendingReadings sensor events = readingsOf sensor events := by
  unfold publishedReadings pendingReadings readingsOf
  rw [flushed_pending, List.filterMap_filterMap]
  congr 1
  funext event
  cases event with
  | added other value => by_cases same : other = sensor <;> simp [entry, reading, Entry.value, same]
  | published other payload ret =>
    by_cases flushes : other = sensor ∧ 0 ≤ ret <;> simp [entry, reading, Entry.value, flushes]

def average (topics : SensorId → Text) (sensor : SensorId) (batch : List ℚ) : Ha.Sent :=
  ⟨topics sensor, (valueString (mean batch)).2, (declared sensor).retain⟩

/-- In order, what is sent for a sensor are the means of its batches, and no batch is empty. -/
theorem published_averages (topics : SensorId → Text) {sensor : SensorId} (measured : sensor ≠ .watchdogTriggered)
    {events : List Event} (ordered : Along snoc InOrder [] events) :
    (events.filter fun event => event.sensor = sensor).filterMap (Event.message topics) =
        (publishedReadings sensor events).map (average topics sensor) ∧
      ∀ batch ∈ publishedReadings sensor events, batch ≠ [] := by
  induction events using List.reverseRecOn with
  | nil => exact ⟨rfl, fun _ member => absurd member List.not_mem_nil⟩
  | append_singleton events event ih =>
    rw [along_append, run_snoc, List.nil_append] at ordered
    obtain ⟨before, inOrder, _⟩ := ordered
    obtain ⟨sent, nonempty⟩ := ih before
    unfold publishedReadings at sent nonempty ⊢
    rw [List.filter_append, List.filterMap_append, List.filterMap_append, sent]
    cases event with
    | added other value =>
      by_cases same : other = sensor <;> simpa [Event.sensor, Event.message, entry, same] using nonempty
    | published other payload ret =>
      by_cases same : other = sensor
      · subst same
        by_cases failed : ret < 0
        · have kept : ¬ 0 ≤ ret := by omega
          simpa [Event.sensor, Event.message, entry, failed, kept] using nonempty
        · have flushes : 0 ≤ ret := by omega
          obtain ⟨pending, mean⟩ := inOrder.resolve_left measured
          unfold pendingReadings at pending mean
          simp only [Event.sensor, Event.message, entry, flushes, failed, and_self, if_true, if_false, decide_true,
            List.filter_cons, List.filter_nil, List.filterMap_cons, List.filterMap_nil, flushed_flush, List.map_append,
            List.map_cons, List.map_nil, average, mean, List.mem_append, List.mem_singleton, true_and]
          rintro batch (member | rfl)
          · exact nonempty batch member
          · exact pending
      · simpa [Event.sensor, entry, same] using nonempty

/-- A station that cannot start its sensors has sent a part of its registrations. -/
theorem unstarted_sends (station : Deployment) {power : PowerOn} {boards : Boards}
    (failed : (startSensorMeasurements power boards).1 < 0) :
    let rig := Rig.start World.publish World.init station.platform station.patience power station.identity boards
      (World.powered station.channelId station.moments)
    rig.app.blocked = true ∧ rig.app.events = [] ∧
      ∃ sent rest, Sends sent station.booted rig.app.net.mqtt ∧ sent ++ rest = station.registrations := by
  have started : (haStart World.init (bin2hex station.identity.cpu) {}
      (World.powered station.channelId station.moments)).2 =
      (station.identity.homeAssistant, { mqtt := station.booted, moments := station.moments }) :=
    haStart_fits World.init (deviceId_fits station.identity) {} _
  obtain ⟨_, sent, rest, sends, _, same⟩ := @registerAll_sends station.platform station.identity.homeAssistant
    station.patience.register SensorId.all (by decide)
    (fun sensor => { declared sensor with uniqueId := station.identity.ids sensor })
    { mqtt := station.booted, moments := station.moments } station.booted_consistent
  unfold Rig.start
  dsimp only
  rw [(Prod.ext_iff.mp started).1, (Prod.ext_iff.mp started).2, if_pos failed]
  split
  · exact ⟨rfl, rfl, sent, rest, sends, same⟩
  · exact ⟨rfl, rfl, sent, rest, sends, same⟩

/-! ### The whole way -/

theorem identity_distinguishes {power : PowerOn} {boards identified : Boards} {identity : Identity}
    (known : identify power boards = (some identity, identified))
    (short : (power.strings boards).sps30SerialString.length ≤ 20) : identity.Distinguishes := by
  refine ⟨fun sensor => (identify_whole known short sensor).2, ?_⟩
  intro sensor other same
  rw [(identify_whole known short sensor).1, (identify_whole known short other).1] at same
  exact (fullId_inj same).1

section Run
variable (single : UInt32 → ℚ)

/-- What the network has taken on the state topic of a measured sensor are the means of its batches of readings. -/
theorem main_averages (station : Deployment) {power : PowerOn} {boards identified : Boards}
    (known : identify power boards = (some station.identity, identified)) (ids : station.identity.Distinguishes)
    (turns : List Answers) {sensor : SensorId} (measured : sensor ≠ .watchdogTriggered) :
    let s := (Rig.main World.publish single World.init station.platform station.patience power boards
      (World.powered station.channelId station.moments) turns).app
    (messages s.net.mqtt.calls).filter (fun message => message.topic = station.stateTopic sensor) =
        (publishedReadings sensor s.events).map (average station.stateTopic sensor) ∧
      ∀ batch ∈ publishedReadings sensor s.events, batch ≠ [] := by
  intro s
  have accounted : Accounted s := main_accounted World.publish single World.init station.platform station.patience power
    boards (World.powered station.channelId station.moments) turns
  obtain ⟨averages, nonempty⟩ := published_averages station.stateTopic measured accounted.ordered
  refine ⟨?_, nonempty⟩
  rw [← averages]
  by_cases failed : (startSensorMeasurements power identified).1 < 0
  · obtain ⟨blocked, silent, sent, rest, sends, all⟩ := unstarted_sends station failed
    have stuck : s = (Rig.start World.publish World.init station.platform station.patience power station.identity
        identified (World.powered station.channelId station.moments)).app := by
      unfold s Rig.main
      rw [known]
      exact congrArg Rig.app (Rig.run_blocked World.publish single blocked turns)
    have part : sent ⊆ station.registrations := by
      rw [← all]
      exact List.subset_append_left sent rest
    rw [stuck, sends_from_booted sends, registrations_elsewhere station sensor part, silent]
    rfl
  · have same : s = station.run (sampledTurns single (startSensorMeasurements power identified).2 turns) :=
      Rig.main_app World.publish single World.init station.platform station.patience _ _ turns known failed
    have topic := messages_on_topic (owns_distinct ids sensor)
      (sampledTurns single (startSensorMeasurements power identified).2 turns)
    rw [same]
    simpa only [measured, and_false, if_false, List.nil_append] using topic

/-- The network has taken the means of successive batches of the readings, and the sensor still holds the others. -/
def Conveyed (station : Deployment) (sensor : SensorId) (readings : List ℚ) (s : App World) : Prop :=
  ∃ batches : List (List ℚ), ∃ waiting, batches.flatten ++ waiting = readings ∧ (∀ batch ∈ batches, batch ≠ []) ∧
    (messages s.net.mqtt.calls).filter (fun message => message.topic = station.stateTopic sensor) =
      batches.map (average station.stateTopic sensor) ∧
    Represents (s.sensors sensor).totalValue (s.sensors sensor).numberOfValues waiting

/-- What a sensor whose answers are checked has sent, in the answers that have arrived, is conveyed in order: each such
reading is in the mean of one batch, or is still held. -/
theorem telemetry_complete (station : Deployment) (power : PowerOn) {boards identified : Boards}
    (known : identify power boards = (some station.identity, identified))
    (short : (power.strings boards).sps30SerialString.length ≤ 20) (occasions : List Occasion) :
    let s := (Rig.main World.publish single World.init station.platform station.patience power boards
      (World.powered station.channelId station.moments) (occasions.map Occasion.answers)).app
    ∃ n ≤ occasions.length, (s.blocked = false → n = occasions.length) ∧ ∀ sensor ∈ checkedSensors,
      Conveyed station sensor ((occasions.take n).filterMap fun occasion => occasion.value single sensor) s := by
  intro s
  have ids := identity_distinguishes known short
  have accounted : Accounted s := main_accounted World.publish single World.init station.platform station.patience power
    boards (World.powered station.channelId station.moments) (occasions.map Occasion.answers)
  obtain ⟨n, within, all, adds⟩ := main_adds World.publish single World.init station.platform station.patience power
    boards (World.powered station.channelId station.moments) occasions
  refine ⟨n, within, all, fun sensor checked => ?_⟩
  have measured : sensor ≠ .watchdogTriggered := by
    rintro rfl
    exact absurd checked (by decide)
  obtain ⟨averages, nonempty⟩ := main_averages single station known ids (occasions.map Occasion.answers) measured
  refine ⟨publishedReadings sensor s.events, pendingReadings sensor s.events, ?_, nonempty, averages,
    accounted.held sensor measured⟩
  exact (publishedReadings_pending sensor s.events).trans (adds sensor checked)

end Run

def deskOccasion : Occasion where
  answers := { deskAnswers [(0x66, 0x66), (0x80, 0x00)] with sps30Write := 0, sps30 := answer (List.replicate 20 (0, 0)) }
  sentTemperature := (0x66, 0x66)
  sentHumidity := (0x80, 0x00)
  sentMeasured := List.replicate 20 (0, 0)
  sentMeasured_length := rfl
  noisyTemphum24 := ⟨Int.le_refl 0, fun _ => Or.inl fun _ _ => rfl⟩
  noisySps30 := ⟨Int.le_refl 0, fun _ => Or.inl fun _ _ => rfl⟩

theorem telemetry_complete_desk :
    let power := deskPower fun _ => (0xa1, 0x5c)
    let occasions := [deskOccasion, deskOccasion]
    ∃ identity, (identify power deskBoards).1 = some identity ∧
      let station : Deployment := { desk with identity }
      let s := (Rig.main World.publish (fun bits => bits.toNat) World.init station.platform station.patience power
        deskBoards (World.powered station.channelId station.moments) (occasions.map Occasion.answers)).app
      ∃ n ≤ occasions.length, (s.blocked = false → n = occasions.length) ∧ ∀ sensor ∈ checkedSensors,
        Conveyed station sensor
          ((occasions.take n).filterMap fun occasion => occasion.value (fun bits => bits.toNat) sensor) s := by
  intro power occasions
  have named : (identify power deskBoards).1.isSome := by decide +kernel
  have short : (power.strings deskBoards).sps30SerialString.length ≤ 20 := by decide +kernel
  obtain ⟨⟨_ | identity, identified⟩, known⟩ : ∃ result, identify power deskBoards = result := ⟨_, rfl⟩
  · rw [known] at named
    cases named
  · exact ⟨identity, congrArg Prod.fst known,
      telemetry_complete (fun bits => bits.toNat) { desk with identity } power known short occasions⟩

end AirQuality.Station
