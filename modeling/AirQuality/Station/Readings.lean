import Mathlib.Algebra.Field.Rat
import AirQuality.Foundation.Accumulator
import AirQuality.Station.Loop

/-!
# Readings

Every accumulator holds exactly the readings added to its sensor since that sensor's last successful
publish. The trace of additions and publishes of a run says which ones these are.
-/

namespace AirQuality.Station
open Foundation Ha Uid

def entry (sensor : SensorId) : Event → Option (Entry ℚ)
  | .added other value => if other = sensor then some (.add value) else none
  | .published other _ ret => if other = sensor ∧ 0 ≤ ret then some .flush else none

/-- The readings added to the sensor since its last successful publish, or since the start. -/
def pendingReadings (sensor : SensorId) (events : List Event) : List ℚ := pending (events.filterMap (entry sensor))

theorem pendingReadings_added (sensor other : SensorId) (events : List Event) (value : ℚ) :
    pendingReadings sensor (events ++ [.added other value]) =
      if other = sensor then pendingReadings sensor events ++ [value] else pendingReadings sensor events := by
  unfold pendingReadings
  rw [List.filterMap_append]
  by_cases same : other = sensor <;> simp [entry, same]

theorem pendingReadings_published (sensor other : SensorId) (events : List Event) (payload : Text) (ret : Int) :
    pendingReadings sensor (events ++ [.published other payload ret]) =
      if other = sensor ∧ 0 ≤ ret then [] else pendingReadings sensor events := by
  unfold pendingReadings
  rw [List.filterMap_append]
  by_cases flushes : other = sensor ∧ 0 ≤ ret <;> simp [entry, flushes]

/-- The value that an event adds to the readings of a sensor. -/
def reading (sensor : SensorId) : Event → Option ℚ
  | .added other value => if other = sensor then some value else none
  | .published _ _ _ => none

/-- All readings of a sensor, oldest first. -/
def readingsOf (sensor : SensorId) (events : List Event) : List ℚ := events.filterMap (reading sensor)

theorem readingsOf_append (sensor : SensorId) (before after : List Event) :
    readingsOf sensor (before ++ after) = readingsOf sensor before ++ readingsOf sensor after := List.filterMap_append

theorem readingsOf_published (sensor other : SensorId) (events : List Event) (payload : Text) (ret : Int) :
    readingsOf sensor (events ++ [.published other payload ret]) = readingsOf sensor events := by
  rw [readingsOf_append]
  exact List.append_nil _

/-- The readings that wait for a publish are the newest ones. -/
theorem pendingReadings_suffix (sensor : SensorId) (events : List Event) :
    pendingReadings sensor events <:+ readingsOf sensor events := by
  induction events using List.reverseRecOn with
  | nil => exact List.suffix_refl _
  | append_singleton events event ih =>
    cases event with
    | added other value =>
      rw [pendingReadings_added, readingsOf_append]
      by_cases same : other = sensor
      · obtain ⟨older, whole⟩ := ih
        rw [if_pos same, ← whole]
        exact ⟨older, by simp [readingsOf, reading, same]⟩
      · rw [if_neg same]
        simpa [readingsOf, reading, same] using ih
    | published other payload ret =>
      rw [pendingReadings_published, readingsOf_published]
      split
      · exact List.nil_suffix
      · exact ih

/-- The result of the read that a sensor's reading comes from. -/
def Reads.code (reads : Reads) : SensorId → Int
  | .watchdogTriggered => -1
  | .temperature | .humidity => reads.temphum24
  | .co2 => reads.scd40
  | .pm1 | .pm25 | .pm10 => reads.sps30

def Reads.value (reads : Reads) : SensorId → ℚ
  | .watchdogTriggered => 0
  | .temperature => reads.temperature
  | .humidity => reads.humidity
  | .co2 => reads.co2Concent.toNat
  | .pm1 => reads.massPm1_0
  | .pm25 => reads.massPm2_5
  | .pm10 => reads.massPm10

/-- The readings of an iteration, as events. -/
def readings (reads : Reads) : List Event :=
  (if reads.temphum24 < 0 then [] else
    [.added .temperature reads.temperature, .added .humidity reads.humidity]) ++
  (if reads.scd40 < 0 then [] else [.added .co2 reads.co2Concent.toNat]) ++
  if reads.sps30 < 0 then [] else
    [.added .pm1 reads.massPm1_0, .added .pm25 reads.massPm2_5, .added .pm10 reads.massPm10]

/-- An iteration adds one reading of each sensor whose read does not fail. -/
theorem readingsOf_readings (reads : Reads) (sensor : SensorId) :
    readingsOf sensor (readings reads) = if reads.code sensor < 0 then [] else [reads.value sensor] := by
  unfold readings
  by_cases temphum24 : reads.temphum24 < 0 <;> by_cases scd40 : reads.scd40 < 0 <;>
    by_cases sps30 : reads.sps30 < 0 <;> cases sensor <;>
      simp [readingsOf, reading, Reads.code, Reads.value, temphum24, scd40, sps30]

/-- An event is in order after `before`: a publish of a sensor carries the mean of its pending
readings, and there are some. The watchdog sensor has no readings. -/
def InOrder (before : List Event) : Event → Prop
  | .added _ _ => True
  | .published sensor payload _ => sensor = .watchdogTriggered ∨
      (pendingReadings sensor before ≠ [] ∧ payload = (valueString (mean (pendingReadings sensor before))).2)

def snoc (before : List Event) (event : Event) : List Event := before ++ [event]

theorem run_snoc (before events : List Event) : run snoc before events = before ++ events := by
  induction events generalizing before with
  | nil => simp
  | cons event rest ih => rw [run_cons, ih, snoc, List.append_assoc, List.singleton_append]

theorem inOrder_snoc {events : List Event} {event : Event} (ordered : Along snoc InOrder [] events)
    (inOrder : InOrder events event) : Along snoc InOrder [] (events ++ [event]) := by
  rw [along_append, run_snoc]
  exact ⟨ordered, inOrder, trivial⟩

section Network
variable {σ : Type*} (publish : Publish σ)

/-- The accumulators hold the pending readings, and every event so far was in order. -/
structure Accounted (s : App σ) : Prop where
  held : ∀ sensor, sensor ≠ .watchdogTriggered →
    Represents (s.sensors sensor).totalValue (s.sensors sensor).numberOfValues (pendingReadings sensor s.events)
  ordered : Along snoc InOrder [] s.events

theorem addSensorReading_accounted {s : App σ} (accounted : Accounted s) (sensor : SensorId) (value : ℚ) :
    Accounted (addSensorReading s sensor value) := by
  refine ⟨?_, inOrder_snoc accounted.ordered trivial⟩
  intro other measured
  have held := accounted.held other measured
  simp only [addSensorReading]
  rw [pendingReadings_added]
  by_cases same : sensor = other
  · subst same
    rw [if_pos rfl, Function.update_self]
    exact held.add value
  · rw [if_neg same, Function.update_of_ne (Ne.symm same)]
    exact held

/-- What sending a sensor's value does: nothing when nothing is pending, and otherwise one publish of
the mean, after which the readings are gone if it succeeded. -/
theorem sendSensorValue_cases (s : App σ) (sensor : SensorId) :
    ((s.sensors sensor).numberOfValues = 0 ∧ sendSensorValue publish s sensor = (0, s)) ∨
    ((s.sensors sensor).numberOfValues ≠ 0 ∧ ∃ ret net updated,
      (sendSensorValue publish s sensor).2 =
        { s with
          sensors := Function.update s.sensors sensor updated
          net
          events := s.events ++ [.published sensor
            (valueString ((s.sensors sensor).totalValue / (s.sensors sensor).numberOfValues)).2 ret] } ∧
      ((ret < 0 ∧ (sendSensorValue publish s sensor).1 = ret ∧ updated = s.sensors sensor) ∨
        (0 ≤ ret ∧ (sendSensorValue publish s sensor).1 = 0 ∧
          updated = { s.sensors sensor with totalValue := 0, numberOfValues := 0 }))) := by
  by_cases empty : (s.sensors sensor).numberOfValues = 0
  · refine Or.inl ⟨empty, ?_⟩
    rw [sendSensorValue, haSendSensorValue_empty _ empty]
    simp
  · refine Or.inr ⟨empty, ?_⟩
    rw [sendSensorValue, haSendSensorValue_pending _ empty]
    rcases answer : publish (s.sensors sensor).fullStateTopic
      (valueString ((s.sensors sensor).totalValue / (s.sensors sensor).numberOfValues)).2
      (s.sensors sensor).retain s.net with ⟨ret, net⟩
    simp only [recorded, answer]
    by_cases failed : ret < 0
    · exact ⟨ret, net, s.sensors sensor, by simp [failed], Or.inl ⟨failed, by simp [failed], rfl⟩⟩
    · exact ⟨ret, net, { s.sensors sensor with totalValue := 0, numberOfValues := 0 }, by simp [failed],
        Or.inr ⟨by omega, by simp [failed], rfl⟩⟩

theorem sendSensorValue_accounted {s : App σ} (accounted : Accounted s) {sensor : SensorId}
    (measured : sensor ≠ .watchdogTriggered) : Accounted (sendSensorValue publish s sensor).2 := by
  have held := accounted.held sensor measured
  rcases sendSensorValue_cases publish s sensor with ⟨_, same⟩ | ⟨nonempty, ret, net, updated, same, outcome⟩
  · rw [same]
    exact accounted
  · rw [same]
    refine ⟨?_, inOrder_snoc accounted.ordered (Or.inr ⟨?_, by rw [held.mean_eq]⟩)⟩
    · intro other otherMeasured
      dsimp only
      rw [pendingReadings_published]
      by_cases this : sensor = other
      · subst this
        rw [Function.update_self]
        rcases outcome with ⟨failed, _, rfl⟩ | ⟨succeeded, _, rfl⟩
        · rw [if_neg (by omega)]
          exact held
        · rw [if_pos ⟨rfl, succeeded⟩]
          exact represents_nil
      · rw [Function.update_of_ne (Ne.symm this), if_neg (fun both => this both.1)]
        exact accounted.held other otherMeasured
    · intro zero
      exact nonempty (held.count_eq_zero.mpr zero)

theorem Accounted.congr {s t : App σ} (accounted : Accounted s) (sensors : t.sensors = s.sensors)
    (events : t.events = s.events) : Accounted t := by
  refine ⟨?_, by rw [events]; exact accounted.ordered⟩
  rw [sensors, events]
  exact accounted.held

theorem watchdog_accounted {s t : App σ} (accounted : Accounted s)
    (sensors : ∀ sensor, sensor ≠ .watchdogTriggered → t.sensors sensor = s.sensors sensor)
    (events : t.events = s.events ∨
      ∃ payload ret, t.events = s.events ++ [.published .watchdogTriggered payload ret]) : Accounted t := by
  rcases events with same | ⟨payload, ret, sent⟩
  · refine ⟨?_, by rw [same]; exact accounted.ordered⟩
    intro sensor measured
    rw [sensors sensor measured, same]
    exact accounted.held sensor measured
  · refine ⟨?_, by rw [sent]; exact inOrder_snoc accounted.ordered (Or.inl rfl)⟩
    intro sensor measured
    rw [sensors sensor measured, sent, pendingReadings_published, if_neg (fun both => measured both.1.symm)]
    exact accounted.held sensor measured

theorem sendBinarySensorState_event (s : App σ) :
    ∃ payload ret, (sendBinarySensorState publish .watchdogTriggered s).2.events =
      s.events ++ [.published .watchdogTriggered payload ret] := by
  unfold sendBinarySensorState haSendBinarySensorState recorded
  dsimp only
  split <;> split <;> exact ⟨_, _, rfl⟩

theorem sendBinarySensorState_accounted {s : App σ} (accounted : Accounted s) :
    Accounted (sendBinarySensorState publish .watchdogTriggered s).2 :=
  watchdog_accounted accounted (fun _ _ => rfl) (Or.inr (sendBinarySensorState_event publish s))

theorem accounted_rule : LoopInvariant publish Accounted where
  control _ _ _ accounted := accounted.congr rfl rfl
  add value _ accounted := addSensorReading_accounted accounted _ value
  send measured accounted := sendSensorValue_accounted publish accounted measured
  set _ accounted := watchdog_accounted accounted (fun _ measured => Function.update_of_ne measured _ _) (Or.inl rfl)
  announce accounted := sendBinarySensorState_accounted publish accounted

def PublishFailed (events : List Event) : Prop := ∃ sensor payload ret, .published sensor payload ret ∈ events ∧ ret < 0

theorem publishFailed_append {events more : List Event} :
    PublishFailed (events ++ more) ↔ PublishFailed events ∨ PublishFailed more := by
  simp only [PublishFailed, List.mem_append, or_and_right, exists_or]

theorem sendSensorValue_negative (s : App σ) (sensor : SensorId) :
    ∃ more, (sendSensorValue publish s sensor).2.events = s.events ++ more ∧
      ((sendSensorValue publish s sensor).1 < 0 ↔ PublishFailed more) := by
  rcases sendSensorValue_cases publish s sensor with ⟨_, same⟩ | ⟨_, ret, net, updated, same, outcome⟩
  · rw [same]
    exact ⟨[], by simp, by simp [PublishFailed]⟩
  · refine ⟨_, by rw [same], ?_⟩
    rcases outcome with ⟨failed, returned, _⟩ | ⟨succeeded, returned, _⟩
    · rw [returned]
      exact iff_of_true failed ⟨_, _, _, List.mem_singleton_self _, failed⟩
    · rw [returned]
      refine iff_of_false (by omega) ?_
      intro failed
      obtain ⟨_, _, _, present, negative⟩ := failed
      cases List.mem_singleton.mp present
      omega

theorem sendEach_failed (sensors : List SensorId) (nonFatalError : Bool) (s : App σ) :
    ∃ more, (sendEach publish sensors nonFatalError s).2.events = s.events ++ more ∧
      ((sendEach publish sensors nonFatalError s).1 = true ↔ nonFatalError = true ∨ PublishFailed more) := by
  induction sensors generalizing nonFatalError s with
  | nil => exact ⟨[], by simp [sendEach], by simp [sendEach, PublishFailed]⟩
  | cons sensor rest ih =>
    obtain ⟨first, appended, negative⟩ := sendSensorValue_negative publish s sensor
    obtain ⟨later, appended', failed⟩ := ih
      (if (sendSensorValue publish s sensor).1 < 0 then true else nonFatalError) (sendSensorValue publish s sensor).2
    refine ⟨first ++ later, ?_, ?_⟩
    · rw [sendEach, appended', appended, List.append_assoc]
    · rw [sendEach, failed, publishFailed_append, ← or_assoc]
      refine or_congr_left ?_
      by_cases sent : (sendSensorValue publish s sensor).1 < 0
      · simp [sent, ← negative]
      · simp [sent, ← negative]

theorem sendSensorValues_negative (s : App σ) :
    (sendSensorValues publish s).1 < 0 ↔
      PublishFailed ((sendSensorValues publish s).2.events.drop s.events.length) := by
  obtain ⟨more, appended, failed⟩ := sendEach_failed publish measured false s
  have events : (sendSensorValues publish s).2.events = s.events ++ more := appended
  rw [events, List.drop_left]
  simp only [Bool.false_eq_true, false_or] at failed
  rw [← failed, sendSensorValues]
  cases flag : (sendEach publish measured false s).1 <;> simp [flag]

/-! ### What the reads deliver -/

theorem loopReads_events (s : App σ) (reads : Reads) : (loopReads s reads).events = s.events ++ readings reads := by
  unfold loopReads readSps30 readScd40 readTemphum24 readings addSensorReading
  by_cases temphum24 : reads.temphum24 < 0 <;> by_cases scd40 : reads.scd40 < 0 <;>
    by_cases sps30 : reads.sps30 < 0 <;> simp [temphum24, scd40, sps30]

theorem sendSensorValue_readings (sensor other : SensorId) (s : App σ) :
    readingsOf sensor (sendSensorValue publish s other).2.events = readingsOf sensor s.events := by
  rcases sendSensorValue_cases publish s other with ⟨_, same⟩ | ⟨_, ret, net, updated, same, _⟩
  · rw [same]
  · rw [same]
    exact readingsOf_published _ _ _ _ _

theorem sendEach_readings (sensor : SensorId) (sensors : List SensorId) (nonFatalError : Bool) (s : App σ) :
    readingsOf sensor (sendEach publish sensors nonFatalError s).2.events = readingsOf sensor s.events := by
  induction sensors generalizing nonFatalError s with
  | nil => rfl
  | cons other rest ih =>
    rw [sendEach, ih]
    exact sendSensorValue_readings publish sensor other s

theorem loopSend_readings (sensor : SensorId) (s : App σ) :
    readingsOf sensor (loopSend publish s).2.events = readingsOf sensor s.events := by
  unfold loopSend
  split
  · exact sendEach_readings publish sensor measured false s
  · rfl

theorem loopResetWatchdogSensor_readings (sensor : SensorId) (s : App σ) (patience : Nat) :
    readingsOf sensor (loopResetWatchdogSensor publish s patience).events = readingsOf sensor s.events := by
  have keep : ∀ t : App σ, readingsOf sensor t.events = readingsOf sensor s.events →
      readingsOf sensor (sendBinarySensorState publish .watchdogTriggered t).2.events = readingsOf sensor s.events := by
    intro t same
    obtain ⟨payload, ret, sent⟩ := sendBinarySensorState_event publish t
    rw [sent, readingsOf_published, same]
  unfold loopResetWatchdogSensor
  split
  · exact retry_invariant keep patience rfl
  · rfl

/-- An iteration adds what its reads deliver. -/
theorem iterate_readings (sensor : SensorId) {s : App σ} (running : s.blocked = false) (turn : Turn) :
    readingsOf sensor (iterate publish s turn).events =
      readingsOf sensor s.events ++ readingsOf sensor (readings turn.reads) := by
  have added : readingsOf sensor (loopResetWatchdogSensor publish (loopSend publish (loopReads s turn.reads)).2
      turn.patience).events = readingsOf sensor s.events ++ readingsOf sensor (readings turn.reads) := by
    rw [loopResetWatchdogSensor_readings, loopSend_readings, loopReads_events, readingsOf_append]
  unfold iterate loopBody
  rw [running, if_neg Bool.false_ne_true]
  dsimp only
  split
  · exact added
  · exact added

/-- The reading of a sensor that the reads of an iteration deliver. -/
def Reads.delivered (reads : Reads) (sensor : SensorId) : Option ℚ :=
  if reads.code sensor < 0 then none else some (reads.value sensor)

/-- From `before` on, the readings of each sensor are in order what the reads of the iterations begun have delivered: of
all iterations, unless one blocks. -/
def Gathered (turns : List Turn) (before : List Event) (s : App σ) : Prop :=
  ∃ n ≤ turns.length, (s.blocked = false → n = turns.length) ∧ ∀ sensor, readingsOf sensor s.events =
    readingsOf sensor before ++ (turns.take n).filterMap fun turn => turn.reads.delivered sensor

theorem run_gathered (s : App σ) (turns : List Turn) : Gathered turns s.events (run (iterate publish) s turns) := by
  induction turns generalizing s with
  | nil => exact ⟨0, le_refl 0, fun _ => rfl, fun _ => (List.append_nil _).symm⟩
  | cons turn rest ih =>
    cases blocked : s.blocked with
    | true =>
      rw [run_blocked publish blocked]
      exact ⟨0, Nat.zero_le _, fun running => absurd running (by simp [blocked]), fun _ => (List.append_nil _).symm⟩
    | false =>
      obtain ⟨n, within, all, later⟩ := ih (iterate publish s turn)
      refine ⟨n + 1, Nat.succ_le_succ within, fun running => congrArg (· + 1) (all running), fun sensor => ?_⟩
      rw [run_cons, later, iterate_readings publish sensor blocked, readingsOf_readings, List.take_succ_cons,
        List.append_assoc]
      by_cases failed : turn.reads.code sensor < 0 <;> simp [Reads.delivered, failed]

/-! ### Runs -/

theorem sampling_accounted (ha : HomeAssistant) (ids topics : SensorId → Text) (watchdogTriggered : Bool) (net : σ) :
    Accounted (App.sampling ha ids topics watchdogTriggered net []) := by
  refine ⟨?_, trivial⟩
  intro sensor _
  have declared_empty : (declared sensor).totalValue = 0 ∧ (declared sensor).numberOfValues = 0 := by
    cases sensor <;> exact ⟨rfl, rfl⟩
  simp only [App.sampling, declared_empty]
  exact represents_nil

/-- What the publishes of one round do to each other, in any state. -/
structure SendsApart : Prop where
  empty : ∀ (s : App σ) (sensor : SensorId), (s.sensors sensor).numberOfValues = 0 →
    sendSensorValue publish s sensor = (0, s)
  failed : ∀ (s : App σ) (sensor : SensorId), (sendSensorValue publish s sensor).1 < 0 →
    (sendSensorValue publish s sensor).2.sensors = s.sensors
  others : ∀ (s : App σ) (sensor other : SensorId), other ≠ sensor →
    (sendSensorValue publish s sensor).2.sensors other = s.sensors other
  reported : ∀ s : App σ, (sendSensorValues publish s).1 < 0 ↔
    PublishFailed ((sendSensorValues publish s).2.events.drop s.events.length)

theorem sends_apart : SendsApart publish := by
  refine ⟨?_, ?_, ?_, sendSensorValues_negative publish⟩
  · intro s sensor empty
    rcases sendSensorValue_cases publish s sensor with ⟨_, same⟩ | ⟨nonempty, _⟩
    · exact same
    · exact absurd empty nonempty
  · intro s sensor failed
    rcases sendSensorValue_cases publish s sensor with ⟨_, same⟩ | ⟨_, ret, net, updated, same, outcome⟩
    · rw [same]
    · rw [same]
      rcases outcome with ⟨_, _, rfl⟩ | ⟨_, zero, _⟩
      · exact Function.update_eq_self sensor s.sensors
      · omega
  · intro s sensor other different
    rcases sendSensorValue_cases publish s sensor with ⟨_, same⟩ | ⟨_, ret, net, updated, same, _⟩
    · rw [same]
    · rw [same]
      exact Function.update_of_ne different _ _

/-- The readings of a sensor are those that its reads delivered. Every publish of it carried the mean of the readings
added since its last success, and the accumulators hold those added since. -/
structure NothingLost (turns : List Turn) (s : App σ) : Prop where
  gathered : Gathered turns [] s
  published : ∀ sensor ∈ measured, ∀ before payload ret after,
    s.events = before ++ .published sensor payload ret :: after →
      pendingReadings sensor before ≠ [] ∧ payload = (valueString (mean (pendingReadings sensor before))).2
  held : ∀ sensor ∈ measured, (s.sensors sensor).totalValue = (pendingReadings sensor s.events).sum ∧
    (s.sensors sensor).numberOfValues = (pendingReadings sensor s.events).length

/-- Whatever the reads and the publishes of a run do, its readings are accounted for. -/
theorem nothing_lost (ha : HomeAssistant) (ids topics : SensorId → Text) (watchdogTriggered : Bool) (net : σ)
    (turns : List Turn) :
    SendsApart publish ∧
      NothingLost turns (run (iterate publish) (App.sampling ha ids topics watchdogTriggered net []) turns) := by
  have accounted := (accounted_rule publish).run (sampling_accounted ha ids topics watchdogTriggered net) turns
  refine ⟨sends_apart publish, run_gathered publish _ turns, ?_, ?_⟩
  · intro sensor present before payload ret after same
    have inOrder := (along_iff_split [] _).mp accounted.ordered before _ after same
    rw [run_snoc, List.nil_append] at inOrder
    exact inOrder.resolve_left (measured_ne.mp present)
  · intro sensor present
    have held := accounted.held sensor (measured_ne.mp present)
    exact ⟨held.total_eq, held.count_eq⟩

end Network

end AirQuality.Station
