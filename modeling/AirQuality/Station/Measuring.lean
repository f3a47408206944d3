import AirQuality.Hvac.Detection
import AirQuality.Station.Boot
import AirQuality.Station.Schedule
import AirQuality.TempHum24.Reads

/-!
# From the sensors to the means

The HDC302x sends a temperature and a humidity in each iteration and the SPS30 its mass concentrations, over a bus that
may fail or spoil what it carries. What the station averages of them is what the sensors sent, and nothing of what the
bus made of it.
-/

namespace AirQuality.Station
open Foundation Ha Uid Hvac TempHum24

/-- An iteration with the words the HDC302x and the SPS30 send in it, which the bus may carry badly. -/
structure Occasion where
  answers : Answers
  sentTemperature : UInt8 × UInt8
  sentHumidity : UInt8 × UInt8
  sentMeasured : List (UInt8 × UInt8)
  sentMeasured_length : sentMeasured.length = 20
  noisyTemphum24 : Noisy [sentTemperature, sentHumidity] answers.temphum24
  noisySps30 : Noisy sentMeasured answers.sps30

/-- The HDC302x's answer has arrived as it was sent. -/
def Occasion.Arrives (occasion : Occasion) : Prop :=
  occasion.answers.temphum24.code = temphum24Ok ∧ ∀ index < 6,
    occasion.answers.temphum24.bytes index = (answer [occasion.sentTemperature, occasion.sentHumidity]).bytes index

/-- The SPS30 was asked, and its answer has arrived as it was sent. -/
def Occasion.MeasuredArrives (occasion : Occasion) : Prop :=
  ¬ occasion.answers.sps30Write < 0 ∧ occasion.answers.sps30.code = temphum24Ok ∧ ∀ index < 60,
    occasion.answers.sps30.bytes index = (answer occasion.sentMeasured).bytes index

instance (occasion : Occasion) : Decidable occasion.Arrives := inferInstanceAs (Decidable (_ ∧ ∀ _ < _, _))
instance (occasion : Occasion) : Decidable occasion.MeasuredArrives := inferInstanceAs (Decidable (_ ∧ _ ∧ ∀ _ < _, _))

/-- The bits of field `k` of a measurement. -/
def fieldBits (sent : List (UInt8 × UInt8)) (k : Nat) : UInt32 := UInt32.ofNat ((bigEndian (symbols sent)).getD k 0)

/-- The sensors whose answers are checked: those of the HDC302x and of the SPS30. -/
def checkedSensors : List SensorId := [.temperature, .humidity, .pm1, .pm25, .pm10]

theorem Occasion.arrives_iff (occasion : Occasion) :
    occasion.Arrives ↔ occasion.answers.temphum24.code = temphum24Ok ∧
      ChecksumsHold occasion.answers.temphum24.bytes 2 := by
  refine and_congr_right fun received => ?_
  exact (occasion.noisyTemphum24.checks_iff received).symm

theorem Occasion.measuredArrives_iff (occasion : Occasion) :
    occasion.MeasuredArrives ↔ ¬ occasion.answers.sps30Write < 0 ∧ occasion.answers.sps30.code = temphum24Ok ∧
      ChecksumsHold occasion.answers.sps30.bytes 20 := by
  refine and_congr_right fun _ => and_congr_right fun received => ?_
  have checks := occasion.noisySps30.checks_iff received
  rw [occasion.sentMeasured_length] at checks
  exact checks.symm

theorem readMeasuredData_code (ctx : Ctx) (mNCData : MassAndNumCntData) (data : Nat → UInt8) (write : Int)
    (read : Reply) :
    (hvacSps30ReadMeasuredData ctx mNCData data write read).1 = hvacOk ∨
      (hvacSps30ReadMeasuredData ctx mNCData data write read).1 < 0 := by
  by_cases accepted : (hvacSps30I2cReadDataAsBytes ctx sps30ReadMeasuredValue 20 write read).1.code = hvacOk
  · exact Or.inl (readMeasuredData_filled ctx mNCData data write read accepted).1
  · rw [(readMeasuredData_failed ctx mNCData data write read accepted).1]
    by_cases failed : write < 0 ∨ read.code < 0
    · obtain ⟨code, negative, result⟩ := readDataAsBytes_failed ctx sps30ReadMeasuredValue 20 failed
      rw [result]
      exact Or.inr negative
    · rw [not_or] at failed
      have negative : hvacError < 0 := by decide
      rw [readDataAsBytes_received ctx sps30ReadMeasuredValue 20 failed.1 failed.2]
      exact (checkWords_code read.bytes 20 0 0).imp_right fun refused => refused.trans_lt negative

theorem readMeasuredData_ok_iff (ctx : Ctx) (mNCData : MassAndNumCntData) (data : Nat → UInt8) (write : Int)
    (read : Reply) :
    (hvacSps30ReadMeasuredData ctx mNCData data write read).1 = hvacOk ↔
      ¬ write < 0 ∧ ¬ read.code < 0 ∧ ChecksumsHold read.bytes 20 := by
  rw [(readMeasuredData_exact ctx mNCData data write read).accepts, checksumsHold_iff, checkWords_ok_iff]

theorem readMeasuredData_failed_iff (ctx : Ctx) (mNCData : MassAndNumCntData) (data : Nat → UInt8) (write : Int)
    (read : Reply) :
    (hvacSps30ReadMeasuredData ctx mNCData data write read).1 < 0 ↔
      ¬ (¬ write < 0 ∧ ¬ read.code < 0 ∧ ChecksumsHold read.bytes 20) := by
  have either := readMeasuredData_code ctx mNCData data write read
  rw [← readMeasuredData_ok_iff ctx mNCData data write read]
  unfold hvacOk at *
  omega

theorem frame_congr {rx rx' : Nat → UInt8} {words : Nat} (same : ∀ index < 3 * words, rx index = rx' index) :
    frame rx words 0 = frame rx' words 0 := by
  apply List.map_congr_left
  intro index inside
  rw [← List.range_eq_range', List.mem_range] at inside
  exact same index inside

/-- The fields that `main` uses are those that were sent. -/
theorem readMeasuredData_fields (ctx : Ctx) (mNCData : MassAndNumCntData) (data : Nat → UInt8) {write : Int}
    {read : Reply} {sent : List (UInt8 × UInt8)}
    (accepted : (hvacSps30ReadMeasuredData ctx mNCData data write read).1 = hvacOk)
    (valid : frame read.bytes 20 0 = encode devCalcCrc sent) :
    let filled := (hvacSps30ReadMeasuredData ctx mNCData data write read).2.2
    filled.massPm1_0 = fieldBits sent 0 ∧ filled.massPm2_5 = fieldBits sent 1 ∧ filled.massPm10 = fieldBits sent 3 := by
  intro filled
  have fills := (readMeasuredData_exact ctx mNCData data write read).fills sent accepted valid
  have field : ∀ k, UInt32.ofNat ((filled.fields.map UInt32.toNat).getD k 0) = fieldBits sent k := fun k =>
    congrArg (fun values => UInt32.ofNat (values.getD k 0)) fills
  rw [← field 0, ← field 1, ← field 3]
  exact ⟨UInt32.ofNat_toNat.symm, UInt32.ofNat_toNat.symm, UInt32.ofNat_toNat.symm⟩

/-! ### Occasions -/

section Sampling
variable (single : UInt32 → ℚ)

/-- The reading that an occasion gives of a sensor whose answers are checked. -/
def Occasion.value (occasion : Occasion) : SensorId → Option ℚ
  | .temperature => if occasion.Arrives then some (temperatureOf (word occasion.sentTemperature.1 occasion.sentTemperature.2)) else none
  | .humidity => if occasion.Arrives then some (humidityOf (word occasion.sentHumidity.1 occasion.sentHumidity.2)) else none
  | .pm1 => if occasion.MeasuredArrives then some (single (fieldBits occasion.sentMeasured 0)) else none
  | .pm25 => if occasion.MeasuredArrives then some (single (fieldBits occasion.sentMeasured 1)) else none
  | .pm10 => if occasion.MeasuredArrives then some (single (fieldBits occasion.sentMeasured 3)) else none
  | .co2 | .watchdogTriggered => none

variable (boards : Boards) (occasion : Occasion)

/-- The HDC302x is read exactly if its answer arrives, and the readings are then those it carries. -/
theorem sample_temphum24 :
    let reads := (sample single boards occasion.answers).1
    (reads.temphum24 < 0 ↔ ¬ occasion.Arrives) ∧
    (occasion.Arrives →
      reads.temperature = temperatureOf (word occasion.sentTemperature.1 occasion.sentTemperature.2) ∧
      reads.humidity = humidityOf (word occasion.sentHumidity.1 occasion.sentHumidity.2)) := by
  have exactly := readTempAndRh_exact boards.temphum24 occasion.answers.temphum24 (boards.temperature, boards.humidity)
  have either := readTempAndRh_code boards.temphum24 occasion.answers.temphum24 (boards.temperature, boards.humidity)
  have negative := occasion.noisyTemphum24.code
  have accepts := exactly.accepts
  rw [← occasion.arrives_iff] at accepts
  refine ⟨?_, fun arrives => ?_⟩
  · rw [← accepts]
    show (temphum24ReadTempAndRh boards.temphum24 (boards.temperature, boards.humidity)
      occasion.answers.temphum24).1 < 0 ↔ _
    unfold temphum24Ok temphum24Error at *
    omega
  · have delivered := exactly.delivers (accepts.mpr arrives)
    obtain ⟨_, bytes⟩ := arrives
    rw [bytes 0 (by decide), bytes 1 (by decide), bytes 3 (by decide), bytes 4 (by decide)] at delivered
    exact ⟨congrArg Prod.fst delivered, congrArg Prod.snd delivered⟩

/-- So is the SPS30. -/
theorem sample_sps30 :
    let reads := (sample single boards occasion.answers).1
    (reads.sps30 < 0 ↔ ¬ occasion.MeasuredArrives) ∧
    (occasion.MeasuredArrives →
      reads.massPm1_0 = single (fieldBits occasion.sentMeasured 0) ∧
      reads.massPm2_5 = single (fieldBits occasion.sentMeasured 1) ∧
      reads.massPm10 = single (fieldBits occasion.sentMeasured 3)) := by
  have received : ¬ occasion.answers.sps30.code < 0 ↔ occasion.answers.sps30.code = temphum24Ok := by
    have negative := occasion.noisySps30.code
    unfold temphum24Ok
    omega
  have arrives_iff := occasion.measuredArrives_iff
  rw [← received] at arrives_iff
  refine ⟨?_, fun arrives => ?_⟩
  · exact (readMeasuredData_failed_iff _ boards.sps30Data occasion.answers.data _ _).trans (not_congr arrives_iff.symm)
  · have valid : frame occasion.answers.sps30.bytes 20 0 = encode devCalcCrc occasion.sentMeasured := by
      have sent := answer_frame occasion.sentMeasured
      rw [occasion.sentMeasured_length] at sent
      rw [frame_congr arrives.2.2, sent]
    have accepted := (readMeasuredData_ok_iff (hvacScd40ReadMeasurement boards.hvac boards.hvacData
      occasion.answers.scd40).2.1 boards.sps30Data occasion.answers.data _ _).mpr (arrives_iff.mp arrives)
    obtain ⟨first, second, fourth⟩ := readMeasuredData_fields _ boards.sps30Data occasion.answers.data accepted valid
    exact ⟨congrArg single first, congrArg single second, congrArg single fourth⟩

theorem sample_delivered {sensor : SensorId} (checked : sensor ∈ checkedSensors) :
    (sample single boards occasion.answers).1.delivered sensor = occasion.value single sensor := by
  have one : ∀ {failed arrives : Prop} [Decidable failed] [Decidable arrives] {value sent : ℚ},
      (failed ↔ ¬ arrives) → (arrives → value = sent) →
      (if failed then none else some value) = if arrives then some sent else none := by
    intro failed arrives _ _ value sent fails carries
    by_cases arrived : arrives
    · rw [if_neg (mt fails.mp (not_not.mpr arrived)), if_pos arrived, carries arrived]
    · rw [if_pos (fails.mpr arrived), if_neg arrived]
  obtain ⟨fails, carries⟩ := sample_temphum24 single boards occasion
  obtain ⟨fails', carries'⟩ := sample_sps30 single boards occasion
  cases sensor with
  | watchdogTriggered => exact absurd checked (by decide)
  | temperature => exact one fails fun arrives => (carries arrives).1
  | humidity => exact one fails fun arrives => (carries arrives).2
  | co2 => exact absurd checked (by decide)
  | pm1 => exact one fails' fun arrives => (carries' arrives).1
  | pm25 => exact one fails' fun arrives => (carries' arrives).2.1
  | pm10 => exact one fails' fun arrives => (carries' arrives).2.2

theorem sampledTurns_delivered {sensor : SensorId} (checked : sensor ∈ checkedSensors) (occasions : List Occasion)
    (n : Nat) :
    ((sampledTurns single boards (occasions.map Occasion.answers)).take n).filterMap
        (fun turn => turn.reads.delivered sensor) =
      (occasions.take n).filterMap fun occasion => occasion.value single sensor := by
  induction occasions generalizing boards n with
  | nil => simp [sampledTurns]
  | cons occasion rest ih =>
    cases n with
    | zero => rfl
    | succ n =>
      rw [List.map_cons, sampledTurns, List.take_succ_cons, List.take_succ_cons, List.filterMap_cons,
        List.filterMap_cons, ih]
      dsimp only
      rw [sample_delivered single boards occasion checked]

end Sampling

section Run
variable {σ : Type*} (publish : Publish σ) (single : UInt32 → ℚ)

/-- After `before`, `after` has the readings that the answers of some occasions carry. -/
def Adds (occasions : List Occasion) (before after : List Event) : Prop :=
  ∀ sensor ∈ checkedSensors, readingsOf sensor after =
    readingsOf sensor before ++ occasions.filterMap fun occasion => occasion.value single sensor

theorem run_adds (rig : Rig σ) (occasions : List Occasion) :
    let final := run (Rig.iterate publish single) rig (occasions.map Occasion.answers)
    ∃ n ≤ occasions.length, (final.app.blocked = false → n = occasions.length) ∧
      Adds single (occasions.take n) rig.app.events final.app.events := by
  intro final
  have gathered := run_gathered publish rig.app (sampledTurns single rig.boards (occasions.map Occasion.answers))
  unfold Gathered at gathered
  rw [← Rig.run_app, length_sampledTurns, List.length_map] at gathered
  obtain ⟨n, within, all, readings⟩ := gathered
  refine ⟨n, within, all, fun sensor checked => ?_⟩
  rw [readings sensor, sampledTurns_delivered single rig.boards checked]

/-! ### The accumulators at the start -/

def Blank (sensor : HaSensor) : Prop := sensor.totalValue = 0 ∧ sensor.numberOfValues = 0

theorem declared_blank (sensor : SensorId) : Blank (declared sensor) := by
  cases sensor <;> exact ⟨rfl, rfl⟩

theorem haRegisterSensor_blank (platform : Platform) (ha : HomeAssistant) {sensor : HaSensor} (blank : Blank sensor)
    (net : σ) : Blank (haRegisterSensor publish platform ha sensor net).2.1 := by
  unfold haRegisterSensor
  dsimp only
  split
  · exact blank
  · split
    · exact blank
    · split
      · exact blank
      · exact blank

theorem registerAll_blank (platform : Platform) (ha : HomeAssistant) (patience : SensorId → Nat)
    (todo : List SensorId) {sensors : SensorId → HaSensor} (blank : ∀ sensor, Blank (sensors sensor)) (net : σ) :
    ∀ sensor, Blank ((registerAll publish platform ha patience todo sensors net).2.1 sensor) := by
  induction todo generalizing sensors net with
  | nil => exact blank
  | cons head rest ih =>
    have keep : ∀ t : HaSensor × σ, Blank t.1 → Blank (haRegisterSensor publish platform ha t.1 t.2).2.1 := fun t held =>
      haRegisterSensor_blank publish platform ha held t.2
    have registered : Blank (retry (fun t : HaSensor × σ => haRegisterSensor publish platform ha t.1 t.2)
        (patience head) (sensors head, net)).2.1 := retry_invariant keep (patience head) (blank head)
    have updated : ∀ sensor, Blank (Function.update sensors head (retry (fun t : HaSensor × σ =>
        haRegisterSensor publish platform ha t.1 t.2) (patience head) (sensors head, net)).2.1 sensor) := by
      intro sensor
      by_cases same : sensor = head
      · subst same
        rw [Function.update_self]
        exact registered
      · rw [Function.update_of_ne same]
        exact blank sensor
    unfold registerAll
    dsimp only
    split
    · exact ih updated _
    · exact updated

theorem blank_accounted {s : App σ} (blank : ∀ sensor, sensor ≠ .watchdogTriggered → Blank (s.sensors sensor))
    (events : s.events = []) : Accounted s := by
  refine ⟨?_, by rw [events]; trivial⟩
  intro sensor measured
  obtain ⟨total, count⟩ := blank sensor measured
  rw [events, total, count]
  exact represents_nil

theorem start_accounted (init : Init σ) (platform : Platform) (patience : Patience) (power : PowerOn)
    (identity : Identity) (boards : Boards) (net : σ) :
    let s := (Rig.start publish init platform patience power identity boards net).app
    Accounted s ∧ s.events = [] := by
  have named : ∀ sensor, Blank { declared sensor with uniqueId := identity.ids sensor } := declared_blank
  have registered := registerAll_blank publish platform (haStart init (bin2hex identity.cpu) {} net).2.1 patience.register
    SensorId.all named (haStart init (bin2hex identity.cpu) {} net).2.2
  unfold Rig.start
  dsimp only
  split
  · exact ⟨blank_accounted (fun sensor _ => registered sensor) rfl, rfl⟩
  · split
    · exact ⟨blank_accounted (fun sensor _ => registered sensor) rfl, rfl⟩
    · split
      · exact ⟨blank_accounted (fun sensor _ => registered sensor) rfl, rfl⟩
      · refine ⟨blank_accounted (fun sensor measured => ?_) rfl, rfl⟩
        unfold announce
        dsimp only
        rw [(sendBinarySensorRetry_frame publish patience.announce _).1]
        unfold setWatchdogSensor
        dsimp only
        rw [Function.update_of_ne measured]
        exact registered sensor

theorem main_accounted (init : Init σ) (platform : Platform) (patience : Patience) (power : PowerOn) (boards : Boards)
    (net : σ) (turns : List Answers) :
    Accounted (Rig.main publish single init platform patience power boards net turns).app := by
  rcases Rig.main_cases publish single init platform patience power boards net turns with
    ⟨_, stopped⟩ | ⟨identity, identified, started⟩
  · rw [stopped]
    exact blank_accounted (fun sensor _ => declared_blank sensor) rfl
  · rw [started, Rig.run_app]
    exact (accounted_rule publish).run
      (start_accounted publish init platform patience power identity identified net).1 _

/-- The answers of the first iterations, up to the one in which the station blocks, are what a run adds. -/
theorem main_adds (init : Init σ) (platform : Platform) (patience : Patience) (power : PowerOn) (boards : Boards)
    (net : σ) (occasions : List Occasion) :
    let s := (Rig.main publish single init platform patience power boards net (occasions.map Occasion.answers)).app
    ∃ n ≤ occasions.length, (s.blocked = false → n = occasions.length) ∧
      Adds single (occasions.take n) [] s.events := by
  intro s
  unfold s
  rcases Rig.main_cases publish single init platform patience power boards net (occasions.map Occasion.answers) with
    ⟨_, stopped⟩ | ⟨identity, identified, started⟩
  · rw [stopped]
    exact ⟨0, Nat.zero_le _, Bool.noConfusion, fun _ _ => rfl⟩
  · rw [started]
    have silent := (start_accounted publish init platform patience power identity identified net).2
    have adds := run_adds publish single (Rig.start publish init platform patience power identity identified net)
      occasions
    rw [silent] at adds
    exact adds

/-- The readings of a sensor are `readings`, and what is published of it are means of successive ones. -/
structure Averages (sensor : SensorId) (readings : List ℚ) (events : List Event) : Prop where
  added : readingsOf sensor events = readings
  published : ∀ before payload ret after, events = before ++ .published sensor payload ret :: after →
    ∃ part, part ≠ [] ∧ part <:+: readings ∧ payload = (valueString (mean part)).2

theorem averages_of_accounted {s : App σ} (accounted : Accounted s) {sensor : SensorId}
    (measured : sensor ≠ .watchdogTriggered) : Averages sensor (readingsOf sensor s.events) s.events := by
  refine ⟨rfl, ?_⟩
  intro before payload ret after same
  have inOrder := (along_iff_split [] _).mp accounted.ordered before _ after same
  rw [run_snoc, List.nil_append] at inOrder
  obtain ⟨nonempty, mean⟩ := inOrder.resolve_left measured
  refine ⟨_, nonempty, ?_, mean⟩
  rw [same, readingsOf_append]
  exact (pendingReadings_suffix sensor before).isInfix.trans (List.prefix_append _ _).isInfix

/-- Where the bus spoils answers of the HDC302x and the SPS30 only by small errors, what a run averages of them is what
the sensors have sent, in order, in the answers that have arrived. -/
theorem measurements_genuine (init : Init σ) (platform : Platform) (patience : Patience) (power : PowerOn)
    (boards : Boards) (net : σ) (occasions : List Occasion) :
    let s := (Rig.main publish single init platform patience power boards net (occasions.map Occasion.answers)).app
    ∃ n ≤ occasions.length, (s.blocked = false → n = occasions.length) ∧
      ∀ sensor ∈ checkedSensors,
        Averages sensor ((occasions.take n).filterMap fun occasion => occasion.value single sensor) s.events := by
  intro s
  have accounted : Accounted s := main_accounted publish single init platform patience power boards net _
  obtain ⟨n, within, all, adds⟩ := main_adds publish single init platform patience power boards net occasions
  refine ⟨n, within, all, fun sensor checked => ?_⟩
  have measured : sensor ≠ .watchdogTriggered := by
    rintro rfl
    exact absurd checked (by decide)
  have averages := averages_of_accounted accounted measured
  rw [adds sensor checked] at averages
  exact averages

end Run

end AirQuality.Station
