import AirQuality.Foundation.Precision
import AirQuality.Station.Availability
import AirQuality.Station.Measuring

/-!
# The values published

A temperature, a humidity or a CO₂ concentration is a step of 1/65535 between two limits, and so a mean of them stays
between the limits and is not too small to write. The sixteen bytes of `value_string` hold the whole text, which says
the mean to six digits.
-/

namespace AirQuality.Station
open Foundation Ha Uid Hvac TempHum24

def resolution : ℚ := 1 / 65535

/-- A number that a sensor with the limits `low` and `high` can read. -/
structure Measurable (low high value : ℚ) : Prop where
  least : low ≤ value
  most : value ≤ high
  step : ∃ z : Int, value = z * resolution

/-- The limits of the sensors whose readings are words. -/
inductive Limits : SensorId → ℚ → ℚ → Prop where
  | temperature : Limits .temperature tempMin tempMax
  | humidity : Limits .humidity 0 humMax
  | co2 : Limits .co2 0 dataResolution

theorem word_limits (raw : UInt16) : (0 : ℚ) ≤ raw.toNat ∧ (raw.toNat : ℚ) ≤ 65535 := by
  have bound : raw.toNat ≤ 65535 := Nat.lt_succ_iff.mp raw.toNat_lt
  exact ⟨Nat.cast_nonneg _, by exact_mod_cast bound⟩

theorem temperatureOf_measurable (raw : UInt16) : Measurable tempMin tempMax (temperatureOf raw) := by
  obtain ⟨least, most⟩ := word_limits raw
  unfold temperatureOf tempMin tempMax dataResolution
  refine ⟨?_, ?_, 175 * raw.toNat - 45 * 65535, ?_⟩
  · have positive : (0 : ℚ) ≤ (130 - -45) * raw.toNat / 65535 := by positivity
    linarith
  · linarith
  · unfold resolution
    push_cast
    ring

theorem humidityOf_measurable (raw : UInt16) : Measurable 0 humMax (humidityOf raw) := by
  obtain ⟨least, most⟩ := word_limits raw
  unfold humidityOf humMax dataResolution
  refine ⟨by positivity, by linarith, 100 * raw.toNat, ?_⟩
  unfold resolution
  push_cast
  ring

theorem co2_measurable (raw : UInt16) : Measurable 0 dataResolution raw.toNat := by
  obtain ⟨least, most⟩ := word_limits raw
  refine ⟨least, most, 65535 * raw.toNat, ?_⟩
  unfold resolution
  push_cast
  ring

/-- A payload is the text of `value`, and says it to six digits. -/
structure Says (payload : Text) (value : ℚ) : Prop where
  whole : payload = formatG value
  short : payload.length ≤ 12
  precise : |readDecimal payload - value| ≤ |value| * (5 / 10 ^ 6)

/-- The mean of fewer than 2^31 readings stays between their limits and is published whole. -/
theorem mean_says {low high : ℚ} {values : List ℚ} (nonempty : values ≠ [])
    (all : ∀ value ∈ values, Measurable low high value) (inside : -65535 ≤ low ∧ high ≤ 65535)
    (few : values.length < 2 ^ 31) :
    (low ≤ mean values ∧ mean values ≤ high) ∧ Says (valueString (mean values)).2 (mean values) := by
  have least := le_mean nonempty fun value present => (all value present).least
  have most := mean_le nonempty fun value present => (all value present).most
  have small : |mean values| < 10 ^ 99 := by
    obtain ⟨above, below⟩ := inside
    have bound : |mean values| ≤ 65535 := abs_le.mpr ⟨above.trans least, most.trans below⟩
    exact bound.trans_lt (by norm_num)
  have large : mean values = 0 ∨ 1 / 10 ^ 99 ≤ |mean values| := by
    have positive : 0 < resolution := by norm_num [resolution]
    refine (mean_coarse positive nonempty fun value present => (all value present).step).imp_right fun coarse => ?_
    have many : (values.length : ℚ) ≤ 2 ^ 31 := by exact_mod_cast few.le
    have length := @length_pos_cast ℚ _ _ _ values nonempty
    calc (1 : ℚ) / 10 ^ 99 ≤ resolution / 2 ^ 31 := by norm_num [resolution]
      _ ≤ resolution / values.length := by gcongr
      _ ≤ |mean values| := coarse
  have twelve := length_formatG small large
  have whole : (valueString (mean values)).2 = formatG (mean values) := by
    have fits : (formatG (mean values)).length < valueStringSize := by
      unfold valueStringSize
      omega
    unfold valueString
    rw [snprintf_fits fits]
  refine ⟨⟨least, most⟩, ⟨whole, ?_, ?_⟩⟩
  · rw [whole]
    exact twelve
  · rw [whole]
    exact readDecimal_formatG _

/-! ### The readings of a run -/

section Run
variable {σ : Type*} (publish : Publish σ) (single : UInt32 → ℚ)

/-- The readings of the sensor are measurable, and at most `n`. -/
structure Credible (sensor : SensorId) (low high : ℚ) (n : Nat) (events : List Event) : Prop where
  measurable : ∀ value ∈ readingsOf sensor events, Measurable low high value
  few : (readingsOf sensor events).length ≤ n

theorem Credible.append {sensor : SensorId} {low high : ℚ} {n m : Nat} {before more : List Event}
    (credible : Credible sensor low high n before) (later : Credible sensor low high m more) :
    Credible sensor low high (n + m) (before ++ more) := by
  constructor
  · intro value present
    rw [readingsOf_append] at present
    rcases List.mem_append.mp present with first | second
    · exact credible.measurable value first
    · exact later.measurable value second
  · rw [readingsOf_append, List.length_append]
    exact Nat.add_le_add credible.few later.few

theorem credible_one {sensor : SensorId} {low high value : ℚ} {failed : Prop} [Decidable failed] {events : List Event}
    (one : readingsOf sensor events = if failed then [] else [value]) (measurable : ¬ failed → Measurable low high value) :
    Credible sensor low high 1 events := by
  constructor
  · intro other present
    rw [one] at present
    split at present
    · exact absurd present List.not_mem_nil
    · rename_i succeeded
      rw [List.mem_singleton.mp present]
      exact measurable succeeded
  · rw [one]
    split
    · exact Nat.zero_le 1
    · exact le_refl 1

theorem sample_credible {sensor : SensorId} {low high : ℚ} (limits : Limits sensor low high) (boards : Boards)
    {answers : Answers} (code : answers.temphum24.code ≤ 0) :
    Credible sensor low high 1 (readings (sample single boards answers).1) := by
  have exactly := readTempAndRh_exact boards.temphum24 answers.temphum24 (boards.temperature, boards.humidity)
  have either := readTempAndRh_code boards.temphum24 answers.temphum24 (boards.temperature, boards.humidity)
  have delivered : ¬ (sample single boards answers).1.temphum24 < 0 → _ := fun succeeded => exactly.delivers (by
    change ¬ (temphum24ReadTempAndRh boards.temphum24 (boards.temperature, boards.humidity)
      answers.temphum24).1 < 0 at succeeded
    unfold temphum24Ok temphum24Error at *
    omega)
  cases limits with
  | temperature =>
    refine credible_one (readingsOf_readings _ _) fun succeeded => ?_
    have same : (sample single boards answers).1.value .temperature = _ := congrArg Prod.fst (delivered succeeded)
    rw [same]
    exact temperatureOf_measurable _
  | humidity =>
    refine credible_one (readingsOf_readings _ _) fun succeeded => ?_
    have same : (sample single boards answers).1.value .humidity = _ := congrArg Prod.snd (delivered succeeded)
    rw [same]
    exact humidityOf_measurable _
  | co2 => exact credible_one (readingsOf_readings _ _) fun _ => co2_measurable _

theorem run_credible {sensor : SensorId} {low high : ℚ} (limits : Limits sensor low high) {n : Nat} {rig : Rig σ}
    (credible : Credible sensor low high n rig.app.events) {turns : List Answers}
    (codes : ∀ answers ∈ turns, answers.temphum24.code ≤ 0) :
    Credible sensor low high (n + turns.length) (run (Rig.iterate publish single) rig turns).app.events := by
  induction turns generalizing n rig with
  | nil => exact credible
  | cons answers rest ih =>
    rw [List.forall_mem_cons] at codes
    rw [run_cons, List.length_cons, Nat.add_comm rest.length, ← Nat.add_assoc]
    refine ih ?_ codes.2
    unfold Rig.iterate
    cases running : rig.app.blocked with
    | true =>
      rw [if_pos rfl]
      exact ⟨credible.measurable, credible.few.trans (Nat.le_succ n)⟩
    | false =>
      have added := credible.append (sample_credible single limits rig.boards codes.1)
      have same := iterate_readings publish sensor running ⟨(sample single rig.boards answers).1, answers.patience⟩
      rw [← readingsOf_append] at same
      rw [if_neg Bool.false_ne_true]
      exact ⟨by rw [same]; exact added.measurable, by rw [same]; exact added.few⟩

/-- In every run over buses that keep to their result codes, a published temperature, humidity or CO₂ concentration is
a mean between the limits of its sensor, and its text is complete and says the mean to six digits. -/
theorem values_faithful (init : Init σ) (platform : Platform) (patience : Patience) (power : PowerOn) (boards : Boards)
    (net : σ) (turns : List Answers) (codes : ∀ answers ∈ turns, answers.temphum24.code ≤ 0)
    (few : turns.length < 2 ^ 31) :
    let s := (Rig.main publish single init platform patience power boards net turns).app
    ∀ sensor low high, Limits sensor low high →
      ∀ before payload ret after, s.events = before ++ .published sensor payload ret :: after →
        (low ≤ mean (pendingReadings sensor before) ∧ mean (pendingReadings sensor before) ≤ high) ∧
          Says payload (mean (pendingReadings sensor before)) := by
  intro s sensor low high limits before payload ret after same
  have measured : sensor ≠ .watchdogTriggered := by
    cases limits <;> decide
  have inside : -65535 ≤ low ∧ high ≤ 65535 := by
    cases limits <;> norm_num [tempMin, tempMax, humMax, dataResolution]
  have silence : ∀ events : List Event, events = [] → Credible sensor low high 0 events := by
    rintro events rfl
    exact ⟨fun _ present => absurd present List.not_mem_nil, le_refl 0⟩
  have accounted : Accounted s := main_accounted publish single init platform patience power boards net turns
  have credible : Credible sensor low high (0 + turns.length) s.events := by
    unfold s
    rcases Rig.main_cases publish single init platform patience power boards net turns with
      ⟨_, stopped⟩ | ⟨identity, identified, started⟩
    · have silent := silence [] rfl
      rw [stopped]
      exact ⟨silent.measurable, silent.few.trans (Nat.zero_le _)⟩
    · rw [started]
      have silent := (start_accounted publish init platform patience power identity identified net).2
      exact run_credible publish single limits (silence _ silent) codes
  have inOrder := (along_iff_split [] _).mp accounted.ordered before _ after same
  rw [run_snoc, List.nil_append] at inOrder
  obtain ⟨nonempty, text⟩ := inOrder.resolve_left measured
  have within : pendingReadings sensor before ⊆ readingsOf sensor s.events := by
    rw [same, readingsOf_append]
    exact fun value present => List.mem_append_left _ ((pendingReadings_suffix sensor before).subset present)
  have fewer : (pendingReadings sensor before).length ≤ (readingsOf sensor s.events).length := by
    have shorter := (pendingReadings_suffix sensor before).length_le
    rw [same, readingsOf_append, List.length_append]
    omega
  rw [text]
  refine mean_says nonempty (fun value present => credible.measurable value (within present)) inside ?_
  have most := credible.few
  omega

end Run

/-- It is 25.3 degrees at the desk. -/
theorem values_faithful_desk :
    let turns := [deskAnswers [(0x66, 0xd4), (0x80, 0x00)]]
    let s := (Rig.main (fun _ _ _ net => (0, net)) (fun _ => 0) (fun _ _ _ net => (0, net)) terse ⟨fun _ => 1, 1, 1⟩
      (deskPower fun _ => (0xa1, 0x5c)) deskBoards () turns).app
    ∃ payload, .published .temperature payload 0 ∈ s.events ∧ payload = "25.2937".toList ∧
      ∃ value, (tempMin ≤ value ∧ value ≤ tempMax) ∧ Says payload value := by
  intro turns s
  have present : .published .temperature "25.2937".toList 0 ∈ s.events := by decide +kernel
  obtain ⟨before, after, same⟩ := List.append_of_mem present
  have faithful := values_faithful (fun _ _ _ net => (0, net)) (fun _ => 0) (fun _ _ _ net => (0, net)) terse
    ⟨fun _ => 1, 1, 1⟩ (deskPower fun _ => (0xa1, 0x5c)) deskBoards () turns (by decide) (by decide)
  exact ⟨_, present, rfl, _, faithful .temperature tempMin tempMax .temperature before _ 0 after same⟩

end AirQuality.Station
