import AirQuality.Ha.Announcement
import AirQuality.Uid.UniqueId

/-!
# Truncated texts

After each `snprintf` its caller means to refuse a text that does not fit. The guard asks for a result
that is both negative and too large, which the errors are and the lengths are not.
-/

namespace AirQuality.Ha
open Foundation Uid

/-- The call reports a length that does not fit the buffer. -/
def Truncates (failure : Option FormatError) (size : Nat) (text : Text) : Prop :=
  (size : Int) ≤ (snprintf failure size text).1

theorem truncates_iff (failure : Option FormatError) (size : Nat) (text : Text) :
    Truncates failure size text ↔ failure = none ∧ size ≤ text.length := by
  unfold Truncates
  cases failure with
  | none => simp [snprintf]
  | some error =>
    have negative := error.errno.negative
    have refused : ¬ (size : Int) ≤ (snprintf (some error) size text).1 := by
      simp only [snprintf]
      omega
    exact iff_of_false refused fun both => absurd both.1 (Option.some_ne_none error)

/-- What a function that formats texts owes its caller: success only with `whole` texts, and for a `cut`
text the code `-ENOMEM`, with the function `idle` otherwise. -/
structure Reports (code : Int) (whole cut idle : Prop) : Prop where
  complete : 0 ≤ code → whole
  refused : cut → code = Errno.enomem.code ∧ idle

theorem reports_refusal {code : Int} {idle : Prop} (refused : code = Errno.enomem.code) (nothing : idle)
    (whole cut : Prop) : Reports code whole cut idle := by
  refine ⟨fun succeeded => ?_, fun _ => ⟨refused, nothing⟩⟩
  rw [refused] at succeeded
  exact absurd Errno.enomem.negative (not_lt.mpr succeeded)

/-- `ha_start` and its two topics; `given` is what `mqtt_init` got. -/
def StartReports (deviceId : Text) (baseFailure willFailure : Option FormatError) (code : Int)
    (ha : HomeAssistant) (given : List Inited) : Prop :=
  Reports code (ha.mqttBasePath = mqttBasePath deviceId ∧ ha.lastWillTopic = lastWillTopic deviceId)
    (Truncates baseFailure haTopicBufferSize (mqttBasePath deviceId) ∨
      baseFailure = none ∧ Truncates willFailure haTopicBufferSize (lastWillTopic deviceId))
    (given = [])

/-- The brief topic as `ha_register_sensor` has it in its buffer. -/
def briefBuffer (failure : Option FormatError) (sensor : HaSensor) : Text :=
  (snprintf failure haTopicBufferSize (briefStateTopic sensor.type sensor.uniqueId)).2

/-- `ha_register_sensor` and the two state topics; `sent` is what it published. -/
def RegistrationReports (basePath : Text) (sensor : HaSensor) (briefFailure fullFailure : Option FormatError)
    (code : Int) (registered : HaSensor) (sent : List Sent) : Prop :=
  Reports code
    (briefBuffer briefFailure sensor = briefStateTopic sensor.type sensor.uniqueId ∧
      registered.fullStateTopic = fullStateTopic basePath sensor.type sensor.uniqueId)
    (Truncates briefFailure haTopicBufferSize (briefStateTopic sensor.type sensor.uniqueId) ∨
      briefFailure = none ∧
        Truncates fullFailure haTopicBufferSize (basePath ++ (briefBuffer briefFailure sensor).drop 1))
    (sent = [])

/-- `generate_unique_id`, which only formats. -/
def IdReports (text : Text) (failure : Option FormatError) (code : Int) (uidBuf : Text) : Prop :=
  Reports code (uidBuf = text) (Truncates failure uidUniqueIdStringSize text) True

section Start
variable {σ : Type*} (init : Init σ)

theorem haStart_formatted (deviceId : Text) (ha : HomeAssistant) (net : σ) (given : List Inited) :
    let start := haStart (notingInit init) deviceId ha (net, given)
    start.2.1.mqttBasePath = (snprintf none haTopicBufferSize (mqttBasePath deviceId)).2 ∧
      start.2.1.lastWillTopic = (snprintf none haTopicBufferSize (lastWillTopic deviceId)).2 ∧
      start.2.2.2 = given ++ [⟨deviceId, start.2.1.lastWillTopic, lastWillMessage⟩] := by
  unfold haStart notingInit
  simp only [snprintf_unguarded, Bool.false_eq_true, if_false]
  split
  · exact ⟨rfl, rfl, rfl⟩
  · exact ⟨rfl, rfl, rfl⟩

theorem start_reports_iff (deviceId : Text) (ha : HomeAssistant) (net : σ)
    (baseFailure willFailure : Option FormatError) :
    let start := haStart (notingInit init) deviceId ha (net, []) baseFailure willFailure
    StartReports deviceId baseFailure willFailure start.1 start.2.1 start.2.2.2 ↔
      baseFailure ≠ none ∨ willFailure ≠ none ∨ (lastWillTopic deviceId).length < haTopicBufferSize := by
  intro start
  by_cases failed : baseFailure.isSome = true ∨ willFailure.isSome = true
  · obtain ⟨code, same⟩ := haStart_failed (notingInit init) deviceId ha (net, []) failed
    refine iff_of_true (reports_refusal code (by rw [same]) _ _) ?_
    rw [← or_assoc]
    exact Or.inl (failed.imp Option.isSome_iff_ne_none.mp Option.isSome_iff_ne_none.mp)
  · obtain ⟨rfl, rfl⟩ := no_failure failed
    obtain ⟨base, will, called⟩ := haStart_formatted init deviceId ha net []
    have shorter : (mqttBasePath deviceId).length ≤ (lastWillTopic deviceId).length := by
      rw [mqttBasePath_length, lastWillTopic_length]
      omega
    constructor
    · intro held
      refine Or.inr (Or.inr (not_le.mp fun long => ?_))
      have refused := held.refused (Or.inr ⟨rfl, (truncates_iff _ _ _).mpr ⟨rfl, long⟩⟩)
      rw [called] at refused
      exact absurd refused.2 (List.cons_ne_nil _ _)
    · intro condition
      have fits := (condition.resolve_left fun failed => failed rfl).resolve_left fun failed => failed rfl
      refine ⟨fun _ => ⟨?_, ?_⟩, ?_⟩
      · rw [base, snprintf_fits (lt_of_le_of_lt shorter fits)]
      · rw [will, snprintf_fits fits]
      · simp only [truncates_iff]
        omega

end Start

section Registration
variable {σ : Type*} (publish : Publish σ)

/-- A discovery that publishes nothing and returns `-ENOMEM` has it from the encoder. -/
theorem haSendDiscovery_refused_iff (platform : Platform) (type : Text) (config : HaSensorConfig) (net : σ) :
    ((haSendDiscovery (noting publish) platform type config (net, [])).1 = Errno.enomem.code ∧
        (haSendDiscovery (noting publish) platform type config (net, [])).2.2 = []) ↔
      (encodeConfig platform type config).1 = Errno.enomem.code := by
  have negative := Errno.enomem.negative
  unfold haSendDiscovery
  dsimp only
  split
  · exact and_iff_left rfl
  · rename_i encoded
    refine iff_of_false ?_ fun code => encoded (by rw [code]; exact negative)
    rintro ⟨-, nothing⟩
    unfold noting at nothing
    dsimp only at nothing
    split at nothing
    · exact absurd nothing (List.cons_ne_nil _ _)
    · exact absurd nothing (List.cons_ne_nil _ _)

theorem briefBuffer_whole {sensor : HaSensor}
    (fits : (briefStateTopic sensor.type sensor.uniqueId).length < haTopicBufferSize) :
    briefBuffer none sensor = briefStateTopic sensor.type sensor.uniqueId := by
  unfold briefBuffer
  rw [snprintf_fits fits]

theorem registration_truncates_iff (basePath : Text) (sensor : HaSensor) :
    Truncates none haTopicBufferSize (briefStateTopic sensor.type sensor.uniqueId) ∨
        Truncates none haTopicBufferSize (basePath ++ (briefBuffer none sensor).drop 1) ↔
      ¬ ((briefStateTopic sensor.type sensor.uniqueId).length < haTopicBufferSize ∧
          (fullStateTopic basePath sensor.type sensor.uniqueId).length < haTopicBufferSize) := by
  simp only [truncates_iff, true_and]
  by_cases brief : (briefStateTopic sensor.type sensor.uniqueId).length < haTopicBufferSize
  · rw [briefBuffer_whole brief]
    unfold fullStateTopic
    omega
  · exact iff_of_true (Or.inl (not_lt.mp brief)) fun both => brief both.1

theorem register_reports_iff (platform : Platform) (ha : HomeAssistant) (sensor : HaSensor) (net : σ)
    (briefFailure fullFailure : Option FormatError) :
    let registration :=
      haRegisterSensor (noting publish) platform ha sensor (net, []) briefFailure fullFailure
    RegistrationReports ha.mqttBasePath sensor briefFailure fullFailure registration.1 registration.2.1
        registration.2.2.2 ↔
      briefFailure ≠ none ∨ fullFailure ≠ none ∨
        ((briefStateTopic sensor.type sensor.uniqueId).length < haTopicBufferSize ∧
          (fullStateTopic ha.mqttBasePath sensor.type sensor.uniqueId).length < haTopicBufferSize) ∨
        (encodeConfig platform sensor.type (announcedConfig platform ha sensor)).1 = Errno.enomem.code := by
  intro registration
  by_cases failed : briefFailure.isSome = true ∨ fullFailure.isSome = true
  · obtain ⟨code, same⟩ := haRegisterSensor_failed (noting publish) platform ha sensor (net, []) failed
    refine iff_of_true (reports_refusal code (by rw [same]) _ _) ?_
    rw [← or_assoc]
    exact Or.inl (failed.imp Option.isSome_iff_ne_none.mp Option.isSome_iff_ne_none.mp)
  · obtain ⟨rfl, rfl⟩ := no_failure failed
    have truncated := registration_truncates_iff ha.mqttBasePath sensor
    have refused := haSendDiscovery_refused_iff publish platform sensor.type (announcedConfig platform ha sensor) net
    have result := haRegisterSensor_eq (noting publish) platform ha sensor (net, [])
    change registration = _ at result
    simp only [ne_eq, not_true_eq_false, false_or]
    constructor
    · intro held
      rw [result] at held
      by_contra condition
      rw [not_or] at condition
      have owed := held.refused ((truncated.mpr condition.1).imp_right fun full => ⟨rfl, full⟩)
      exact condition.2 (refused.mp owed)
    · rw [result]
      rintro (⟨brief, full⟩ | unencoded)
      · refine ⟨fun _ => ⟨briefBuffer_whole brief, ?_⟩, fun cut => ?_⟩
        · show storedStateTopic ha.mqttBasePath sensor = _
          have whole : storedBriefTopic sensor = _ := briefBuffer_whole brief
          unfold storedStateTopic
          rw [whole, snprintf_fits]
          · rfl
          · exact full
        · exact absurd ⟨brief, full⟩ (truncated.mp (cut.imp_right And.right))
      · obtain ⟨code, nothing⟩ := refused.mpr unencoded
        exact reports_refusal code nothing _ _

end Registration

theorem id_reports_iff (failure : Option FormatError) (partNumber sensorName serialNumber : Text) :
    let generated := generateUniqueId failure uidUniqueIdStringSize partNumber sensorName serialNumber
    IdReports (fullId partNumber sensorName serialNumber) failure generated.1 generated.2 ↔
      failure ≠ none ∨ (fullId partNumber sensorName serialNumber).length < uidUniqueIdStringSize := by
  intro generated
  cases failure with
  | some error =>
    have negative := generateUniqueId_failed error partNumber sensorName serialNumber
    refine iff_of_true ⟨fun succeeded => ?_, fun cut => ?_⟩ (Or.inl (Option.some_ne_none error))
    · exact absurd negative (not_lt.mpr succeeded)
    · exact absurd ((truncates_iff _ _ _).mp cut).1 (Option.some_ne_none error)
  | none =>
    have result : generated = _ := generateUniqueId_ok uidUniqueIdStringSize partNumber sensorName serialNumber
    rw [result]
    simp only [ne_eq, not_true_eq_false, false_or]
    constructor
    · intro held
      refine not_le.mp fun long => ?_
      have refused : (0 : Int) = Errno.enomem.code := (held.refused ((truncates_iff _ _ _).mpr ⟨rfl, long⟩)).1
      exact Errno.code_ne_zero _ refused.symm
    · intro fits
      refine ⟨fun _ => List.take_of_length_le (Nat.le_sub_one_of_lt fits), fun cut => ?_⟩
      exact absurd ((truncates_iff _ _ _).mp cut).2 (not_le.mpr fits)

/-- Truncation stays silent exactly where a text without a formatting error does not fit. -/
theorem truncation_reported_iff {σ τ : Type*} (init : Init σ) (publish : Publish τ) (platform : Platform) :
    (∀ deviceId before net baseFailure willFailure,
      let start := haStart (notingInit init) deviceId before (net, []) baseFailure willFailure
      StartReports deviceId baseFailure willFailure start.1 start.2.1 start.2.2.2 ↔
        baseFailure ≠ none ∨ willFailure ≠ none ∨ (lastWillTopic deviceId).length < haTopicBufferSize) ∧
    (∀ ha sensor net briefFailure fullFailure,
      let registration := haRegisterSensor (noting publish) platform ha sensor (net, []) briefFailure fullFailure
      RegistrationReports ha.mqttBasePath sensor briefFailure fullFailure registration.1 registration.2.1
          registration.2.2.2 ↔
        briefFailure ≠ none ∨ fullFailure ≠ none ∨
          ((briefStateTopic sensor.type sensor.uniqueId).length < haTopicBufferSize ∧
            (fullStateTopic ha.mqttBasePath sensor.type sensor.uniqueId).length < haTopicBufferSize) ∨
          (encodeConfig platform sensor.type (announcedConfig platform ha sensor)).1 = Errno.enomem.code) ∧
    ∀ failure partNumber sensorName serialNumber,
      let generated := generateUniqueId failure uidUniqueIdStringSize partNumber sensorName serialNumber
      IdReports (fullId partNumber sensorName serialNumber) failure generated.1 generated.2 ↔
        failure ≠ none ∨ (fullId partNumber sensorName serialNumber).length < uidUniqueIdStringSize :=
  ⟨start_reports_iff init, register_reports_iff publish platform, id_reports_iff⟩

/-- An SPS30 serial of 25 characters cuts an id off, and a device id of 106 the topic of the last will. -/
theorem truncation_reported_fails :
    (let serialNumber := "06509B9E802EE1EE06509B9E8".toList
      let generated := generateUniqueId none uidUniqueIdStringSize "sps30".toList "pm25".toList serialNumber
      ¬ IdReports (fullId "sps30".toList "pm25".toList serialNumber) none generated.1 generated.2) ∧
    (let deviceId := List.replicate 106 '0'
      let start := haStart (notingInit fun _ _ _ (net : Unit) => (0, net)) deviceId {} ((), [])
      ¬ StartReports deviceId none none start.1 start.2.1 start.2.2.2) := by
  refine ⟨fun held => ?_, fun held => ?_⟩
  · exact absurd (held.complete (by decide)) (by decide)
  · have fits := (start_reports_iff _ _ {} () none none).mp held
    simp [lastWillTopic_length, haTopicBufferSize] at fits

end AirQuality.Ha
