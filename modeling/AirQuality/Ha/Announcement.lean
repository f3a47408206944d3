import AirQuality.Ha.Topics

/-!
# What is announced and what is used

Home Assistant learns a sensor's topics in an abbreviated form and expands it itself; the station
publishes to topics it has put together on its own. Both come to the same.
-/

namespace AirQuality.Ha
open Foundation

/-- Home Assistant puts the base path in the place of a leading `~`. -/
def expand (basePath : Text) : Text → Text
  | '~' :: rest => basePath ++ rest
  | topic => topic

def fullStateTopic (basePath type uniqueId : Text) : Text :=
  basePath ++ (briefStateTopic type uniqueId).drop 1

/-- The descriptor table a configuration is encoded with, if there is one for the type. -/
def configDescr (type : Text) : Option (List ConfigField) :=
  if type = haSensorType then some sensorConfigDescr
  else if type = haBinarySensorType then some binarySensorConfigDescr
  else none

theorem Known.encodeConfig {type : Text} (known : Known type) (platform : Platform) (config : HaSensorConfig) :
    ∃ descr, configDescr type = some descr ∧
      encodeConfig platform type config = platform.jsonObjEncodeBuf descr config jsonConfigBufferSize := by
  have other : haBinarySensorType ≠ haSensorType := by
    rw [sensor_chars, binarySensor_chars]
    decide
  rcases known with rfl | rfl
  · exact ⟨sensorConfigDescr, if_pos rfl, if_pos rfl⟩
  · refine ⟨binarySensorConfigDescr, ?_, ?_⟩
    · rw [configDescr, if_neg other, if_pos rfl]
    · rw [Ha.encodeConfig, if_neg other, if_pos rfl]

theorem no_failure {first second : Option FormatError} (passed : ¬ (first.isSome = true ∨ second.isSome = true)) :
    first = none ∧ second = none := by
  rw [not_or] at passed
  exact ⟨Option.not_isSome_iff_eq_none.mp passed.1, Option.not_isSome_iff_eq_none.mp passed.2⟩

section Network
variable {σ : Type*} (init : Init σ) (publish : Publish σ)

theorem haStart_failed (deviceId : Text) (ha : HomeAssistant) (net : σ) {baseFailure willFailure : Option FormatError}
    (failed : baseFailure.isSome = true ∨ willFailure.isSome = true) :
    (haStart init deviceId ha net baseFailure willFailure).1 = Errno.enomem.code ∧
      (haStart init deviceId ha net baseFailure willFailure).2.2 = net := by
  unfold haStart
  simp only [snprintf_guard _ (show haTopicBufferSize ≤ 2 ^ 31 by decide)]
  split
  · exact ⟨rfl, rfl⟩
  · rename_i passed
    rw [if_pos (failed.resolve_left passed)]
    exact ⟨rfl, rfl⟩

theorem haRegisterSensor_failed (platform : Platform) (ha : HomeAssistant) (sensor : HaSensor) (net : σ)
    {briefFailure fullFailure : Option FormatError} (failed : briefFailure.isSome = true ∨ fullFailure.isSome = true) :
    (haRegisterSensor publish platform ha sensor net briefFailure fullFailure).1 = Errno.enomem.code ∧
      (haRegisterSensor publish platform ha sensor net briefFailure fullFailure).2.2 = net := by
  unfold haRegisterSensor
  simp only [snprintf_guard _ (show haTopicBufferSize ≤ 2 ^ 31 by decide)]
  split
  · exact ⟨rfl, rfl⟩
  · rename_i passed
    rw [if_pos (failed.resolve_left passed)]
    exact ⟨rfl, rfl⟩

end Network

theorem Known.length {type : Text} (known : Known type) : type.length ≤ 13 := by
  rcases known with rfl | rfl
  · rw [sensor_chars]
    decide
  · rw [binarySensor_chars]
    decide

theorem briefStateTopic_length (type uniqueId : Text) :
    (briefStateTopic type uniqueId).length = 9 + type.length + uniqueId.length := by
  have state : "/state".toList.length = 6 := rfl
  unfold briefStateTopic
  rw [brief_chars]
  simp only [List.length_append, List.length_cons, List.length_nil, state]
  omega

theorem discoveryTopic_length (type uniqueId : Text) :
    (discoveryTopic type uniqueId).length = 22 + type.length + uniqueId.length := by
  have config : "/config".toList.length = 7 := rfl
  unfold discoveryTopic
  rw [homeassistant_chars]
  simp only [List.length_append, List.length_cons, List.length_nil, config]
  omega

theorem storedBriefTopic_whole {sensor : HaSensor} (known : Known sensor.type) (short : sensor.uniqueId.length ≤ 31) :
    storedBriefTopic sensor = briefStateTopic sensor.type sensor.uniqueId := by
  have length := briefStateTopic_length sensor.type sensor.uniqueId
  have type := known.length
  unfold storedBriefTopic
  rw [snprintf_fits]
  unfold haTopicBufferSize
  omega

theorem storedDiscoveryTopic_whole {sensor : HaSensor} (known : Known sensor.type) (short : sensor.uniqueId.length ≤ 31) :
    storedDiscoveryTopic sensor = discoveryTopic sensor.type sensor.uniqueId := by
  have length := discoveryTopic_length sensor.type sensor.uniqueId
  have type := known.length
  unfold storedDiscoveryTopic
  rw [snprintf_fits]
  unfold haTopicBufferSize
  omega

theorem storedStateTopic_whole {sensor : HaSensor} (known : Known sensor.type) (short : sensor.uniqueId.length ≤ 31)
    {basePath : Text} (base : basePath.length = 28) :
    storedStateTopic basePath sensor = fullStateTopic basePath sensor.type sensor.uniqueId := by
  have length := briefStateTopic_length sensor.type sensor.uniqueId
  have type := known.length
  unfold storedStateTopic
  rw [storedBriefTopic_whole known short, snprintf_fits]
  · rfl
  · unfold haTopicBufferSize
    rw [List.length_append, List.length_drop]
    omega

theorem expand_brief (basePath type uniqueId : Text) :
    expand basePath (briefStateTopic type uniqueId) = fullStateTopic basePath type uniqueId := by
  unfold fullStateTopic briefStateTopic
  rw [brief_chars]
  rfl

theorem expand_available (deviceId : Text) :
    expand (mqttBasePath deviceId) "~/available".toList = lastWillTopic deviceId := by
  have tilde : "~/available".toList = '~' :: "/available".toList := rfl
  rw [tilde]
  rfl

theorem typed_inj {a b u v rest : Text} (knownA : Known a) (knownB : Known b)
    (same : a ++ ['/'] ++ u ++ rest = b ++ ['/'] ++ v ++ rest) : a = b ∧ u = v := by
  have front := List.append_cancel_right same
  rcases knownA with rfl | rfl <;> rcases knownB with rfl | rfl
  · exact ⟨rfl, List.append_cancel_left front⟩
  · rw [sensor_chars, binarySensor_chars] at front
    simp at front
  · rw [sensor_chars, binarySensor_chars] at front
    simp at front
  · exact ⟨rfl, List.append_cancel_left front⟩

theorem fullStateTopic_inj {basePath a b u v : Text} (knownA : Known a) (knownB : Known b)
    (same : fullStateTopic basePath a u = fullStateTopic basePath b v) : a = b ∧ u = v := by
  unfold fullStateTopic briefStateTopic at same
  rw [brief_chars] at same
  exact typed_inj knownA knownB (List.cons.inj (List.append_cancel_left same)).2

theorem discoveryTopic_inj {a b u v : Text} (knownA : Known a) (knownB : Known b)
    (same : discoveryTopic a u = discoveryTopic b v) : a = b ∧ u = v := by
  unfold discoveryTopic at same
  simp only [List.append_assoc] at same
  have tail := List.append_cancel_left same
  simp only [← List.append_assoc] at tail
  exact typed_inj knownA knownB tail

/-! ### What is sent where -/

/-- A call of `mqtt_init`. -/
structure Inited where
  deviceId : Text
  lastWillTopic : Text
  lastWillMessage : Text
  deriving DecidableEq

/-- `mqtt_init` with a record of what it is given. -/
def notingInit {σ : Type*} (init : Init σ) : Init (σ × List Inited) := fun deviceId topic message (net, given) =>
  let (ret, net) := init deviceId topic message net
  (ret, net, given ++ [⟨deviceId, topic, message⟩])

/-- A start that comes to `mqtt_init` has formatted both topics without an error. -/
theorem haStart_reached {σ : Type*} (init : Init σ) (deviceId : Text) (ha : HomeAssistant) (net : σ)
    (given : List Inited) {baseFailure willFailure : Option FormatError}
    (reached : (haStart (notingInit init) deviceId ha (net, given) baseFailure willFailure).2.2.2 ≠ given) :
    baseFailure = none ∧ willFailure = none := by
  refine no_failure fun failed => reached ?_
  exact congrArg Prod.snd (haStart_failed (notingInit init) deviceId ha (net, given) failed).2

theorem haRegisterSensor_reached {σ : Type*} (publish : Publish σ) (platform : Platform) (ha : HomeAssistant)
    (sensor : HaSensor) (net : σ) {briefFailure fullFailure : Option FormatError}
    (succeeded : (haRegisterSensor publish platform ha sensor net briefFailure fullFailure).1 = 0) :
    briefFailure = none ∧ fullFailure = none := by
  refine no_failure fun failed => ?_
  have code := (haRegisterSensor_failed publish platform ha sensor net failed).1
  rw [succeeded] at code
  exact Errno.code_ne_zero _ code.symm

section Network
variable {σ : Type*} (publish : Publish σ)

theorem haSendSensorValue_sent (sensor : HaSensor) (net : σ) (sent : List Sent) (failure : Option FormatError) :
    (haSendSensorValue (noting publish) sensor (net, sent) failure).2.2.2 =
      sent ++ if sensor.numberOfValues = 0 ∨ failure.isSome then [] else
        [⟨sensor.fullStateTopic, (valueString (sensor.totalValue / sensor.numberOfValues)).2, sensor.retain⟩] := by
  by_cases empty : sensor.numberOfValues = 0
  · rw [haSendSensorValue_empty _ empty, if_pos (Or.inl empty), List.append_nil]
  · cases failure with
    | some error => rw [haSendSensorValue_failed _ empty, if_pos (by simp), List.append_nil]
    | none =>
      rw [haSendSensorValue_pending _ empty, if_neg (by simp [empty])]
      unfold noting
      dsimp only
      split <;> rfl

theorem haSendBinarySensorState_sent (sensor : HaSensor) (net : σ) (sent : List Sent) :
    (haSendBinarySensorState (noting publish) sensor (net, sent)).2.2 =
      sent ++ [⟨sensor.fullStateTopic, if sensor.binaryState then "ON".toList else "OFF".toList, sensor.retain⟩] := by
  unfold haSendBinarySensorState noting
  dsimp only
  generalize (if sensor.binaryState then "ON".toList else "OFF".toList) = payload
  split <;> rfl

theorem haSetOnline_sent (ha : HomeAssistant) (net : σ) (sent : List Sent) :
    (haSetOnline (noting publish) ha (net, sent)).2.2 = sent ++ [⟨ha.lastWillTopic, onlineMessage, true⟩] := by
  unfold haSetOnline noting
  dsimp only
  split <;> rfl

theorem haSendDiscovery_sent {platform : Platform} {type : Text} {config : HaSensorConfig} {net : σ}
    {sent : List Sent} (succeeded : (haSendDiscovery (noting publish) platform type config (net, sent)).1 = 0) :
    (haSendDiscovery (noting publish) platform type config (net, sent)).2.2 =
      sent ++ [⟨(snprintf none haTopicBufferSize (discoveryTopic type config.uniqueId)).2,
        (encodeConfig platform type config).2, true⟩] := by
  unfold haSendDiscovery at succeeded ⊢
  dsimp only at succeeded ⊢
  split at succeeded
  · rename_i refused
    exact absurd succeeded (ne_of_lt refused)
  · rename_i encoded
    rw [if_neg encoded]
    split <;> rfl

theorem haRegisterSensor_sent {platform : Platform} {ha : HomeAssistant} {sensor : HaSensor} {net : σ}
    {sent : List Sent} (succeeded : (haRegisterSensor (noting publish) platform ha sensor (net, sent)).1 = 0) :
    (haRegisterSensor (noting publish) platform ha sensor (net, sent)).2.2.2 =
      sent ++ [⟨storedDiscoveryTopic sensor, (encodeConfig platform sensor.type (announcedConfig platform ha sensor)).2,
        true⟩] := by
  rw [haRegisterSensor_eq] at succeeded ⊢
  exact haSendDiscovery_sent publish succeeded

end Network

/-! ### Announced and used -/

/-- A started station and a sensor it has registered: `given` is what `mqtt_init` got, `sent` what the
registration has published, and later calls publish through `publish`. -/
structure TopicsAgree {σ : Type*} (publish : Publish σ) (platform : Platform) (deviceId : Text) (ha : HomeAssistant)
    (given : List Inited) (sensor registered : HaSensor) (config : HaSensorConfig) (sent : List Sent) : Prop where
  baseWhole : ha.mqttBasePath = mqttBasePath deviceId
  willWhole : ha.lastWillTopic = lastWillTopic deviceId
  briefWhole : config.stateTopic = briefStateTopic sensor.type sensor.uniqueId
  fullWhole : registered.fullStateTopic = fullStateTopic ha.mqttBasePath sensor.type sensor.uniqueId
  discovery : ∃ descr, configDescr sensor.type = some descr ∧ sent =
    [⟨discoveryTopic sensor.type sensor.uniqueId, (platform.jsonObjEncodeBuf descr config jsonConfigBufferSize).2, true⟩]
  state : expand config.basePath config.stateTopic = registered.fullStateTopic
  available : expand config.basePath config.availabilityTopic = ha.lastWillTopic
  will : given = [⟨deviceId, ha.lastWillTopic, lastWillMessage⟩]
  valueSent : ∀ current net failure, current.fullStateTopic = registered.fullStateTopic →
    (haSendSensorValue (noting publish) current (net, []) failure).2.2.2.map Sent.topic =
      if current.numberOfValues = 0 ∨ failure.isSome then [] else [registered.fullStateTopic]
  stateSent : ∀ current net, current.fullStateTopic = registered.fullStateTopic →
    (haSendBinarySensorState (noting publish) current (net, [])).2.2.map Sent.topic = [registered.fullStateTopic]
  onlineSent : ∀ net, (haSetOnline (noting publish) ha (net, [])).2.2 = [⟨ha.lastWillTopic, onlineMessage, true⟩]
  distinct : ∀ other net, Known other.type → other.uniqueId.length ≤ 31 → (other.type, other.uniqueId) ≠ (sensor.type, sensor.uniqueId) →
    (haRegisterSensor publish platform ha other net).2.1.fullStateTopic ≠ registered.fullStateTopic ∧
      storedDiscoveryTopic other ≠ storedDiscoveryTopic sensor

/-- The topics a sensor is announced with are the topics it is used with, and its own. -/
theorem announced_topics_used {σ τ : Type*} (init : Init σ) (publish : Publish τ) (platform : Platform)
    {deviceId : Text} (before : HomeAssistant) (sensor : HaSensor) (initial : σ) (net : τ)
    (baseFailure willFailure briefFailure fullFailure : Option FormatError) {code : Int} {ha : HomeAssistant}
    {final : σ} {given : List Inited} {registered : HaSensor} {later : τ} {sent : List Sent}
    (identified : deviceId.length = 16) (known : Known sensor.type) (named : sensor.uniqueId.length ≤ 31)
    (started : haStart (notingInit init) deviceId before (initial, []) baseFailure willFailure =
      (code, ha, final, given))
    (reached : given ≠ [])
    (succeeded : haRegisterSensor (noting publish) platform ha sensor (net, []) briefFailure fullFailure =
      (0, registered, later, sent)) :
    TopicsAgree publish platform deviceId ha given sensor registered (announcedConfig platform ha sensor) sent := by
  obtain ⟨rfl, rfl⟩ : baseFailure = none ∧ willFailure = none := by
    apply haStart_reached init deviceId before initial []
    rwa [started]
  obtain ⟨rfl, rfl⟩ : briefFailure = none ∧ fullFailure = none := by
    apply haRegisterSensor_reached (noting publish) platform ha sensor (net, [])
    rw [succeeded]
  have fits : 22 + deviceId.length < haTopicBufferSize := by
    unfold haTopicBufferSize
    omega
  have topics := haStart_fits (notingInit init) fits before (initial, [])
  rw [started] at topics
  obtain ⟨rfl, calls⟩ := Prod.mk.inj topics
  have base : (mqttBasePath deviceId).length = 28 := by
    rw [mqttBasePath_length]
    omega
  have stored : registered.fullStateTopic = fullStateTopic (mqttBasePath deviceId) sensor.type sensor.uniqueId := by
    have kept := congrArg (fun result => result.2.1.fullStateTopic) succeeded
    rw [haRegisterSensor_eq] at kept
    rw [← kept]
    exact storedStateTopic_whole known named base
  have brief : storedBriefTopic sensor = briefStateTopic sensor.type sensor.uniqueId :=
    storedBriefTopic_whole known named
  refine ⟨rfl, rfl, brief, stored, ?_, ?_, expand_available deviceId, (Prod.mk.inj calls).2, ?_, ?_, ?_, ?_⟩
  · have discovered := haRegisterSensor_sent publish (congrArg Prod.fst succeeded)
    rw [succeeded, storedDiscoveryTopic_whole known named] at discovered
    obtain ⟨descr, selected, encoded⟩ := known.encodeConfig platform (announcedConfig platform _ sensor)
    rw [encoded] at discovered
    exact ⟨descr, selected, discovered⟩
  · rw [stored, ← expand_brief]
    exact congrArg (expand (mqttBasePath deviceId)) brief
  · intro current net failure same
    rw [haSendSensorValue_sent, ← same, List.nil_append]
    split <;> rfl
  · intro current net same
    rw [haSendBinarySensorState_sent, ← same]
    rfl
  · intro net
    rw [haSetOnline_sent]
    rfl
  · intro other net known' short different
    rw [haRegisterSensor_eq, stored, storedDiscoveryTopic_whole known named, storedDiscoveryTopic_whole known' short]
    dsimp only
    rw [storedStateTopic_whole known' short base]
    refine ⟨fun same => different ?_, fun same => different ?_⟩
    · obtain ⟨type, uniqueId⟩ := fullStateTopic_inj known' known same
      rw [type, uniqueId]
    · obtain ⟨type, uniqueId⟩ := discoveryTopic_inj known' known same
      rw [type, uniqueId]

theorem announced_topics_used_temperature :
    let deviceId := "133c2c382d9111f1".toList
    let sensor : HaSensor :=
      { type := haSensorType, name := "Temperature".toList, uniqueId := "133c2c382d9111f1_hdc302x_temp".toList,
        deviceClass := "temperature".toList }
    let platform : Platform := ⟨fun _ _ _ => (0, []), "1.0.0".toList, []⟩
    let start := haStart (notingInit fun _ _ _ net => (0, net)) deviceId {} ((), [])
    let registration := haRegisterSensor (noting fun _ _ _ net => (0, net)) platform start.2.1 sensor ((), [])
    TopicsAgree (fun _ _ _ (net : Unit) => (0, net)) platform deviceId start.2.1 start.2.2.2 sensor registration.2.1
      (announcedConfig platform start.2.1 sensor) registration.2.2.2 := by
  intro deviceId sensor platform start registration
  exact announced_topics_used (fun _ _ _ net => (0, net)) (fun _ _ _ net => (0, net)) platform {} sensor () ()
    none none none none (by decide) (Or.inl rfl) (by decide) rfl (by decide) rfl

end AirQuality.Ha
