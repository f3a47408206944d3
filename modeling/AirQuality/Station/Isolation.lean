import AirQuality.Station.Catalogue

/-!
# Several stations at one broker

The topics a station publishes its states and its availability to start with a base path that holds its CPU id. So two
stations with different CPU ids do not get in each other's way, but where a sensor of the one has the unique id of a
sensor of the other.
-/

namespace AirQuality.Station
open Foundation Ha Uid

theorem basePath_inj {identity other : Identity} (same : identity.basePath = other.basePath) :
    identity.cpu = other.cpu := by
  have ids := List.append_cancel_left same
  apply bin2hex_inj _ ids
  rw [identity.cpu_length, other.cpu_length]

theorem willTopic_base (identity : Identity) : identity.willTopic.take 28 = identity.basePath := by
  have length := basePath_length identity
  unfold Identity.willTopic lastWillTopic
  exact List.take_left' length

/-- The base path is the first part of a state topic, however much of the rest is cut off. -/
theorem stateTopic_base (station : Deployment) (sensor : SensorId) :
    (station.stateTopic sensor).take 28 = station.identity.basePath := by
  have length := basePath_length station.identity
  unfold Deployment.stateTopic storedStateTopic snprintf
  dsimp only
  rw [List.take_take, Nat.min_eq_left (by decide)]
  exact List.take_left' length

/-! ### Where a station's messages go -/

/-- The topics below the base path. -/
def Deployment.Below (station : Deployment) (topic : Text) : Prop := topic.take 28 = station.identity.basePath

theorem afterRegistering_below {station : Deployment} {events : List Event} {message : Ha.Sent}
    (member : message ∈ station.afterRegistering events) : station.Below message.topic := by
  unfold Deployment.afterRegistering at member
  rw [List.mem_append, List.mem_cons] at member
  rcases member with (rfl | announced) | published
  · exact willTopic_base station.identity
  · split at announced
    · obtain rfl := List.mem_singleton.mp announced
      exact stateTopic_base station .watchdogTriggered
    · cases announced
  · obtain ⟨event, _, given⟩ := List.mem_filterMap.mp published
    cases event with
    | added sensor value => cases given
    | published sensor payload ret =>
      simp only [Event.message] at given
      split at given <;> cases given
      exact stateTopic_base station sensor

/-- A message registers a sensor or goes below the base path. -/
theorem message_registers_or_below (station : Deployment) (turns : List Turn) {message : Ha.Sent}
    (member : message ∈ messages (station.run turns).net.mqtt.calls) :
    message ∈ station.registrations ∨ station.Below message.topic := by
  cases online : station.online.1 with
  | false =>
    obtain ⟨sent, rest, sends, all⟩ := offline_sends online turns
    rw [sends_from_booted sends] at member
    refine Or.inl ?_
    rw [← all]
    exact List.mem_append_left rest member
  | true =>
    rw [sends_from_booted (online_sends online turns), List.mem_append] at member
    exact member.imp_right afterRegistering_below

theorem discovery_not_below (station : Deployment) {sensor : HaSensor} :
    ¬ station.Below (storedDiscoveryTopic sensor) := by
  intro below
  have discovery : ((storedDiscoveryTopic sensor).take 28).head? = some 'h' := by
    unfold storedDiscoveryTopic snprintf discoveryTopic
    rw [homeassistant_chars]
    rfl
  have base : station.identity.basePath.head? = some 'a' := by
    unfold Identity.basePath mqttBasePath
    rw [airQuality_chars]
    rfl
  rw [below, base] at discovery
  cases discovery

theorem registration_topic {station : Deployment} {message : Ha.Sent} (member : message ∈ station.registrations) :
    ∃ sensor, message = discovery station.platform station.identity.homeAssistant (station.sensor sensor) := by
  obtain ⟨sensor, _, rfl⟩ := List.mem_map.mp member
  exact ⟨sensor, rfl⟩

/-- In any two runs of stations with different CPU ids, a message of the one goes to a topic of the other only if both
register sensors that share a unique id; and never to the topic of the other's will. -/
theorem stations_apart (station other : Deployment) (turns otherTurns : List Turn)
    (different : station.identity.cpu ≠ other.identity.cpu)
    (short : ∀ sensor, (station.identity.ids sensor).length ≤ 31 ∧ (other.identity.ids sensor).length ≤ 31) :
    ∀ message ∈ messages (station.run turns).net.mqtt.calls,
      message.topic ≠ other.identity.willTopic ∧
      ∀ message' ∈ messages (other.run otherTurns).net.mqtt.calls, message.topic = message'.topic →
        ∃ sensor sensor', station.identity.ids sensor = other.identity.ids sensor' ∧
          message = discovery station.platform station.identity.homeAssistant (station.sensor sensor) ∧
          message' = discovery other.platform other.identity.homeAssistant (other.sensor sensor') := by
  have apart : ∀ topic, station.Below topic → ¬ other.Below topic := by
    intro topic below below'
    exact different (basePath_inj (below.symm.trans below'))
  intro message member
  have where' := message_registers_or_below station turns member
  refine ⟨?_, ?_⟩
  · intro same
    rcases where' with registers | below
    · obtain ⟨sensor, rfl⟩ := registration_topic registers
      exact storedDiscoveryTopic_ne _ _ same
    · rw [same] at below
      exact apart _ below (willTopic_base other.identity)
  · intro message' member' same
    rcases where' with registers | below <;>
      rcases message_registers_or_below other otherTurns member' with registers' | below'
    · obtain ⟨sensor, rfl⟩ := registration_topic registers
      obtain ⟨sensor', rfl⟩ := registration_topic registers'
      have topics : storedDiscoveryTopic (station.sensor sensor) = storedDiscoveryTopic (other.sensor sensor') := same
      have known : Known (station.sensor sensor).type := declared_known sensor
      have known' : Known (other.sensor sensor').type := declared_known sensor'
      rw [storedDiscoveryTopic_whole known (short sensor).1, storedDiscoveryTopic_whole known' (short sensor').2] at topics
      exact ⟨sensor, sensor', (discoveryTopic_inj known known' topics).2, rfl, rfl⟩
    · obtain ⟨sensor, rfl⟩ := registration_topic registers
      rw [← same] at below'
      exact absurd below' (discovery_not_below other)
    · obtain ⟨sensor', rfl⟩ := registration_topic registers'
      rw [same] at below
      exact absurd below (discovery_not_below station)
    · rw [← same] at below'
      exact absurd below' (apart _ below)

/-- Two desks in one room. -/
theorem stations_apart_desks :
    let other : Deployment := { desk with
      identity := { deskUnit with cpu := [0x13, 0x3c, 0x2c, 0x38, 0x2d, 0x91, 0x11, 0xf1], cpu_length := rfl } }
    ∀ message ∈ messages (desk.run []).net.mqtt.calls,
      message.topic ≠ other.identity.willTopic ∧
      ∀ message' ∈ messages (other.run []).net.mqtt.calls, message.topic = message'.topic →
        ∃ sensor sensor', desk.identity.ids sensor = other.identity.ids sensor' ∧
          message = discovery desk.platform desk.identity.homeAssistant (desk.sensor sensor) ∧
          message' = discovery other.platform other.identity.homeAssistant (other.sensor sensor') := by
  intro other
  exact stations_apart desk other [] [] (by decide) fun sensor => ⟨desk_distinguishes.short sensor, desk_distinguishes.short sensor⟩

end AirQuality.Station
