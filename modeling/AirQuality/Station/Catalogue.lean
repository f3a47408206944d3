import Mathlib.Data.List.Nodup
import AirQuality.Ha.Announcement
import AirQuality.Station.Messages

/-!
# What the broker keeps

A retained message that has reached the broker stays until its topic is published to again: the station's
only will goes to a topic of its own. So a sensor that has been registered stays registered.
-/

namespace AirQuality.Station
open Foundation Ha Uid

theorem delivery_leaves {will : Testament Text Text} {call : Mqtt.Call} (wills : call.Wills will) {topic : Text}
    (elsewhere : will.topic ≠ topic) {delivered : Delivery Text Text} (present : Mqtt.delivery call = some delivered) :
    Broker.Leaves (fun given => given.topic ≠ topic) delivered := by
  cases call with
  | mqttConnect broker client result =>
    cases result with
    | failed errno => cases present
    | opened socket accepted =>
      cases accepted with
      | false => cases present
      | true =>
        cases present
        rintro given same
        rw [show client.will = _ from wills] at same
        cases same
        exact elsewhere
  | mqttPublish param connected code =>
    simp only [Mqtt.delivery] at present
    split at present <;> cases present
    trivial
  | transportClosed | serverDisconnects =>
    cases present
    trivial
  | _ => cases present

theorem delivery_misses {calls : List Mqtt.Call} {topic : Text}
    (absent : topic ∉ (messages calls).map Ha.Sent.topic) :
    ∀ delivered ∈ calls.filterMap Mqtt.delivery, Broker.Misses topic delivered := by
  intro delivered present
  obtain ⟨call, member, given⟩ := List.mem_filterMap.mp present
  cases call with
  | mqttPublish param connected code =>
    simp only [Mqtt.delivery] at given
    split at given
    · rename_i zero
      cases given
      rintro rfl
      refine absent (List.mem_map.mpr ⟨sentAs param, List.mem_map_of_mem ?_, rfl⟩)
      exact List.mem_filterMap.mpr ⟨_, member, if_pos zero⟩
    · cases given
  | mqttConnect broker client result =>
    cases result with
    | failed errno => cases given
    | opened socket accepted =>
      cases accepted with
      | false => cases given
      | true =>
        cases given
        trivial
  | transportClosed | serverDisconnects =>
    cases given
    trivial
  | _ => cases given

/-- A retained message that found a session is there as long as no later one goes to its topic. -/
theorem retained_kept {retained : Text → Option Text} {will : Testament Text Text} {before after : List Mqtt.Call}
    {param : Mqtt.PublishParam} {connected : Bool} (keeps : param.retainFlag = true)
    (heard : (Mqtt.brokerAfter retained before).session.isSome)
    (wills : ∀ call ∈ before ++ .mqttPublish param connected 0 :: after, call.Wills will)
    (elsewhere : will.topic ≠ param.topic) (absent : param.topic ∉ (messages after).map Ha.Sent.topic) :
    (Mqtt.brokerAfter retained (before ++ .mqttPublish param connected 0 :: after)).retained param.topic =
      some param.payload := by
  have leaves : ∀ part : List Mqtt.Call, (∀ call ∈ part, call.Wills will) →
      ∀ delivered ∈ part.filterMap Mqtt.delivery, Broker.Leaves (fun given => given.topic ≠ param.topic) delivered := by
    intro part each delivered present
    obtain ⟨call, member, given⟩ := List.mem_filterMap.mp present
    exact delivery_leaves (each call member) elsewhere given
  rw [List.forall_mem_append, List.forall_mem_cons] at wills
  have away : ∀ given, (Mqtt.brokerAfter retained before).session = some (some given) → given.topic ≠ param.topic := by
    refine Broker.run_leaves ?_ _ (leaves before wills.1)
    intro given impossible
    cases impossible
  have publishes : Mqtt.delivery (.mqttPublish param connected 0) = some (.publish param.topic param.payload true) := by
    simp [Mqtt.delivery, keeps]
  have published : (Mqtt.brokerAfter retained before).deliver (.publish param.topic param.payload true) =
      (Mqtt.brokerAfter retained before).keep param.topic param.payload true := by
    simp only [Broker.deliver, heard, if_true]
  rw [Mqtt.brokerAfter_append, List.filterMap_cons, publishes]
  dsimp only
  rw [run_cons, published, Broker.retained_of_misses _ _ (leaves after wills.2.2) (delivery_misses absent)]
  · simp [Broker.keep]
  · rw [Broker.keep_session]
    exact away

/-! ### Registrations -/

def Identity.basePath (identity : Identity) : Text := mqttBasePath identity.deviceId

theorem basePath_length (identity : Identity) : identity.basePath.length = 28 := by
  have length := length_bin2hex identity.cpu
  rw [identity.cpu_length] at length
  rw [Identity.basePath, mqttBasePath_length, Identity.deviceId, length]

theorem stateTopic_ne_discovery (station : Deployment) (sensor other : SensorId) :
    station.stateTopic sensor ≠ storedDiscoveryTopic (station.sensor other) := by
  have discovery : (storedDiscoveryTopic (station.sensor other)).head? = some 'h' := by
    unfold storedDiscoveryTopic snprintf discoveryTopic
    rw [homeassistant_chars]
    rfl
  have state : (station.stateTopic sensor).head? = some 'a' := by
    unfold Deployment.stateTopic storedStateTopic Identity.homeAssistant mqttBasePath snprintf
    rw [airQuality_chars]
    rfl
  intro same
  rw [same, discovery] at state
  exact absurd (Option.some.inj state) (by decide)

/-- The sensors' ids fit their topics and tell the sensors apart. -/
structure Identity.Distinguishes (identity : Identity) : Prop where
  short : ∀ sensor, (identity.ids sensor).length ≤ 31
  distinct : Function.Injective identity.ids

theorem discoveryTopic_whole {station : Deployment} (ids : station.identity.Distinguishes) (sensor : SensorId) :
    storedDiscoveryTopic (station.sensor sensor) = discoveryTopic (declared sensor).type (station.identity.ids sensor) :=
  storedDiscoveryTopic_whole (declared_known sensor) (ids.short sensor)

theorem registrations_nodup {station : Deployment} (ids : station.identity.Distinguishes) :
    (station.registrations.map Ha.Sent.topic).Nodup := by
  have topics : station.registrations.map Ha.Sent.topic =
      SensorId.all.map fun sensor => storedDiscoveryTopic (station.sensor sensor) := by
    rw [Deployment.registrations, List.map_map]
    rfl
  rw [topics]
  refine List.Nodup.map_on ?_ (by decide)
  intro sensor _ other _ same
  rw [discoveryTopic_whole ids, discoveryTopic_whole ids] at same
  exact ids.distinct (discoveryTopic_inj (declared_known sensor) (declared_known other) same).2

theorem away_from_discovery {station : Deployment} {events : List Event} (sensor : SensorId) {message : Ha.Sent}
    (member : message ∈ station.afterRegistering events) :
    message.topic ≠ storedDiscoveryTopic (station.sensor sensor) := by
  unfold Deployment.afterRegistering at member
  rw [List.mem_append, List.mem_cons] at member
  rcases member with (rfl | announced) | published
  · exact (storedDiscoveryTopic_ne _ _).symm
  · split at announced
    · obtain rfl := List.mem_singleton.mp announced
      exact stateTopic_ne_discovery station _ sensor
    · cases announced
  · obtain ⟨event, _, given⟩ := List.mem_filterMap.mp published
    cases event with
    | added other value => cases given
    | published other payload ret =>
      simp only [Event.message] at given
      split at given <;> cases given
      exact stateTopic_ne_discovery station other sensor

/-- In any run a sensor is registered once at most, and nothing else is published to its discovery topic. -/
theorem discovery_once {station : Deployment} (ids : station.identity.Distinguishes) (turns : List Turn)
    (sensor : SensorId) :
    ((messages (station.run turns).net.mqtt.calls).map Ha.Sent.topic).count
      (storedDiscoveryTopic (station.sensor sensor)) ≤ 1 := by
  have once := List.nodup_iff_count_le_one.mp (registrations_nodup ids) (storedDiscoveryTopic (station.sensor sensor))
  cases online : station.online.1 with
  | false =>
    obtain ⟨sent, rest, sends, all⟩ := offline_sends online turns
    rw [← all, List.map_append, List.count_append] at once
    rw [sends_from_booted sends]
    omega
  | true =>
    have absent : ((station.afterRegistering (station.run turns).events).map Ha.Sent.topic).count
        (storedDiscoveryTopic (station.sensor sensor)) = 0 := by
      rw [List.count_eq_zero]
      intro present
      obtain ⟨message, member, same⟩ := List.mem_map.mp present
      exact away_from_discovery sensor member same
    rw [sends_from_booted (online_sends online turns), List.map_append, List.count_append]
    omega

theorem run_phases (station : Deployment) (turns : List Turn) :
    Mqtt.Phases station.booted (station.run turns).net.mqtt := by
  cases online : station.online.1 with
  | false =>
    obtain ⟨_, _, sends, _⟩ := offline_sends online turns
    exact sends.phases
  | true => exact (online_sends online turns).phases

/-- Once the registration of a sensor has reached the broker, the broker keeps it: at every later point of the run,
whatever is published and however often the station reconnects. -/
theorem registration_kept (station : Deployment) (turns : List Turn) (retained : Text → Option Text)
    (ids : station.identity.Distinguishes) (sensor : SensorId) {before between rest : List Mqtt.Call}
    {param : Mqtt.PublishParam} {connected : Bool}
    (same : (station.run turns).net.mqtt.calls = before ++ .mqttPublish param connected 0 :: (between ++ rest))
    (registers : sentAs param =
      discovery station.platform station.identity.homeAssistant (station.sensor sensor))
    (heard : (Mqtt.brokerAfter retained before).session.isSome) :
    (Mqtt.brokerAfter retained (before ++ .mqttPublish param connected 0 :: between)).retained
      (discoveryTopic (declared sensor).type (station.identity.ids sensor)) =
      some (discovery station.platform station.identity.homeAssistant (station.sensor sensor)).payload := by
  have topic : param.topic = storedDiscoveryTopic (station.sensor sensor) := congrArg Ha.Sent.topic registers
  have payload : param.payload = _ := congrArg Ha.Sent.payload registers
  have keeps : param.retainFlag = true := congrArg Ha.Sent.retain registers
  have once := discovery_once ids turns sensor
  have wills := wills_of_phases (run_phases station turns)
  rw [← discoveryTopic_whole ids, ← topic, ← payload]
  rw [same, ← List.cons_append, ← List.append_assoc] at once wills
  have wills' : ∀ call ∈ before ++ .mqttPublish param connected 0 :: between, call.Wills station.identity.will :=
    fun call member => wills call (List.mem_append_left _ member)
  refine retained_kept keeps heard wills' ?_ ?_
  · rw [topic]
    exact (storedDiscoveryTopic_ne _ _).symm
  · rw [← List.count_eq_zero]
    have cut : messages ((before ++ .mqttPublish param connected 0 :: between) ++ rest) =
        messages before ++ (sentAs param :: messages between) ++ messages rest := by
      simp [messages, Mqtt.accepted, Mqtt.Call.accepted]
    rw [cut, ← topic, List.map_append, List.map_append, List.map_cons, List.count_append, List.count_append] at once
    have itself : (sentAs param).topic = param.topic := rfl
    rw [itself, List.count_cons_self] at once
    omega

theorem desk_distinguishes : deskUnit.Distinguishes := by
  have short : ∀ sensor ∈ SensorId.all, (deskUnit.ids sensor).length ≤ 31 := by decide +kernel
  have distinct : ∀ a ∈ SensorId.all, ∀ b ∈ SensorId.all, deskUnit.ids a = deskUnit.ids b → a = b := by decide +kernel
  exact ⟨fun sensor => short sensor (mem_all sensor), fun a b same => distinct a (mem_all a) b (mem_all b) same⟩

/-- The temperature sensor stays registered when the connection is lost and taken up again. -/
theorem registration_kept_desk :
    let calls := (desk.run []).net.mqtt.calls
    let message := discovery terse deskUnit.homeAssistant (desk.sensor .temperature)
    (Mqtt.brokerAfter (fun _ => none) (calls.take 9 ++
      .mqttPublish ⟨message.topic, message.payload, 0, true⟩ true 0 :: calls.drop 10)).retained
      (discoveryTopic (declared .temperature).type (deskUnit.ids .temperature)) = some message.payload := by
  intro calls message
  have cut : calls = calls.take 9 ++ .mqttPublish ⟨message.topic, message.payload, 0, true⟩ true 0 :: (calls.drop 10 ++ []) := by
    decide +kernel
  have heard : (Mqtt.brokerAfter (fun _ => none) (calls.take 9)).session.isSome := by decide +kernel
  exact registration_kept desk [] (fun _ => none) desk_distinguishes .temperature cut rfl heard

/-! ### State topics -/

/-- What registers the sensors goes to none of their state topics. -/
theorem registrations_elsewhere (station : Deployment) (sensor : SensorId) {sent : List Ha.Sent}
    (part : sent ⊆ station.registrations) :
    sent.filter (fun message => message.topic = station.stateTopic sensor) = [] := by
  rw [List.filter_eq_nil_iff]
  intro message member
  obtain ⟨other, _, rfl⟩ := List.mem_map.mp (part member)
  exact fun same => stateTopic_ne_discovery station sensor other (of_decide_eq_true same).symm

theorem stateTopic_ne_will (station : Deployment) (sensor : SensorId) :
    station.stateTopic sensor ≠ station.identity.willTopic :=
  storedStateTopic_ne station.identity.deviceId (deviceId_fits station.identity) (declared_known sensor)

theorem stateTopic_whole {station : Deployment} (short : ∀ sensor, (station.identity.ids sensor).length ≤ 31)
    (sensor : SensorId) : station.stateTopic sensor =
      fullStateTopic (mqttBasePath station.identity.deviceId) (declared sensor).type (station.identity.ids sensor) := by
  have known : Known (station.sensor sensor).type := declared_known sensor
  exact storedStateTopic_whole known (short sensor) (basePath_length station.identity)

/-- No other sensor has this sensor's state topic. -/
def Deployment.Owns (station : Deployment) (sensor : SensorId) : Prop :=
  ∀ other, station.stateTopic other = station.stateTopic sensor → other = sensor

theorem owns_distinct {station : Deployment} (ids : station.identity.Distinguishes) (sensor : SensorId) :
    station.Owns sensor := by
  intro other same
  rw [stateTopic_whole ids.short, stateTopic_whole ids.short] at same
  exact ids.distinct (fullStateTopic_inj (declared_known other) (declared_known sensor) same).2

/-- The watchdog sensor is the only one of its type. -/
theorem owns_watchdog {station : Deployment} (short : ∀ sensor, (station.identity.ids sensor).length ≤ 31) :
    station.Owns .watchdogTriggered := by
  intro other same
  rw [stateTopic_whole short, stateTopic_whole short] at same
  have type := (fullStateTopic_inj (declared_known other) (declared_known _) same).1
  cases other
  case watchdogTriggered => rfl
  all_goals
    rw [declared, declared, sensor_chars, binarySensor_chars] at type
    simp at type

def Event.sensor : Event → SensorId
  | .added sensor _ | .published sensor _ _ => sensor

/-- What goes to a sensor's topic while sampling is what is sent for the sensor. -/
theorem filter_published {station : Deployment} {sensor : SensorId} (owns : station.Owns sensor) (events : List Event) :
    (events.filterMap (Event.message station.stateTopic)).filter
        (fun message => message.topic = station.stateTopic sensor) =
      (events.filter fun event => event.sensor = sensor).filterMap (Event.message station.stateTopic) := by
  induction events with
  | nil => rfl
  | cons event rest ih =>
    have split : event :: rest = [event] ++ rest := rfl
    rw [split, List.filterMap_append, List.filter_append, ih, List.filter_append, List.filterMap_append]
    congr 1
    cases event with
    | added other value => by_cases this : other = sensor <;> simp [Event.sensor, Event.message, this]
    | published other payload ret =>
      by_cases this : other = sensor
      · by_cases failed : ret < 0 <;> simp [Event.sensor, Event.message, this, failed]
      · have elsewhere : station.stateTopic other ≠ station.stateTopic sensor := fun same => this (owns other same)
        by_cases failed : ret < 0 <;> simp [Event.sensor, Event.message, this, failed, elsewhere]

/-- A state topic gets what the loop sends for its sensor, and the watchdog sensor's the announcement before. -/
theorem messages_on_topic {station : Deployment} {sensor : SensorId} (owns : station.Owns sensor) (turns : List Turn) :
    let s := station.run turns
    (messages s.net.mqtt.calls).filter (fun message => message.topic = station.stateTopic sensor) =
      (if station.online.1 = true ∧ station.announced = true ∧ sensor = .watchdogTriggered then [station.announcement]
        else []) ++
      (s.events.filter fun event => event.sensor = sensor).filterMap (Event.message station.stateTopic) := by
  intro s
  cases online : station.online.1 with
  | false =>
    obtain ⟨sent, rest, sends, all⟩ := offline_sends online turns
    have part : sent ⊆ station.registrations := by
      rw [← all]
      exact List.subset_append_left sent rest
    have silent : s.events = [] := (congrArg App.events (run_offline_app online turns)).trans (online_events station)
    rw [sends_from_booted sends, registrations_elsewhere station sensor part, silent]
    simp
  | true =>
    have availability : ¬ station.availability.topic = station.stateTopic sensor := (stateTopic_ne_will station sensor).symm
    rw [sends_from_booted (online_sends online turns), Deployment.afterRegistering, List.filter_append,
      registrations_elsewhere station sensor (List.Subset.refl _), List.nil_append, List.filter_append,
      filter_published owns, List.filter_cons_of_neg (by simpa using availability)]
    congr 1
    cases announced : station.announced with
    | false => simp
    | true =>
      by_cases this : sensor = .watchdogTriggered
      · subst this
        simp [Deployment.announcement]
      · have elsewhere : station.stateTopic .watchdogTriggered ≠ station.stateTopic sensor :=
          fun same => this (owns _ same).symm
        simp [Deployment.announcement, this, elsewhere]

end AirQuality.Station
