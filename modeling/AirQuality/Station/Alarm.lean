import AirQuality.Station.Catalogue
import AirQuality.Station.Watchdog

/-!
# The watchdog sensor

After a reset by the watchdog the Watchdog sensor is "ON" for five minutes: `main` announces it before the sampling
loop and clears it once, in the loop's thirty-first iteration. Nothing else of the loop touches the sensor.
-/

namespace AirQuality.Station
open Foundation Ha Uid

/-- What the loop makes of the watchdog sensor. -/
def alarms (events : List Event) : List Event := events.filter fun event => event.sensor = .watchdogTriggered

theorem alarms_append (before after : List Event) : alarms (before ++ after) = alarms before ++ alarms after :=
  List.filter_append before after

section Network
variable {σ : Type*} (publish : Publish σ)

/-- The part of an iteration leaves the watchdog sensor and the loop's control alone. -/
structure Apart (s t : App σ) : Prop where
  sensor : t.sensors .watchdogTriggered = s.sensors .watchdogTriggered
  alarms : alarms t.events = alarms s.events

theorem apart_refl (s : App σ) : Apart s s := ⟨rfl, rfl⟩

theorem Apart.trans {s t u : App σ} (before : Apart s t) (after : Apart t u) : Apart s u :=
  ⟨after.sensor.trans before.sensor, after.alarms.trans before.alarms⟩

theorem addSensorReading_apart {sensor : SensorId} (other : sensor ≠ .watchdogTriggered) (s : App σ) (value : ℚ) :
    Apart s (addSensorReading s sensor value) := by
  refine ⟨Function.update_of_ne other.symm _ _, ?_⟩
  show alarms (s.events ++ [.added sensor value]) = _
  rw [alarms_append]
  simp [alarms, Event.sensor, other]

theorem sendSensorValue_apart {sensor : SensorId} (other : sensor ≠ .watchdogTriggered) (s : App σ) :
    Apart s (sendSensorValue publish s sensor).2 := by
  refine ⟨Function.update_of_ne other.symm _ _, ?_⟩
  rcases sendSensorValue_net publish s sensor with ⟨_, events⟩ | ⟨payload, sent⟩
  · rw [events]
  · rw [(Prod.mk.inj sent).2]
    show alarms (s.events ++ [.published sensor payload _]) = _
    rw [alarms_append]
    simp [alarms, Event.sensor, other]

theorem sendEach_apart (sensors : List SensorId) (others : ∀ sensor ∈ sensors, sensor ≠ .watchdogTriggered)
    (nonFatalError : Bool) (s : App σ) : Apart s (sendEach publish sensors nonFatalError s).2 := by
  induction sensors generalizing nonFatalError s with
  | nil => exact apart_refl s
  | cons sensor rest ih =>
    rw [List.forall_mem_cons] at others
    exact (sendSensorValue_apart publish others.1 s).trans (ih others.2 _ _)

theorem loopSend_apart (s : App σ) : Apart s (loopSend publish s).2 := by
  unfold loopSend
  split
  · have sent := sendEach_apart publish measured (fun _ => measured_ne.mp) false s
    exact ⟨sent.sensor, sent.alarms⟩
  · exact apart_refl s

theorem loopReads_apart (s : App σ) (reads : Reads) : Apart s (loopReads s reads) := by
  have temphum24 : Apart s (readTemphum24 s reads) := by
    unfold readTemphum24
    split
    · exact ⟨rfl, rfl⟩
    · exact (addSensorReading_apart (by decide) s _).trans (addSensorReading_apart (by decide) _ _)
  have scd40 : Apart (readTemphum24 s reads) (readScd40 (readTemphum24 s reads) reads) := by
    unfold readScd40
    split
    · exact ⟨rfl, rfl⟩
    · exact addSensorReading_apart (by decide) _ _
  refine (temphum24.trans scd40).trans ?_
  unfold loopReads readSps30
  split
  · exact ⟨rfl, rfl⟩
  · have pm1 := @addSensorReading_apart _ .pm1 (by decide) (readScd40 (readTemphum24 s reads) reads) reads.massPm1_0
    exact (pm1.trans (addSensorReading_apart (by decide) _ _)).trans (addSensorReading_apart (by decide) _ _)

/-- The message that clears the sensor. -/
def cleared (topics : SensorId → Text) : Ha.Sent := ⟨topics .watchdogTriggered, statePayload false, true⟩

/-- The messages that the loop has sent for the watchdog sensor. -/
def alarmMessages (topics : SensorId → Text) (s : App σ) : List Ha.Sent :=
  (alarms s.events).filterMap (Event.message topics)

theorem Apart.messages {topics : SensorId → Text} {s t : App σ} (apart : Apart s t) :
    alarmMessages topics t = alarmMessages topics s := by
  unfold alarmMessages
  rw [apart.alarms]

/-- The retry loop sends the state once if it returns, and nothing if it does not. -/
theorem retry_alarms (topics : SensorId → Text) (patience : Nat) (s : App σ)
    (off : (s.sensors .watchdogTriggered).binaryState = false) :
    let (returned, t) := retry (sendBinarySensorState publish .watchdogTriggered) patience s
    t.sensors = s.sensors ∧
      alarmMessages topics t = alarmMessages topics s ++ if returned then [cleared topics] else [] := by
  induction patience generalizing s with
  | zero => exact ⟨rfl, by simp⟩
  | succ patience ih =>
    obtain ⟨ret, net, answered⟩ : ∃ ret net, publish (s.sensors .watchdogTriggered).fullStateTopic
        (statePayload false) (s.sensors .watchdogTriggered).retain s.net = (ret, net) := ⟨_, _, rfl⟩
    have attempt := sendBinarySensorState_eq publish .watchdogTriggered s
    simp only [off, answered] at attempt
    let t : App σ := { s with net, events := s.events ++ [.published .watchdogTriggered (statePayload false) ret] }
    have sent : alarmMessages topics t = alarmMessages topics s ++ if ret < 0 then [] else [cleared topics] := by
      show (alarms (s.events ++ [.published .watchdogTriggered (statePayload false) ret])).filterMap _ = _
      rw [alarms_append, List.filterMap_append]
      by_cases failed : ret < 0 <;> simp [alarmMessages, alarms, Event.sensor, Event.message, failed, cleared, declared]
    by_cases failed : ret < 0
    · rw [if_pos failed, List.append_nil] at sent
      have rest := ih t off
      rw [if_pos failed] at attempt
      rw [retry, attempt]
      dsimp only
      rw [if_pos failed]
      rw [sent] at rest
      exact rest
    · rw [if_neg failed] at sent
      rw [if_neg failed] at attempt
      rw [retry, attempt]
      exact ⟨rfl, sent⟩

/-! ### Iterations -/

/-- The sensor is on, and the loop has made `n` iterations. -/
structure Raised (n : Nat) (s : App σ) : Prop where
  running : s.blocked = false
  counter : s.mainLoopCounter.toNat = n
  on : (s.sensors .watchdogTriggered).binaryState = true

/-- The sensor is off. -/
structure Lowered (s : App σ) : Prop where
  running : s.blocked = false
  off : (s.sensors .watchdogTriggered).binaryState = false

/-- Where an iteration looks at the watchdog sensor. -/
def sampled (s : App σ) (reads : Reads) : App σ := (loopSend publish (loopReads s reads)).2

theorem sampled_apart (s : App σ) (reads : Reads) : Apart s (sampled publish s reads) :=
  (loopReads_apart s reads).trans (loopSend_apart publish _)

theorem sampled_control (s : App σ) (reads : Reads) :
    (sampled publish s reads).mainLoopCounter = s.mainLoopCounter ∧ (sampled publish s reads).blocked = s.blocked := by
  have read := loopReads_flags s reads
  have sent := loopSend_spec publish (loopReads s reads)
  exact ⟨sent.counter.trans read.counter, sent.blocked.trans read.blocked⟩

theorem iterate_sampled {s : App σ} (running : s.blocked = false) (turn : Turn) :
    iterate publish s turn =
      let u := loopResetWatchdogSensor publish (sampled publish s turn.reads) turn.patience
      if u.blocked then u else { u with mainLoopCounter := u.mainLoopCounter + 1, nonFatalError := false } := by
  unfold iterate loopBody sampled
  rw [if_neg (by simp [running])]
  dsimp only
  split <;> rfl

/-- An iteration that leaves the sensor alone counts itself and goes on. -/
theorem iterate_apart {s : App σ} {turn : Turn} (running : s.blocked = false)
    (skips : loopResetWatchdogSensor publish (sampled publish s turn.reads) turn.patience = sampled publish s turn.reads) :
    Apart s (iterate publish s turn) ∧ (iterate publish s turn).blocked = false ∧
      (iterate publish s turn).mainLoopCounter = s.mainLoopCounter + 1 := by
  obtain ⟨counter, blocked⟩ := sampled_control publish s turn.reads
  have apart := sampled_apart publish s turn.reads
  have go : (sampled publish s turn.reads).blocked = false := blocked.trans running
  rw [iterate_sampled publish running]
  dsimp only
  rw [skips, if_neg (by simp [go])]
  exact ⟨⟨apart.sensor, apart.alarms⟩, go, by dsimp only; rw [counter]⟩

theorem iterate_lowered {s : App σ} (lowered : Lowered s) (turn : Turn) :
    Lowered (iterate publish s turn) ∧ Apart s (iterate publish s turn) := by
  have off : ((sampled publish s turn.reads).sensors .watchdogTriggered).binaryState = false := by
    rw [(sampled_apart publish s turn.reads).sensor]
    exact lowered.off
  have skips : loopResetWatchdogSensor publish (sampled publish s turn.reads) turn.patience =
      sampled publish s turn.reads := by
    simp [loopResetWatchdogSensor, haGetBinarySensorState, off]
  obtain ⟨apart, running, _⟩ := iterate_apart publish lowered.running skips
  exact ⟨⟨running, by rw [apart.sensor]; exact lowered.off⟩, apart⟩

theorem iterate_raised {n : Nat} {s : App σ} (raised : Raised n s) (early : n < 30) (turn : Turn) :
    Raised (n + 1) (iterate publish s turn) ∧ Apart s (iterate publish s turn) := by
  obtain ⟨counter, _⟩ := sampled_control publish s turn.reads
  have below : ¬ numberOfLoopResetWatchdogSensor ≤ (sampled publish s turn.reads).mainLoopCounter := by
    rw [counter, UInt32.le_iff_toNat_le, raised.counter]
    show ¬ 30 ≤ n
    omega
  have skips : loopResetWatchdogSensor publish (sampled publish s turn.reads) turn.patience =
      sampled publish s turn.reads := by
    simp [loopResetWatchdogSensor, below]
  obtain ⟨apart, running, next⟩ := iterate_apart publish raised.running skips
  refine ⟨⟨running, ?_, by rw [apart.sensor]; exact raised.on⟩, apart⟩
  rw [next, UInt32.toNat_add, raised.counter]
  show (n + 1) % 4294967296 = n + 1
  omega

/-- The thirty-first iteration clears the sensor, or does not return from trying. -/
theorem iterate_due (topics : SensorId → Text) {s : App σ} (raised : Raised 30 s) (turn : Turn) :
    let t := iterate publish s turn
    (t.blocked = true ∧ alarmMessages topics t = alarmMessages topics s) ∨
      (Lowered t ∧ alarmMessages topics t = alarmMessages topics s ++ [cleared topics]) := by
  intro t
  obtain ⟨counter, _⟩ := sampled_control publish s turn.reads
  have apart := sampled_apart publish s turn.reads
  let start := setWatchdogSensor (sampled publish s turn.reads) false
  have off : (start.sensors .watchdogTriggered).binaryState = false := by
    show (Function.update (sampled publish s turn.reads).sensors _ _ _).binaryState = false
    rw [Function.update_self]
    rfl
  have due : loopResetWatchdogSensor publish (sampled publish s turn.reads) turn.patience =
      sendBinarySensorRetry publish turn.patience start := by
    unfold loopResetWatchdogSensor
    rw [apart.sensor, counter, haGetBinarySensorState, raised.on, if_pos]
    simp only [Bool.and_eq_true, decide_eq_true_eq, and_true, UInt32.le_iff_toNat_le, raised.counter]
    decide
  have retried := retry_alarms publish topics turn.patience start off
  have before : alarmMessages topics start = alarmMessages topics s := apart.messages
  have body := iterate_sampled publish raised.running turn
  rw [due, sendBinarySensorRetry] at body
  generalize retry (sendBinarySensorState publish .watchdogTriggered) turn.patience start = result at *
  obtain ⟨returned, u⟩ := result
  obtain ⟨sensors, messages⟩ := retried
  rw [before] at messages
  cases returned with
  | false =>
    refine Or.inl ?_
    rw [show t = _ from body]
    rw [if_neg Bool.false_ne_true, List.append_nil] at messages
    exact ⟨rfl, messages⟩
  | true =>
    refine Or.inr ?_
    rw [show t = _ from body]
    refine ⟨⟨rfl, ?_⟩, messages⟩
    show (u.sensors .watchdogTriggered).binaryState = false
    rw [sensors]
    exact off

theorem run_lowered {s : App σ} (lowered : Lowered s) (turns : List Turn) :
    Lowered (run (iterate publish) s turns) ∧ Apart s (run (iterate publish) s turns) := by
  let Inv (t : App σ) : Prop := Lowered t ∧ Apart s t
  have keep : ∀ t turn, Inv t → Inv (iterate publish t turn) := by
    rintro t turn ⟨lowered', before⟩
    obtain ⟨next, apart⟩ := iterate_lowered publish lowered' turn
    exact ⟨next, before.trans apart⟩
  have start : Inv s := ⟨lowered, apart_refl s⟩
  exact run_invariant keep start turns

theorem run_raised (topics : SensorId → Text) {n : Nat} {s : App σ} (raised : Raised n s) (within : n ≤ 30)
    (turns : List Turn) :
    let t := run (iterate publish) s turns
    alarmMessages topics t =
      alarmMessages topics s ++ if 30 < n + turns.length ∧ t.blocked = false then [cleared topics] else [] := by
  induction turns generalizing n s with
  | nil =>
    intro t
    rw [if_neg, List.append_nil]
    · rfl
    · rintro ⟨late, _⟩
      exact absurd late (by simpa using within)
  | cons turn rest ih =>
    intro t
    by_cases early : n < 30
    · obtain ⟨raised', apart⟩ := iterate_raised publish raised early turn
      have later := ih raised' (by omega)
      rw [apart.messages, show n + 1 + rest.length = n + (turn :: rest).length by simp; omega] at later
      exact later
    · obtain rfl : n = 30 := by omega
      have late : 30 < 30 + (turn :: rest).length := by simp
      rcases iterate_due publish topics raised turn with ⟨blocked, messages⟩ | ⟨lowered, messages⟩
      · have stuck : t = iterate publish s turn := run_blocked publish blocked rest
        rw [stuck, messages, blocked]
        simp
      · obtain ⟨lowered', apart⟩ := run_lowered publish lowered rest
        have same : alarmMessages topics t = alarmMessages topics (iterate publish s turn) := apart.messages
        have running : t.blocked = false := lowered'.running
        rw [same, messages, running, if_pos ⟨late, rfl⟩]

end Network

/-! ### A station -/

theorem announce_raised {station : Deployment} (announced : station.announced = true) :
    let s := announce World.publish station.identity station.patience station.online.2
    (if station.identity.watchdogTriggered then Raised 0 s else Lowered s) ∧ s.events = [] := by
  intro s
  have running : s.blocked = false := by simpa [Deployment.announced] using announced
  obtain ⟨sensors, counter⟩ := sendBinarySensorRetry_frame World.publish station.patience.announce
    (setWatchdogSensor station.online.2 station.identity.watchdogTriggered)
  have fresh : station.online.2.mainLoopCounter = 0 := by
    unfold Deployment.online goOnline
    dsimp only
    split <;> rfl
  have state : (s.sensors .watchdogTriggered).binaryState = station.identity.watchdogTriggered := by
    show ((sendBinarySensorRetry World.publish station.patience.announce _).sensors _).binaryState = _
    rw [sensors]
    show (Function.update station.online.2.sensors _ _ _).binaryState = _
    rw [Function.update_self]
    rfl
  refine ⟨?_, rfl⟩
  cases triggered : station.identity.watchdogTriggered with
  | false => exact ⟨running, state.trans triggered⟩
  | true =>
    refine ⟨running, ?_, state.trans triggered⟩
    show (sendBinarySensorRetry World.publish station.patience.announce _).mainLoopCounter.toNat = 0
    rw [counter]
    show station.online.2.mainLoopCounter.toNat = 0
    rw [fresh]
    rfl

/-- The state topic of the watchdog sensor carries the state that the reset cause gives, and after that one "OFF" if
that state was "ON", the loop has made its thirty-first iteration and returned from it. -/
theorem alarm_lifecycle (station : Deployment) (turns : List Turn)
    (short : ∀ sensor, (station.identity.ids sensor).length ≤ 31)
    (online : station.online.1 = true) (announced : station.announced = true) :
    let s := station.run turns
    (messages s.net.mqtt.calls).filter (fun message => message.topic = station.stateTopic .watchdogTriggered) =
      station.announcement ::
        if station.identity.watchdogTriggered = true ∧ 30 < turns.length ∧ s.blocked = false then
          [cleared station.stateTopic] else [] := by
  intro s
  have sampled : (s.events.filter fun event => event.sensor = .watchdogTriggered).filterMap
      (Event.message station.stateTopic) =
      if station.identity.watchdogTriggered = true ∧ 30 < turns.length ∧ s.blocked = false then
        [cleared station.stateTopic] else [] := by
    obtain ⟨start, silent⟩ := announce_raised announced
    have empty : alarmMessages station.stateTopic
        (announce World.publish station.identity station.patience station.online.2) = [] := by
      unfold alarmMessages
      rw [silent]
      rfl
    show alarmMessages station.stateTopic (station.run turns) = _
    cases triggered : station.identity.watchdogTriggered with
    | false =>
      rw [triggered] at start
      obtain ⟨_, apart⟩ := run_lowered World.publish start turns
      rw [run_online online, apart.messages, empty]
      simp
    | true =>
      rw [triggered] at start
      have cleared := run_raised World.publish station.stateTopic start (Nat.zero_le 30) turns
      rw [← run_online online] at cleared
      simpa [empty] using cleared
  rw [messages_on_topic (owns_watchdog short) turns, sampled, if_pos ⟨online, announced, rfl⟩]
  rfl

/-- A reset by the watchdog, and time enough to clear the sensor. -/
theorem alarm_lifecycle_reset :
    let station : Deployment := { desk with identity := { deskUnit with watchdogTriggered := true } }
    let turns : List Turn := List.replicate 31 ⟨⟨0, 21, 40, 0, 600, 0, 1, 2, 3⟩, 1⟩
    let s := station.run turns
    (messages s.net.mqtt.calls).filter (fun message => message.topic = station.stateTopic .watchdogTriggered) =
      station.announcement ::
        if station.identity.watchdogTriggered = true ∧ 30 < turns.length ∧ s.blocked = false then
          [cleared station.stateTopic] else [] := by
  intro station turns
  exact alarm_lifecycle station turns desk_distinguishes.short (by decide +kernel) (by decide +kernel)

end AirQuality.Station
