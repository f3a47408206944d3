import AirQuality.Mqtt.Reader
import AirQuality.Station.Messages
import AirQuality.Station.Watchdog

/-!
# Progress

The retry loops of `main` have no bound of their own. The watchdog runs from the start and is fed at the end of an
iteration only, so it may reset the station in any of them. Where it leaves the time, a loop ends as soon as the network
answers one attempt, whatever has happened before: no state of the client is beyond recovery. This is about packets
whose payloads are over: at one that never is, an attempt does not return.
-/

namespace AirQuality.Station
open Foundation Ha Uid

/-- The network lets the client reconnect and takes the packet. -/
structure Moment.Healthy (moment : Moment) : Prop where
  reconnects : moment.env.toConnectEnv.Reconnects
  sent : moment.env.result = .sent

/-- Each window of publishes has a healthy moment. -/
def Fair (moments : Nat → Moment) (window : Nat) : Prop := ∀ n, ∃ j, j < window ∧ (moments (n + j)).Healthy

/-- The network that answers as `moments` say, in a state a run can reach. -/
structure Ready (moments : Nat → Moment) (w : World) : Prop where
  same : w.moments = moments
  consistent : Mqtt.Consistent w.mqtt

section Ready
variable {moments : Nat → Moment}

theorem World.publish_next (topic payload : Text) (retain : Bool) (w : World) :
    (World.publish topic payload retain w).2.next = w.next + 1 := rfl

theorem World.publish_ready {w : World} (ready : Ready moments w) (topic payload : Text) (retain : Bool) :
    Ready moments (World.publish topic payload retain w).2 := by
  have sends := World.publish_sends ready.consistent topic payload retain
  exact ⟨ready.same, sends.phases.consistent ready.consistent⟩

/-- At a healthy moment a publish succeeds from every state. -/
theorem World.publish_healthy {w : World} (ready : Ready moments w) (healthy : (moments w.next).Healthy)
    (topic payload : Text) (retain : Bool) : (World.publish topic payload retain w).1 = 0 := by
  rw [← ready.same] at healthy
  have phases := Mqtt.run_phases ready.consistent ((w.moments w.next).background.map Background.step)
  have completes := (Mqtt.mqttPublishToTopic_completes (phases.consistent ready.consistent) topic payload retain
    (w.moments w.next).env).mp ⟨Or.inr healthy.reconnects, healthy.sent⟩
  exact completes.1

/-- Each attempt makes one publish, and fails only if the publish does. -/
structure Attempts (moments : Nat → Moment) {τ : Type*} (net : τ → World) (Inv : τ → Prop)
    (attempt : τ → Int × τ) : Prop where
  ready : ∀ t, Inv t → Ready moments (net t)
  keep : ∀ t, Inv t → Inv (attempt t).2
  publishes : ∀ t, Inv t → ∃ topic payload retain,
    net (attempt t).2 = (World.publish topic payload retain (net t)).2 ∧
      ((attempt t).1 < 0 → (World.publish topic payload retain (net t)).1 < 0)

/-- A retry loop returns at the first healthy moment at the latest. -/
theorem Attempts.returns {τ : Type*} {net : τ → World} {Inv : τ → Prop} {attempt : τ → Int × τ}
    (attempts : Attempts moments net Inv attempt) {j patience : Nat} (within : j < patience) {t : τ} (start : Inv t)
    (healthy : (moments ((net t).next + j)).Healthy) : (retry attempt patience t).1 = true := by
  induction patience generalizing j t with
  | zero => exact absurd within (Nat.not_lt_zero j)
  | succ patience ih =>
    obtain ⟨topic, payload, retain, published, fails⟩ := attempts.publishes t start
    unfold retry
    dsimp only
    split
    · rename_i failed
      cases j with
      | zero =>
        have succeeded := World.publish_healthy (attempts.ready t start) healthy topic payload retain
        have negative := fails failed
        omega
      | succ j =>
        have later : (moments ((net (attempt t).2).next + j)).Healthy := by
          rw [published, World.publish_next, Nat.add_assoc, Nat.add_comm 1 j]
          exact healthy
        exact ih (by omega) (attempts.keep t start) later
    · rfl

theorem Attempts.fair {τ : Type*} {net : τ → World} {Inv : τ → Prop} {attempt : τ → Int × τ}
    (attempts : Attempts moments net Inv attempt) {window : Nat} (fair : Fair moments window) {patience : Nat}
    (patient : window ≤ patience) {t : τ} (start : Inv t) :
    (retry attempt patience t).1 = true ∧ Inv (retry attempt patience t).2 := by
  obtain ⟨j, within, healthy⟩ := fair (net t).next
  have returned := attempts.returns (show j < patience by omega) start healthy
  exact ⟨returned, retry_invariant attempts.keep patience start⟩

/-- The JSON library encodes the configuration of the sensor. -/
def Encodes (platform : Platform) (ha : HomeAssistant) (sensor : HaSensor) : Prop :=
  0 ≤ (encodeConfig platform sensor.type (announcedConfig platform ha sensor)).1

theorem Encodes.same {platform : Platform} {ha : HomeAssistant} {sensor registered : HaSensor}
    (encodes : Encodes platform ha sensor) (same : SameButTopic sensor registered) : Encodes platform ha registered := by
  rw [same]
  exact encodes

theorem register_attempts {platform : Platform} {ha : HomeAssistant} {sensor : HaSensor}
    (encodes : Encodes platform ha sensor) :
    Attempts moments Prod.snd (fun x : HaSensor × World => SameButTopic sensor x.1 ∧ Ready moments x.2)
      (fun x => haRegisterSensor World.publish platform ha x.1 x.2) := by
  have publishes : ∀ x : HaSensor × World, SameButTopic sensor x.1 → ∃ topic payload retain,
      (haRegisterSensor World.publish platform ha x.1 x.2).2.2 = (World.publish topic payload retain x.2).2 ∧
        ((haRegisterSensor World.publish platform ha x.1 x.2).1 < 0 → (World.publish topic payload retain x.2).1 < 0) := by
    rintro ⟨registered, w⟩ same
    have encoded := Int.not_lt.mpr (encodes.same same)
    rw [haRegisterSensor_eq]
    unfold haSendDiscovery
    refine ⟨storedDiscoveryTopic registered,
      (encodeConfig platform registered.type (announcedConfig platform ha registered)).2, true, ?_⟩
    dsimp only
    rw [if_neg encoded]
    split
    · rename_i failed
      exact ⟨rfl, fun _ => failed⟩
    · exact ⟨rfl, fun impossible => absurd impossible (by omega)⟩
  refine ⟨fun x held => held.2, ?_, fun x held => publishes x held.1⟩
  rintro ⟨registered, w⟩ ⟨same, ready⟩
  obtain ⟨topic, payload, retain, published, _⟩ := publishes ⟨registered, w⟩ same
  refine ⟨?_, ?_⟩
  · have stored := same.register platform ha w
    dsimp only at stored ⊢
    rw [stored]
    rfl
  · rw [published]
    exact World.publish_ready ready topic payload retain

theorem registerAll_progress {platform : Platform} {ha : HomeAssistant} {window : Nat} (fair : Fair moments window)
    {patience : SensorId → Nat} (patient : ∀ sensor, window ≤ patience sensor) (todo : List SensorId)
    (distinct : todo.Nodup) {sensors : SensorId → HaSensor} (encodes : ∀ sensor, Encodes platform ha (sensors sensor))
    {w : World} (ready : Ready moments w) :
    (registerAll World.publish platform ha patience todo sensors w).1 = true ∧
      Ready moments (registerAll World.publish platform ha patience todo sensors w).2.2 := by
  induction todo generalizing sensors w with
  | nil => exact ⟨rfl, ready⟩
  | cons sensor rest ih =>
    rw [List.nodup_cons] at distinct
    have attempts := @register_attempts moments platform ha (sensors sensor) (encodes sensor)
    obtain ⟨returned, same, ready'⟩ :=
      attempts.fair fair (patient sensor) (t := (sensors sensor, w)) ⟨rfl, ready⟩
    have encodes' : ∀ other, Encodes platform ha (Function.update sensors sensor
        (retry (fun x : HaSensor × World => haRegisterSensor World.publish platform ha x.1 x.2) (patience sensor)
          (sensors sensor, w)).2.1 other) := by
      intro other
      by_cases this : other = sensor
      · rw [this, Function.update_self]
        exact (encodes sensor).same same
      · rw [Function.update_of_ne this]
        exact encodes other
    unfold registerAll
    dsimp only
    rw [returned, if_pos rfl]
    exact ih distinct.2 encodes' ready'

theorem setOnline_attempts (ha : HomeAssistant) : Attempts moments id (Ready moments) (haSetOnline World.publish ha) := by
  have publishes : ∀ w, (haSetOnline World.publish ha w).2 = (World.publish ha.lastWillTopic onlineMessage true w).2 ∧
      ((haSetOnline World.publish ha w).1 < 0 → (World.publish ha.lastWillTopic onlineMessage true w).1 < 0) := by
    intro w
    unfold haSetOnline
    dsimp only
    split
    · rename_i failed
      exact ⟨rfl, fun _ => failed⟩
    · exact ⟨rfl, fun impossible => absurd impossible (by omega)⟩
  refine ⟨fun _ => id, ?_, fun w _ => ⟨_, _, _, publishes w⟩⟩
  intro w ready
  rw [(publishes w).1]
  exact World.publish_ready ready _ _ _

theorem ready_rule : LoopInvariant World.publish (fun s => Ready moments s.net) where
  control _ _ _ ready := ready
  add _ _ ready := ready
  set _ ready := ready
  send {s sensor} _ ready := by
    rcases sendSensorValue_net World.publish s sensor with ⟨net, _⟩ | ⟨payload, sent⟩
    · rw [net]
      exact ready
    · rw [(Prod.mk.inj sent).1]
      exact World.publish_ready ready _ payload _
  announce {s} ready := by
    rw [sendBinarySensorState_eq]
    exact World.publish_ready ready _ _ _

theorem sendBinarySensor_attempts (sensor : SensorId) :
    Attempts moments App.net (fun s => Ready moments s.net) (sendBinarySensorState World.publish sensor) := by
  refine ⟨fun _ => id, ?_, ?_⟩
  · intro s ready
    rw [sendBinarySensorState_eq]
    exact World.publish_ready ready _ _ _
  · intro s ready
    rw [sendBinarySensorState_eq]
    refine ⟨_, _, _, rfl, ?_⟩
    dsimp only
    split
    · exact id
    · exact fun impossible => absurd impossible (by omega)

theorem sendBinarySensorRetry_progress {window patience : Nat} (fair : Fair moments window)
    (patient : window ≤ patience) {s : App World} (ready : Ready moments s.net) :
    (sendBinarySensorRetry World.publish patience s).blocked = false := by
  have returned := ((sendBinarySensor_attempts .watchdogTriggered).fair fair patient ready).1
  unfold sendBinarySensorRetry
  dsimp only
  rw [returned]
  rfl

theorem iterate_progress {window : Nat} (fair : Fair moments window) {s : App World} (ready : Ready moments s.net)
    (running : s.blocked = false) {turn : Turn} (patient : window ≤ turn.patience) :
    (iterate World.publish s turn).blocked = false := by
  have read := (loopReads_flags s turn.reads).blocked
  have sent := (loopSend_spec World.publish (loopReads s turn.reads)).blocked
  have held := ready_rule.loopSend (ready_rule.reads ready turn.reads)
  have reset : (loopResetWatchdogSensor World.publish (loopSend World.publish (loopReads s turn.reads)).2
      turn.patience).blocked = false := by
    unfold loopResetWatchdogSensor
    split
    · exact sendBinarySensorRetry_progress fair patient held
    · rw [sent, read, running]
  unfold iterate loopBody
  rw [if_neg (by simp [running])]
  dsimp only
  rw [if_neg (by simp [reset])]
  exact reset

theorem run_progress {window : Nat} (fair : Fair moments window) (turns : List Turn)
    (patient : ∀ turn ∈ turns, window ≤ turn.patience) {s : App World} (ready : Ready moments s.net)
    (running : s.blocked = false) : (run (iterate World.publish) s turns).blocked = false := by
  induction turns generalizing s with
  | nil => exact running
  | cons turn rest ih =>
    rw [List.forall_mem_cons] at patient
    exact ih patient.2 (ready_rule.iterate ready turn) (iterate_progress fair ready running patient.1)

end Ready

/-! ### A station -/

/-- The watchdog leaves each retry loop the time for `window` attempts. -/
structure Patience.AtLeast (patience : Patience) (window : Nat) : Prop where
  register : ∀ sensor, window ≤ patience.register sensor
  online : window ≤ patience.online
  announce : window ≤ patience.announce

theorem online_progress (station : Deployment) {window : Nat} (fair : Fair station.moments window)
    (encodes : ∀ sensor, Encodes station.platform station.identity.homeAssistant (station.sensor sensor))
    (patient : station.patience.AtLeast window) :
    station.online.1 = true ∧ Ready station.moments station.online.2.net := by
  have booted : Ready station.moments { mqtt := station.booted, moments := station.moments } :=
    ⟨rfl, station.booted_consistent⟩
  have registers := registerAll_progress fair patient.register SensorId.all (by decide) encodes booted
  rw [online_eq]
  dsimp only
  unfold Deployment.sensor at registers
  generalize registerAll World.publish station.platform _ station.patience.register SensorId.all _ _ = result at *
  obtain ⟨registered, sensors, net⟩ := result
  obtain ⟨rfl, ready⟩ := registers
  obtain ⟨online, ready'⟩ := (setOnline_attempts station.identity.homeAssistant).fair fair patient.online ready
  rw [if_neg (by simp)]
  exact ⟨online, ready'⟩

/-- If of every `window` publishes one finds the network healthy, the sensor configurations can be encoded, and the
watchdog leaves each retry loop the time for `window` attempts, then each retry loop of the run returns. -/
theorem never_blocked (station : Deployment) (turns : List Turn) {window : Nat} (fair : Fair station.moments window)
    (encodes : ∀ sensor, Encodes station.platform station.identity.homeAssistant (station.sensor sensor))
    (patient : station.patience.AtLeast window) (turnsPatient : ∀ turn ∈ turns, window ≤ turn.patience) :
    station.online.1 = true ∧ station.announced = true ∧ (station.run turns).blocked = false := by
  obtain ⟨online, ready⟩ := online_progress station fair encodes patient
  have running : (announce World.publish station.identity station.patience station.online.2).blocked = false :=
    sendBinarySensorRetry_progress fair patient.announce ready
  refine ⟨online, by rw [Deployment.announced, running]; rfl, ?_⟩
  rw [run_online online]
  exact run_progress fair turns turnsPatient (ready_rule.retry ready station.patience.announce _) running

/-- Every second publish is lost. -/
def everySecond (number : Nat) : Moment where
  background := []
  env := { Mqtt.answering 0 with rand := 0, result := if number % 2 = 0 then .lost .enotconn else .sent }

/-- The loop's own retry, in the thirty-first iteration, has two attempts too. -/
theorem never_blocked_desk :
    let station : Deployment := { desk with
      identity := { deskUnit with watchdogTriggered := true }, patience := ⟨fun _ => 2, 2, 2⟩, moments := everySecond }
    let turns : List Turn := List.replicate 31 ⟨⟨0, 21, 40, 0, 600, 0, 1, 2, 3⟩, 2⟩
    station.online.1 = true ∧ station.announced = true ∧ (station.run turns).blocked = false := by
  intro station turns
  have healthy : ∀ n, n % 2 = 1 → (everySecond n).Healthy := by
    intro n odd
    refine ⟨⟨Or.inl ⟨1, rfl⟩, Or.inl ⟨⟨0, true, rfl⟩, Int.natCast_nonneg 1, rfl, rfl⟩⟩, ?_⟩
    show (if n % 2 = 0 then Mqtt.WriteResult.lost .enotconn else .sent) = .sent
    rw [if_neg (by omega)]
  have fair : Fair station.moments 2 := by
    intro n
    rcases Nat.mod_two_eq_zero_or_one n with even | odd
    · exact ⟨1, by omega, healthy _ (by omega)⟩
    · exact ⟨0, by omega, healthy _ odd⟩
  have encodes : ∀ sensor, Encodes station.platform station.identity.homeAssistant (station.sensor sensor) := by
    intro sensor
    cases sensor <;> exact Int.le_refl 0
  exact never_blocked station turns fair encodes ⟨fun _ => Nat.le_refl 2, Nat.le_refl 2, Nat.le_refl 2⟩
    fun turn member => (List.eq_of_mem_replicate member) ▸ Nat.le_refl 2

end AirQuality.Station
