import AirQuality.Station.Main

/-!
# The rule of the sampling loop

A property that survives each thing an iteration does to the readings, the watchdog sensor and the
network, and does not depend on the loop's own variables, survives the loop.
-/

namespace AirQuality.Station
open Foundation Ha Uid

theorem measured_ne {sensor : SensorId} : sensor ∈ measured ↔ sensor ≠ .watchdogTriggered := by
  cases sensor <;> decide

theorem retry_invariant {τ : Type*} {attempt : τ → Int × τ} {Inv : τ → Prop}
    (keep : ∀ t, Inv t → Inv (attempt t).2) (patience : Nat) {t : τ} (start : Inv t) :
    Inv (retry attempt patience t).2 := by
  induction patience generalizing t with
  | zero => exact start
  | succ patience ih =>
    unfold retry
    dsimp only
    split
    · exact ih (keep t start)
    · exact keep t start

/-- A retry loop returns from an attempt that did not fail, made where failing attempts have led. -/
theorem retry_returned {τ : Type*} {attempt : τ → Int × τ} {Inv : τ → Prop}
    (keep : ∀ t, Inv t → (attempt t).1 < 0 → Inv (attempt t).2) {patience : Nat} {t : τ} (start : Inv t)
    (returned : (retry attempt patience t).1 = true) :
    ∃ u, Inv u ∧ ¬ (attempt u).1 < 0 ∧ (retry attempt patience t).2 = (attempt u).2 := by
  induction patience generalizing t with
  | zero => cases returned
  | succ patience ih =>
    unfold retry at returned ⊢
    dsimp only at returned ⊢
    split at returned
    · rename_i failed
      rw [if_pos failed]
      exact ih (keep t start failed) returned
    · rename_i succeeded
      rw [if_neg succeeded]
      exact ⟨t, start, succeeded, rfl⟩

section Network
variable {σ : Type*} (publish : Publish σ)

theorem run_blocked {s : App σ} (blocked : s.blocked = true) (turns : List Turn) :
    run (iterate publish) s turns = s := by
  have keep : ∀ t (turn : Turn), t = s → iterate publish t turn = s := by
    rintro t turn rfl
    rw [iterate, if_pos blocked]
  exact run_invariant keep rfl turns

/-- Sending the state, once or many times, changes nothing but the network and the record of it. -/
theorem sendBinarySensorRetry_frame (patience : Nat) (s : App σ) :
    (sendBinarySensorRetry publish patience s).sensors = s.sensors ∧
      (sendBinarySensorRetry publish patience s).mainLoopCounter = s.mainLoopCounter := by
  let Inv (t : App σ) : Prop := t.sensors = s.sensors ∧ t.mainLoopCounter = s.mainLoopCounter
  have keep : ∀ t, Inv t → Inv (sendBinarySensorState publish .watchdogTriggered t).2 := fun _ held => held
  have start : Inv s := ⟨rfl, rfl⟩
  exact retry_invariant keep patience start

/-- `Inv` survives what an iteration does, whatever the loop's own variables are. -/
structure LoopInvariant (Inv : App σ → Prop) : Prop where
  control : ∀ {s : App σ} (counter : UInt32) (flag blocked : Bool), Inv s →
    Inv { s with mainLoopCounter := counter, nonFatalError := flag, blocked := blocked }
  add : ∀ {s : App σ} {sensor : SensorId} (value : ℚ), sensor ≠ .watchdogTriggered → Inv s →
    Inv (addSensorReading s sensor value)
  send : ∀ {s : App σ} {sensor : SensorId}, sensor ≠ .watchdogTriggered → Inv s →
    Inv (sendSensorValue publish s sensor).2
  set : ∀ {s : App σ} (state : Bool), Inv s → Inv (setWatchdogSensor s state)
  announce : ∀ {s : App σ}, Inv s → Inv (sendBinarySensorState publish .watchdogTriggered s).2

variable {publish} {Inv : App σ → Prop}

theorem LoopInvariant.reads (rule : LoopInvariant publish Inv) {s : App σ} (start : Inv s) (reads : Reads) :
    Inv (loopReads s reads) := by
  have failed : ∀ {t : App σ}, Inv t → Inv { t with nonFatalError := true } := fun {t} held =>
    rule.control t.mainLoopCounter true t.blocked held
  have temphum24 : Inv (readTemphum24 s reads) := by
    unfold readTemphum24
    split
    · exact failed start
    · exact rule.add _ (by decide) (rule.add _ (by decide) start)
  have scd40 : Inv (readScd40 (readTemphum24 s reads) reads) := by
    unfold readScd40
    split
    · exact failed temphum24
    · exact rule.add _ (by decide) temphum24
  unfold loopReads readSps30
  split
  · exact failed scd40
  · exact rule.add _ (by decide) (rule.add _ (by decide) (rule.add _ (by decide) scd40))

theorem LoopInvariant.sendEach (rule : LoopInvariant publish Inv) (sensors : List SensorId) (nonFatalError : Bool)
    {s : App σ} (start : Inv s) (measured : ∀ sensor ∈ sensors, sensor ≠ .watchdogTriggered) :
    Inv (sendEach publish sensors nonFatalError s).2 := by
  induction sensors generalizing nonFatalError s with
  | nil => exact start
  | cons sensor rest ih =>
    rw [List.forall_mem_cons] at measured
    exact ih _ (rule.send measured.1 start) measured.2

theorem LoopInvariant.loopSend (rule : LoopInvariant publish Inv) {s : App σ} (start : Inv s) :
    Inv (loopSend publish s).2 := by
  unfold Station.loopSend
  split
  · have sent := rule.sendEach measured false start fun _ => measured_ne.mp
    exact rule.control _ _ _ sent
  · exact start

theorem LoopInvariant.retry (rule : LoopInvariant publish Inv) {s : App σ} (start : Inv s) (patience : Nat)
    (state : Bool) : Inv (sendBinarySensorRetry publish patience (setWatchdogSensor s state)) := by
  have sent := retry_invariant (fun _ => rule.announce) patience (rule.set state start)
  exact rule.control _ _ _ sent

theorem LoopInvariant.iterate (rule : LoopInvariant publish Inv) {s : App σ} (start : Inv s) (turn : Turn) :
    Inv (iterate publish s turn) := by
  have sent := rule.loopSend (rule.reads start turn.reads)
  have reset : Inv (loopResetWatchdogSensor publish (Station.loopSend publish (loopReads s turn.reads)).2 turn.patience) := by
    unfold loopResetWatchdogSensor
    split
    · exact rule.retry sent turn.patience false
    · exact sent
  unfold Station.iterate loopBody
  split
  · exact start
  · dsimp only
    split
    · exact reset
    · exact rule.control _ _ _ reset

theorem LoopInvariant.run (rule : LoopInvariant publish Inv) {s : App σ} (start : Inv s) (turns : List Turn) :
    Inv (run (Station.iterate publish) s turns) := by
  have keep : ∀ (s : App σ) (turn : Turn), Inv s → Inv (Station.iterate publish s turn) :=
    fun _ turn held => rule.iterate held turn
  exact run_invariant keep start turns

end Network

end AirQuality.Station
