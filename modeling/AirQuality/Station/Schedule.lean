import AirQuality.Foundation.Batches
import AirQuality.Station.Watchdog

/-!
# How many readings make a mean

The sampling loop publishes when its 32-bit counter is a multiple of six. Since 2^32 is not one, the counter's wrap
brings a publish early and never late: no attempt to publish comes after more than six new readings of a sensor. What
waits for a publish is therefore bounded by the attempts that have failed.
-/

namespace AirQuality.Station
open Foundation Ha Uid

def mark (sensor : SensorId) : Event → Option (Mark ℚ)
  | .added other value => if other = sensor then some (.add value) else none
  | .published other _ ret => if other = sensor then some (if 0 ≤ ret then .flushed else .failed) else none

/-- The readings and the publishes of one sensor. -/
def marks (sensor : SensorId) (events : List Event) : List (Mark ℚ) := events.filterMap (mark sensor)

theorem marks_append (sensor : SensorId) (before after : List Event) :
    marks sensor (before ++ after) = marks sensor before ++ marks sensor after := List.filterMap_append

theorem pendingReadings_marks (sensor : SensorId) (events : List Event) :
    pendingReadings sensor events = held (marks sensor events) := by
  unfold pendingReadings held marks
  rw [List.filterMap_filterMap]
  congr 1
  refine List.filterMap_congr fun event _ => ?_
  cases event with
  | added other value => by_cases same : other = sensor <;> simp [entry, mark, same, Mark.kept]
  | published other payload ret =>
    by_cases same : other = sensor <;> by_cases sent : 0 ≤ ret <;> simp [entry, mark, same, sent, Mark.kept]

/-- The attempts to publish the sensor's value that have failed since the last one that succeeded. -/
def failures (sensor : SensorId) (events : List Event) : Nat := missed (marks sensor events)

/-- No attempt has come after more than six new readings, and there are `n` new ones at most. -/
structure Fresh (sensor : SensorId) (n : Nat) (events : List Event) : Prop where
  batched : Batched 6 (marks sensor events)
  few : (batch (marks sensor events)).length ≤ n

theorem Fresh.mono {sensor : SensorId} {n m : Nat} {events : List Event} (fresh : Fresh sensor n events)
    (less : n ≤ m) : Fresh sensor m events := ⟨fresh.batched, fresh.few.trans less⟩

theorem Fresh.bound {sensor : SensorId} {events : List Event} (fresh : Fresh sensor 6 events) :
    (pendingReadings sensor events).length ≤ 6 * (failures sensor events + 1) := by
  have bound := held_bounded fresh.batched
  have few := fresh.few
  rw [pendingReadings_marks, failures]
  omega

section Network
variable {σ : Type*} (publish : Publish σ)

/-- A sensor gets one reading at most in an iteration. -/
theorem marks_readings (sensor : SensorId) (reads : Reads) :
    marks sensor (readings reads) = [] ∨ ∃ value, marks sensor (readings reads) = [.add value] := by
  unfold readings marks
  by_cases temphum24 : reads.temphum24 < 0 <;> by_cases scd40 : reads.scd40 < 0 <;>
    by_cases sps30 : reads.sps30 < 0 <;> cases sensor <;> simp [temphum24, scd40, sps30, mark]

theorem loopReads_fresh {sensor : SensorId} {n : Nat} {s : App σ} (fresh : Fresh sensor n s.events) (reads : Reads) :
    Fresh sensor (n + 1) (loopReads s reads).events := by
  have few := fresh.few
  rw [loopReads_events]
  rcases marks_readings sensor reads with unread | ⟨value, one⟩
  · refine ⟨?_, ?_⟩ <;> rw [marks_append, unread, List.append_nil]
    · exact fresh.batched
    · omega
  · refine ⟨?_, ?_⟩ <;> rw [marks_append, one]
    · exact batched_snoc.mpr ⟨fresh.batched, trivial⟩
    · rw [batch_add, List.length_append, List.length_singleton]
      omega

theorem marks_published (sensor other : SensorId) (events : List Event) (payload : Text) (ret : Int) :
    marks sensor (events ++ [.published other payload ret]) =
      marks sensor events ++ if other = sensor then [if 0 ≤ ret then .flushed else .failed] else [] := by
  rw [marks_append]
  by_cases same : other = sensor <;> simp [marks, mark, same]

theorem fresh_published {sensor : SensorId} {n : Nat} {events : List Event} (fresh : Fresh sensor n events)
    (few : n ≤ 6) (payload : Text) (ret : Int) : Fresh sensor 0 (events ++ [.published sensor payload ret]) := by
  have within : (batch (marks sensor events)).length ≤ 6 := fresh.few.trans few
  refine ⟨?_, ?_⟩ <;> rw [marks_published, if_pos rfl] <;> by_cases sent : 0 ≤ ret <;> simp only [sent, if_true, if_false]
  · exact batched_snoc.mpr ⟨fresh.batched, within⟩
  · exact batched_snoc.mpr ⟨fresh.batched, within⟩
  · rw [batch_flushed, List.length_nil]
  · rw [batch_failed, List.length_nil]

theorem fresh_elsewhere {sensor other : SensorId} {n : Nat} {events : List Event} (fresh : Fresh sensor n events)
    (different : other ≠ sensor) (payload : Text) (ret : Int) :
    Fresh sensor n (events ++ [.published other payload ret]) := by
  refine ⟨?_, ?_⟩ <;> rw [marks_published, if_neg different, List.append_nil]
  · exact fresh.batched
  · exact fresh.few

/-- Sending a sensor's value leaves no new reading of it: it is attempted, or there is none. -/
theorem sendSensorValue_fresh {sensor other : SensorId} {n : Nat} {s : App σ} (accounted : Accounted s)
    (measured : sensor ≠ .watchdogTriggered) (fresh : Fresh sensor n s.events) (few : n ≤ 6) :
    Fresh sensor n (sendSensorValue publish s other).2.events ∧
      (other = sensor → Fresh sensor 0 (sendSensorValue publish s other).2.events) := by
  rcases sendSensorValue_cases publish s other with ⟨zero, same⟩ | ⟨_, ret, net, updated, same, _⟩
  · rw [same]
    refine ⟨fresh, ?_⟩
    rintro rfl
    have empty := (accounted.held other measured).count_eq_zero.mp zero
    rw [pendingReadings_marks] at empty
    have newest := (batch_suffix (marks other s.events)).length_le
    rw [empty, List.length_nil] at newest
    exact ⟨fresh.batched, newest⟩
  · rw [same]
    by_cases this : other = sensor
    · subst this
      have attempted := fresh_published fresh few (valueString ((s.sensors other).totalValue / (s.sensors other).numberOfValues)).2 ret
      exact ⟨attempted.mono (Nat.zero_le n), fun _ => attempted⟩
    · exact ⟨fresh_elsewhere fresh this _ ret, fun impossible => absurd impossible this⟩

theorem sendEach_fresh {sensor : SensorId} {n : Nat} (sensors : List SensorId) (nonFatalError : Bool) {s : App σ}
    (accounted : Accounted s) (all : ∀ other ∈ sensors, other ≠ .watchdogTriggered)
    (measured : sensor ≠ .watchdogTriggered) (fresh : Fresh sensor n s.events) (few : n ≤ 6) :
    Fresh sensor n (sendEach publish sensors nonFatalError s).2.events ∧
      (sensor ∈ sensors → Fresh sensor 0 (sendEach publish sensors nonFatalError s).2.events) := by
  induction sensors generalizing n nonFatalError s with
  | nil => exact ⟨fresh, fun impossible => absurd impossible List.not_mem_nil⟩
  | cons other rest ih =>
    rw [List.forall_mem_cons] at all
    obtain ⟨kept, emptied⟩ := @sendSensorValue_fresh _ publish sensor other n s accounted measured fresh few
    have accounted' := sendSensorValue_accounted publish accounted all.1
    have rest' := ih (if (sendSensorValue publish s other).1 < 0 then true else nonFatalError) accounted' all.2 kept few
    refine ⟨rest'.1, fun member => ?_⟩
    rcases List.mem_cons.mp member with first | later
    · exact (ih _ accounted' all.2 (emptied first.symm) (Nat.zero_le 6)).1
    · exact rest'.2 later

/-! ### Iterations -/

/-- How many new readings there can be when the counter is `counter` at the top of the loop. -/
def room (counter : UInt32) : Nat := (counter.toNat + 5) % 6

theorem room_le (counter : UInt32) : room counter ≤ 5 := by
  unfold room
  omega

theorem publishes_iff (counter : UInt32) : publishes counter = true ↔ counter.toNat % 6 = 0 := by
  unfold publishes numberOfReadingsInAverage
  rw [decide_eq_true_eq, ← UInt32.toNat_inj, UInt32.toNat_mod]
  rfl

/-- The counter may wrap here: 2^32 leaves the remainder 4. -/
theorem room_next {counter : UInt32} (skips : publishes counter = false) : room counter + 1 ≤ room (counter + 1) := by
  have rest : counter.toNat % 6 ≠ 0 := by
    rw [← Bool.not_eq_true, publishes_iff] at skips
    exact skips
  have bound := counter.toNat_lt
  unfold room
  rw [UInt32.toNat_add]
  show (counter.toNat + 5) % 6 + 1 ≤ ((counter.toNat + 1) % 4294967296 + 5) % 6
  generalize counter.toNat = n at *
  by_cases wraps : n + 1 = 4294967296
  · obtain rfl : n = 4294967295 := by omega
    decide
  · rw [Nat.mod_eq_of_lt (show n + 1 < 4294967296 by omega)]
    omega

/-- The readings that a sensor has got since it was last attempted to publish them fit the counter. -/
structure OnTime (sensor : SensorId) (s : App σ) : Prop where
  fresh : Fresh sensor 6 s.events
  next : s.blocked = false → Fresh sensor (room s.mainLoopCounter) s.events

theorem loopSend_fresh {sensor : SensorId} (measured' : sensor ≠ .watchdogTriggered) {s : App σ} {counter : UInt32}
    (same : s.mainLoopCounter = counter) (accounted : Accounted s) (fresh : Fresh sensor (room counter + 1) s.events) :
    Fresh sensor (room (counter + 1)) (loopSend publish s).2.events := by
  have few : room counter + 1 ≤ 6 := Nat.succ_le_succ (room_le counter)
  unfold loopSend
  rw [same]
  cases due : publishes counter with
  | false => exact fresh.mono (room_next due)
  | true =>
    have sent := sendEach_fresh publish measured false accounted (fun _ => measured_ne.mp) measured' fresh few
    exact (sent.2 (measured_ne.mpr measured')).mono (Nat.zero_le _)

theorem loopResetWatchdogSensor_fresh {sensor : SensorId} {n : Nat} (measured : sensor ≠ .watchdogTriggered) {s : App σ}
    (fresh : Fresh sensor n s.events) (patience : Nat) :
    Fresh sensor n (loopResetWatchdogSensor publish s patience).events := by
  have keep : ∀ t : App σ, Fresh sensor n t.events →
      Fresh sensor n (sendBinarySensorState publish .watchdogTriggered t).2.events := by
    intro t fresh
    obtain ⟨payload, ret, sent⟩ := sendBinarySensorState_event publish t
    rw [sent]
    exact fresh_elsewhere fresh measured.symm payload ret
  unfold loopResetWatchdogSensor
  split
  · exact retry_invariant keep patience fresh
  · exact fresh

theorem loopResetWatchdogSensor_counter (s : App σ) (patience : Nat) :
    (loopResetWatchdogSensor publish s patience).mainLoopCounter = s.mainLoopCounter := by
  have kept : ∀ t : App σ, t.mainLoopCounter = s.mainLoopCounter →
      (sendBinarySensorState publish .watchdogTriggered t).2.mainLoopCounter = s.mainLoopCounter := fun _ same => same
  unfold loopResetWatchdogSensor
  split
  · exact retry_invariant kept patience rfl
  · rfl

theorem iterate_onTime {sensor : SensorId} (measured : sensor ≠ .watchdogTriggered) {s : App σ} (accounted : Accounted s)
    (onTime : OnTime sensor s) (turn : Turn) : OnTime sensor (iterate publish s turn) := by
  unfold iterate
  split
  · exact onTime
  · rename_i running
    have read := loopReads_flags s turn.reads
    have sent := loopSend_spec publish (loopReads s turn.reads)
    have accounted' := (accounted_rule publish).reads accounted turn.reads
    have fresh := loopReads_fresh (onTime.next (by simpa using running)) turn.reads
    have fresh' := loopResetWatchdogSensor_fresh publish measured
      (loopSend_fresh publish measured read.counter accounted' fresh) turn.patience
    have least := (room_le (s.mainLoopCounter + 1)).trans (Nat.le_succ 5)
    unfold loopBody
    dsimp only
    split
    · rename_i blocked
      exact ⟨fresh'.mono least, fun free => absurd (blocked.symm.trans free) (by decide)⟩
    · refine ⟨fresh'.mono least, fun _ => ?_⟩
      have counter : (loopResetWatchdogSensor publish (loopSend publish (loopReads s turn.reads)).2
          turn.patience).mainLoopCounter = s.mainLoopCounter := by
        rw [loopResetWatchdogSensor_counter, sent.counter, read.counter]
      dsimp only
      rw [counter]
      exact fresh'

theorem run_onTime {sensor : SensorId} (measured : sensor ≠ .watchdogTriggered) {s : App σ} (accounted : Accounted s)
    (onTime : OnTime sensor s) (turns : List Turn) : OnTime sensor (run (iterate publish) s turns) := by
  let Inv (t : App σ) : Prop := Accounted t ∧ OnTime sensor t
  have keep : ∀ t turn, Inv t → Inv (iterate publish t turn) := by
    rintro t turn ⟨accounted, onTime⟩
    exact ⟨(accounted_rule publish).iterate accounted turn, iterate_onTime publish measured accounted onTime turn⟩
  have start : Inv s := ⟨accounted, onTime⟩
  exact (run_invariant keep start turns).2

theorem fresh_before {sensor : SensorId} {n : Nat} {before after : List Event} {payload : Text} {ret : Int}
    (fresh : Fresh sensor n (before ++ .published sensor payload ret :: after)) : Fresh sensor 6 before := by
  have cut : marks sensor (before ++ .published sensor payload ret :: after) =
      marks sensor before ++ (if 0 ≤ ret then .flushed else .failed) :: marks sensor after := by
    rw [marks_append]
    simp [marks, mark]
  have batched := fresh.batched
  rw [cut] at batched
  have within := batched (marks sensor before) _ _ rfl
  refine ⟨?_, ?_⟩
  · intro earlier mark rest same
    exact batched earlier mark (rest ++ (if 0 ≤ ret then .flushed else .failed) :: marks sensor after) (by
      rw [same]
      simp)
  · by_cases sent : 0 ≤ ret <;> simpa [sent, Within] using within

/-- In every run, a published mean is one of at most six readings for the attempt it is part of and six for each failed
attempt since the last success; and no more than that wait for the next attempt. -/
theorem mean_spans (ha : HomeAssistant) (ids topics : SensorId → Text) (watchdogTriggered : Bool) (net : σ)
    (turns : List Turn) :
    let s := run (iterate publish) (App.sampling ha ids topics watchdogTriggered net []) turns
    ∀ sensor ∈ measured,
      (∀ before payload ret after, s.events = before ++ .published sensor payload ret :: after →
        (pendingReadings sensor before).length ≤ 6 * (failures sensor before + 1)) ∧
      (pendingReadings sensor s.events).length ≤ 6 * (failures sensor s.events + 1) := by
  intro s sensor present
  have measured := measured_ne.mp present
  have start : OnTime sensor (App.sampling ha ids topics watchdogTriggered net []) :=
    ⟨⟨batched_nil 6, Nat.zero_le 6⟩, fun _ => ⟨batched_nil 6, Nat.zero_le _⟩⟩
  have accounted := sampling_accounted ha ids topics watchdogTriggered net
  have onTime := run_onTime publish measured accounted start turns
  refine ⟨?_, onTime.fresh.bound⟩
  intro before payload ret after same
  have fresh : Fresh sensor 6 s.events := onTime.fresh
  rw [same] at fresh
  exact (fresh_before fresh).bound

end Network

end AirQuality.Station
