import AirQuality.Station.Readings

/-!
# Feeding the main watchdog

The error flag of the sampling loop is cleared in every iteration, but publishing sets it only in the
iterations that publish. In between, a failed publish is forgotten unless a sensor read fails too.
-/

namespace AirQuality.Station
open Foundation Ha Uid

def Reads.Fail (reads : Reads) : Prop := reads.temphum24 < 0 ∨ reads.scd40 < 0 ∨ reads.sps30 < 0

def lastSent (reports : List Report) : Option (Int × List Event) := (reports.filterMap Report.sent).getLast?

theorem lastSent_append (before : List Report) (report : Report) :
    lastSent (before ++ [report]) = report.sent.or (lastSent before) := by
  unfold lastSent
  rw [List.filterMap_append]
  cases sent : report.sent <;> simp [sent]

theorem lastSent_mem {reports : List Report} {answer : Int × List Event} (last : lastSent reports = some answer) :
    ∃ report ∈ reports, report.sent = some answer :=
  List.mem_filterMap.mp (List.mem_of_getLast? last)

/-- The last `send_sensor_values` returned a negative value. -/
def Outage (reports : List Report) : Prop := ∃ ret events, lastSent reports = some (ret, events) ∧ ret < 0

/-- A persistent failure starves the watchdog: it is not fed in an iteration with a failed read, nor
from a failing `send_sensor_values` to the next one that returns 0. -/
def Starves (reports : List Report) : Prop :=
  ∀ before report after, reports = before ++ report :: after →
    report.reads.Fail ∨ Outage (before ++ [report]) → report.fed = false

/-- In each iteration that does not publish, if a publish failed when publishing was last attempted,
a sensor read fails. -/
def FailsMeanwhile (reports : List Report) : Prop :=
  ∀ before report after, reports = before ++ report :: after → publishes report.counter = false →
    (∃ ret events, lastSent before = some (ret, events) ∧ PublishFailed events) → report.reads.Fail

structure Regular (report : Report) : Prop where
  skipped : report.sent = none ↔ publishes report.counter = false
  sent : ∀ ret events, report.sent = some (ret, events) → (ret < 0 ↔ PublishFailed events)
  fed : report.fed = true ↔ ¬ report.reads.Fail ∧ ∀ ret events, report.sent = some (ret, events) → ¬ ret < 0

section Network
variable {σ : Type*} (publish : Publish σ)

/-! ### Iterations -/

/-- A part of an iteration that leaves the loop's variables alone, but for the flag when it fails. -/
structure Flags (failed : Prop) (s t : App σ) : Prop where
  counter : t.mainLoopCounter = s.mainLoopCounter
  blocked : t.blocked = s.blocked
  flag : t.nonFatalError = true ↔ s.nonFatalError = true ∨ failed

theorem flags_failed {failed : Prop} (holds : failed) (s : App σ) : Flags failed s { s with nonFatalError := true } :=
  ⟨rfl, rfl, by simp [holds]⟩

theorem flags_kept {failed : Prop} (succeeds : ¬ failed) {s t : App σ} (counter : t.mainLoopCounter = s.mainLoopCounter)
    (blocked : t.blocked = s.blocked) (same : t.nonFatalError = s.nonFatalError) : Flags failed s t :=
  ⟨counter, blocked, by simp [same, succeeds]⟩

theorem Flags.trans {first second : Prop} {s t u : App σ} (before : Flags first s t) (after : Flags second t u) :
    Flags (first ∨ second) s u :=
  ⟨after.counter.trans before.counter, after.blocked.trans before.blocked, by
    rw [after.flag, before.flag, or_assoc]⟩

theorem readTemphum24_flags (s : App σ) (reads : Reads) : Flags (reads.temphum24 < 0) s (readTemphum24 s reads) := by
  unfold readTemphum24
  split
  · exact flags_failed ‹_› s
  · exact flags_kept ‹_› rfl rfl rfl

theorem readScd40_flags (s : App σ) (reads : Reads) : Flags (reads.scd40 < 0) s (readScd40 s reads) := by
  unfold readScd40
  split
  · exact flags_failed ‹_› s
  · exact flags_kept ‹_› rfl rfl rfl

theorem readSps30_flags (s : App σ) (reads : Reads) : Flags (reads.sps30 < 0) s (readSps30 s reads) := by
  unfold readSps30
  split
  · exact flags_failed ‹_› s
  · exact flags_kept ‹_› rfl rfl rfl

theorem loopReads_flags (s : App σ) (reads : Reads) : Flags reads.Fail s (loopReads s reads) := by
  have temphum24 := readTemphum24_flags s reads
  have scd40 := readScd40_flags (readTemphum24 s reads) reads
  have sps30 := readSps30_flags (readScd40 (readTemphum24 s reads) reads) reads
  exact temphum24.trans (scd40.trans sps30)

theorem sendEach_frame (sensors : List SensorId) (nonFatalError : Bool) (s : App σ) :
    (sendEach publish sensors nonFatalError s).2.mainLoopCounter = s.mainLoopCounter ∧
      (sendEach publish sensors nonFatalError s).2.blocked = s.blocked ∧
      (sendEach publish sensors nonFatalError s).2.nonFatalError = s.nonFatalError := by
  induction sensors generalizing nonFatalError s with
  | nil => exact ⟨rfl, rfl, rfl⟩
  | cons sensor rest ih => exact ih _ _

theorem sendSensorValues_nonzero (s : App σ) : (sendSensorValues publish s).1 ≠ 0 ↔ (sendSensorValues publish s).1 < 0 := by
  unfold sendSensorValues
  cases flag : (sendEach publish measured false s).1 <;> simp [flag]

structure Sent (s : App σ) (sent : Option (Int × List Event)) (t : App σ) : Prop where
  counter : t.mainLoopCounter = s.mainLoopCounter
  blocked : t.blocked = s.blocked
  skipped : sent = none ↔ publishes s.mainLoopCounter = false
  failed : ∀ ret events, sent = some (ret, events) → (ret < 0 ↔ PublishFailed events)
  flag : t.nonFatalError = true ↔ s.nonFatalError = true ∨ ∃ ret events, sent = some (ret, events) ∧ ret < 0

theorem loopSend_spec (s : App σ) : Sent s (loopSend publish s).1 (loopSend publish s).2 := by
  unfold loopSend
  cases due : publishes s.mainLoopCounter with
  | false => exact ⟨rfl, rfl, by simp [due], by simp, by simp⟩
  | true =>
    obtain ⟨counter, blocked, flag⟩ := sendEach_frame publish measured false s
    have negative := sendSensorValues_negative publish s
    have nonzero := sendSensorValues_nonzero publish s
    refine ⟨counter, blocked, by simp [due], ?_, ?_⟩
    · rintro ret events ⟨⟩
      exact negative
    · have same : (sendSensorValues publish s).2.nonFatalError = s.nonFatalError := flag
      simp only [if_true, Bool.or_eq_true, decide_eq_true_eq, same, nonzero]
      refine or_congr_right ⟨?_, ?_⟩
      · intro failed
        exact ⟨_, _, rfl, failed⟩
      · rintro ⟨ret, events, ⟨⟩, failed⟩
        exact failed

theorem loopResetWatchdogSensor_flag (s : App σ) (patience : Nat) :
    (loopResetWatchdogSensor publish s patience).nonFatalError = s.nonFatalError := by
  unfold loopResetWatchdogSensor
  split
  · have kept : ∀ t : App σ, t.nonFatalError = s.nonFatalError →
        (sendBinarySensorState publish .watchdogTriggered t).2.nonFatalError = s.nonFatalError := fun _ same => same
    exact retry_invariant kept patience rfl
  · rfl

theorem loopBody_regular {s t : App σ} {turn : Turn} {report : Report} (clear : s.nonFatalError = false)
    (completed : loopBody publish s turn = (some report, t)) : Regular report ∧ t.nonFatalError = false := by
  obtain ⟨counter, _, read⟩ := loopReads_flags s turn.reads
  obtain ⟨_, _, skipped, failed, flag⟩ := loopSend_spec publish (loopReads s turn.reads)
  have kept := loopResetWatchdogSensor_flag publish (loopSend publish (loopReads s turn.reads)).2 turn.patience
  unfold loopBody at completed
  dsimp only at completed
  split at completed
  · cases completed
  · cases completed
    refine ⟨⟨?_, failed, ?_⟩, rfl⟩
    · rw [counter] at skipped
      exact skipped
    · simp only [clear, Bool.false_eq_true, false_or] at read
      rw [read] at flag
      dsimp only
      rw [kept, Bool.not_eq_true', ← Bool.not_eq_true, flag, not_or, not_exists]
      simp only [not_exists, not_and]

theorem reports_cons (s : App σ) (turn : Turn) (rest : List Turn) :
    reports publish s (turn :: rest) =
      match loopBody publish s turn with
      | (none, _) => []
      | (some report, t) => report :: reports publish t rest := by
  rfl

theorem reports_regular {s : App σ} (clear : s.nonFatalError = false) (turns : List Turn) :
    ∀ report ∈ reports publish s turns, Regular report := by
  induction turns generalizing s with
  | nil => exact fun _ present => absurd present List.not_mem_nil
  | cons turn rest ih =>
    rw [reports_cons]
    split
    · simp
    · rename_i report t completed
      obtain ⟨regular, clear'⟩ := loopBody_regular publish clear completed
      rw [List.forall_mem_cons]
      exact ⟨regular, ih clear'⟩

end Network

theorem starves_iff {reports : List Report} (regular : ∀ report ∈ reports, Regular report) :
    Starves reports ↔ FailsMeanwhile reports := by
  have failed_iff : ∀ before report after, reports = before ++ report :: after →
      (Outage before ↔ ∃ ret events, lastSent before = some (ret, events) ∧ PublishFailed events) := by
    rintro before report after rfl
    refine exists_congr fun ret => exists_congr fun events => and_congr_right ?_
    intro last
    obtain ⟨sender, present, sent⟩ := lastSent_mem last
    exact (regular sender (List.mem_append_left _ present)).sent ret events sent
  constructor
  · intro starves before report after same skips last
    have facts := regular report (by simp [same])
    have outage : Outage (before ++ [report]) := by
      obtain ⟨ret, events, sent, failed⟩ := (failed_iff before report after same).mpr last
      exact ⟨ret, events, by rw [lastSent_append, facts.skipped.mpr skips]; exact sent, failed⟩
    have unfed := starves before report after same (Or.inr outage)
    by_contra reads
    have fed := facts.fed.mpr ⟨reads, by simp [facts.skipped.mpr skips]⟩
    rw [unfed] at fed
    cases fed
  · rintro meanwhile before report after same (reads | ⟨ret, events, sent, failed⟩)
    · have facts := regular report (by simp [same])
      rw [← Bool.not_eq_true, facts.fed]
      exact fun both => both.1 reads
    · have facts := regular report (by simp [same])
      rw [← Bool.not_eq_true, facts.fed]
      intro both
      obtain ⟨succeeds, positive⟩ := both
      cases now : report.sent with
      | some answer =>
        rw [lastSent_append, now] at sent
        cases sent
        exact positive ret events now failed
      | none =>
        rw [lastSent_append, now] at sent
        exact succeeds (meanwhile before report after same (facts.skipped.mp now)
          ((failed_iff before report after same).mp ⟨ret, events, sent, failed⟩))

/-- A run starves the watchdog on persistent failures exactly if a sensor read fails in every
iteration in which a failed publish is only waiting for its next attempt. -/
theorem watchdog_starved_iff {σ : Type*} (publish : Publish σ) (ha : HomeAssistant) (ids topics : SensorId → Text)
    (watchdogTriggered : Bool) (net : σ) (turns : List Turn) :
    Starves (reports publish (App.sampling ha ids topics watchdogTriggered net []) turns) ↔
      FailsMeanwhile (reports publish (App.sampling ha ids topics watchdogTriggered net []) turns) :=
  starves_iff (reports_regular publish rfl turns)

/-- Without a network the second iteration feeds the watchdog. -/
theorem watchdog_fed_in_outage : ¬ ∀ (publish : Publish Unit) (ha : HomeAssistant) (ids topics : SensorId → Text)
    (watchdogTriggered : Bool) (turns : List Turn),
    Starves (reports publish (App.sampling ha ids topics watchdogTriggered () []) turns) := by
  intro always
  let publish : Publish Unit := fun _ _ _ _ => (Errno.enotconn.code, ())
  let turn : Turn := ⟨⟨0, 21, 40, 0, 600, 0, 1, 2, 3⟩, 0⟩
  have starves := always publish {} (fun _ => []) (fun _ => []) false [turn, turn]
  obtain ⟨first, second, same, outage, fed⟩ : ∃ first second,
      reports publish (App.sampling {} (fun _ => []) (fun _ => []) false () []) [turn, turn] = [first, second] ∧
        Outage [first, second] ∧ second.fed = true :=
    ⟨_, _, rfl, ⟨-1, _, rfl, by decide⟩, rfl⟩
  have unfed := starves [first] second [] same (Or.inr outage)
  rw [fed] at unfed
  cases unfed

end AirQuality.Station
