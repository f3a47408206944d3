import AirQuality.Network.Readiness
import AirQuality.Station.Boot
import AirQuality.Station.Reset

/-!
# Starting up

`main` starts OpenThread, identifies its boards and then waits for `OPENTHREAD_READY_EVENT`, while the callbacks raise
and clear it. Nothing is said to the network before, and the event is not looked at again after.
-/

namespace AirQuality.Station
open Foundation Ha Uid Hvac TempHum24 Network

/-- `openthread_start` is called once the callback is registered. -/
def openthreadMyStart (register start : Int) : Int := if register < 0 then register else start

/-- What `main` finds from power-on up to `ha_start`: the cause of the reset, what OpenThread returns, what is on the
boards, and the callbacks, those up to the wait and those during it. -/
structure Machine where
  reset : CauseRead
  register : Int
  start : Int
  power : PowerOn
  configLog : Bool
  before : List StateChange
  during : List StateChange

def Machine.powered (machine : Machine) : PowerOn :=
  { machine.power with watchdogTriggered := isResetCauseWatchdog (resetCause machine.reset) }

/-- `openthread_wait_for_ready` from a state on, over the callbacks still to come; `none` if it blocks after the last. -/
def waitForReady (configLog : Bool) (s : Status) : List StateChange → Option Status
  | [] => (openthreadWaitForReady s).map fun _ => s
  | change :: rest =>
    match openthreadWaitForReady s with
    | some _ => some s
    | none => waitForReady configLog (onThreadStateChanged configLog s change) rest

inductive Outcome (σ : Type*) where
  | stopped
  | waiting
  | running (rig : Rig σ)

section Network
variable {σ : Type*} (publish : Publish σ) (single : UInt32 → ℚ)

/-- `main` from power-on. -/
def Machine.main (init : Init σ) (platform : Platform) (patience : Patience) (machine : Machine) (boards : Boards)
    (net : σ) (turns : List Answers) : Outcome σ :=
  if openthreadMyStart machine.register machine.start < 0 then .stopped else
  match identify machine.powered boards with
  | (none, _) => .stopped
  | (some identity, boards) =>
    match waitForReady machine.configLog (afterChanges machine.configLog machine.before) machine.during with
    | none => .waiting
    | some _ =>
      .running (run (Rig.iterate publish single)
        (Rig.start publish init platform patience machine.powered identity boards net) turns)

end Network

theorem waitForReady_iff (configLog : Bool) (s : Status) (changes : List StateChange) :
    waitForReady configLog s changes ≠ none ↔
      ∃ n ≤ changes.length, openthreadIsReady (run (onThreadStateChanged configLog) s (changes.take n)) = true := by
  have blocks : ∀ s, openthreadWaitForReady s = none ↔ ¬ openthreadIsReady s = true := by
    intro s
    unfold openthreadWaitForReady openthreadIsReady
    split
    · rename_i set
      exact iff_of_false (Option.some_ne_none _) (not_not.mpr set)
    · rename_i clear
      exact iff_of_true rfl clear
  induction changes generalizing s with
  | nil =>
    unfold waitForReady
    rw [ne_eq, Option.map_eq_none_iff, blocks, not_not]
    constructor
    · exact fun ready => ⟨0, le_refl 0, ready⟩
    · rintro ⟨n, within, ready⟩
      rw [List.take_nil] at ready
      exact ready
  | cons change rest ih =>
    unfold waitForReady
    cases waits : openthreadWaitForReady s with
    | some code =>
      have ready : openthreadIsReady s = true := by
        by_contra unready
        rw [(blocks s).mpr unready] at waits
        cases waits
      exact iff_of_true (Option.some_ne_none s) ⟨0, Nat.zero_le _, ready⟩
    | none =>
      have unready := (blocks s).mp waits
      apply (ih _).trans
      constructor
      · rintro ⟨n, within, ready⟩
        exact ⟨n + 1, Nat.succ_le_succ within, ready⟩
      · rintro ⟨n, within, ready⟩
        cases n with
        | zero => exact absurd ready unready
        | succ n => exact ⟨n, Nat.le_of_succ_le_succ within, ready⟩

/-- A callback, the last before the wait or a later one, that announced an address when the station was attached, had a
neighbour and had a route. -/
def Machine.Ready (machine : Machine) : Prop :=
  ∃ earlier last rest, machine.before ++ machine.during = earlier ++ last :: rest ∧
    machine.before.length ≤ earlier.length + 1 ∧
    Attached (earlier ++ [last]) ∧ last.neighbors ≠ [] ∧ last.prefixes ≠ [] ∧ RaisesAddress last

theorem waits_iff (machine : Machine) :
    waitForReady machine.configLog (afterChanges machine.configLog machine.before) machine.during ≠ none ↔
      machine.Ready := by
  have after : ∀ n, run (onThreadStateChanged machine.configLog) (afterChanges machine.configLog machine.before)
      (machine.during.take n) = afterChanges machine.configLog (machine.before ++ machine.during.take n) := fun n =>
    (run_append _ _ _).symm
  rw [waitForReady_iff]
  constructor
  · rintro ⟨n, within, ready⟩
    rw [after] at ready
    rcases List.eq_nil_or_concat (machine.before ++ machine.during.take n) with silent | ⟨earlier, last, cut⟩
    · rw [silent] at ready
      exact absurd (show openthreadIsReady {} = true from ready) (by decide)
    · rw [List.concat_eq_append] at cut
      rw [cut] at ready
      refine ⟨earlier, last, machine.during.drop n, ?_, ?_, (ready_iff machine.configLog earlier last).mp ready⟩
      · rw [List.append_cons, ← cut, List.append_assoc, List.take_append_drop]
      · have lengths := congrArg List.length cut
        simp only [List.length_append, List.length_singleton] at lengths
        omega
  · rintro ⟨earlier, last, rest, same, later, ready⟩
    have lengths := congrArg List.length same
    simp only [List.length_append, List.length_cons] at lengths
    have cut : machine.before ++ machine.during.take (earlier.length + 1 - machine.before.length) = earlier ++ [last] := by
      have taken := congrArg (List.take (earlier.length + 1)) same
      rw [List.take_append, List.take_of_length_le later] at taken
      rw [taken, List.append_cons]
      exact List.take_left' (by simp)
    refine ⟨earlier.length + 1 - machine.before.length, by omega, ?_⟩
    rw [after, cut]
    exact (ready_iff machine.configLog earlier last).mpr ready

section Network
variable {σ : Type*} (publish : Publish σ) (single : UInt32 → ℚ)

/-- A station runs exactly if OpenThread has started, its boards could be identified, and some callback from the last
one before the wait on found the network ready; and it then runs as from `init_temphum24_click` on, whatever has
become of the network. -/
theorem runs_iff_ready (init : Init σ) (platform : Platform) (patience : Patience) (machine : Machine) (boards : Boards)
    (net : σ) (turns : List Answers) (rig : Rig σ) :
    machine.main publish single init platform patience boards net turns = .running rig ↔
      rig = Rig.main publish single init platform patience machine.powered boards net turns ∧
        ¬ openthreadMyStart machine.register machine.start < 0 ∧ (identify machine.powered boards).1 ≠ none ∧
        machine.Ready := by
  rw [← waits_iff]
  unfold Machine.main Rig.main
  by_cases failed : openthreadMyStart machine.register machine.start < 0
  · rw [if_pos failed]
    exact iff_of_false nofun fun all => all.2.1 failed
  · rw [if_neg failed]
    cases identify machine.powered boards with
    | mk known prepared =>
      cases known with
      | none => exact iff_of_false nofun fun all => all.2.2.1 rfl
      | some identity =>
        dsimp only
        cases waitForReady machine.configLog (afterChanges machine.configLog machine.before) machine.during with
        | none => exact iff_of_false nofun fun all => all.2.2.2 rfl
        | some s =>
          constructor
          · intro same
            exact ⟨(Outcome.running.inj same).symm, failed, Option.some_ne_none identity, Option.some_ne_none s⟩
          · rintro ⟨rfl, _⟩
            rfl

end Network

end AirQuality.Station
