import AirQuality.Ha.Topics
import AirQuality.Station.Loop

/-!
# The reset cause

`main` asks the hardware for the cause of the last reset before it does anything else. The causes are
bits of one word and several can be set; the log takes them apart bit by bit, while the decisions
compare the whole word.
-/

namespace AirQuality.Station
open Foundation Ha

/-- `uint32_t`, as a mask of causes. -/
abbrev CauseMask := BitVec 32

/-- `BIT(n)`. -/
def bit (n : Nat) : CauseMask := 1#32 <<< n

def resetPin : CauseMask := bit 0
def resetSoftware : CauseMask := bit 1
def resetBrownout : CauseMask := bit 2
def resetPor : CauseMask := bit 3
def resetWatchdog : CauseMask := bit 4
def resetDebug : CauseMask := bit 5
def resetSecurity : CauseMask := bit 6
def resetLowPowerWake : CauseMask := bit 7
def resetCpuLockup : CauseMask := bit 8
def resetParity : CauseMask := bit 9
def resetPll : CauseMask := bit 10
def resetClock : CauseMask := bit 11
def resetHardware : CauseMask := bit 12
def resetUser : CauseMask := bit 13
def resetTemperature : CauseMask := bit 14

/-- The outcome of `hwinfo_get_reset_cause`. -/
inductive CauseRead where
  | read (cause : CauseMask)
  | failed (errno : Errno)
  deriving DecidableEq

def causeToString (cause : CauseMask) : Text :=
  if cause = resetPin then "pin".toList
  else if cause = resetSoftware then "software".toList
  else if cause = resetBrownout then "brownout".toList
  else if cause = resetPor then "power-on reset".toList
  else if cause = resetWatchdog then "watchdog".toList
  else if cause = resetDebug then "debug".toList
  else if cause = resetSecurity then "security".toList
  else if cause = resetLowPowerWake then "low power wake-up".toList
  else if cause = resetCpuLockup then "CPU lockup".toList
  else if cause = resetParity then "parity error".toList
  else if cause = resetPll then "PLL error".toList
  else if cause = resetClock then "clock".toList
  else if cause = resetHardware then "hardware".toList
  else if cause = resetUser then "user".toList
  else if cause = resetTemperature then "temperature".toList
  else "unknown".toList

/-- The loop of `print_all_reset_causes` from `causeMask` on, over at most `bits` more masks. -/
def causesFrom (cause : CauseMask) : Nat → CauseMask → List CauseMask
  | 0, _ => []
  | bits + 1, causeMask =>
    if causeMask = 0 then [] else
    let rest := causesFrom cause bits (causeMask <<< 1)
    if cause &&& causeMask ≠ 0 then (cause &&& causeMask) :: rest else rest

/-- The causes logged. The 33rd mask is zero and ends the loop. -/
def printAllResetCauses (cause : CauseMask) : List CauseMask := causesFrom cause 33 1

/-- The result, and the lines logged for the causes. -/
def showResetCause : CauseRead → Int × List Text
  | .failed errno => (errno.code, [])
  | .read cause =>
    (cause.toInt, if cause ≠ 0 then (printAllResetCauses cause).map causeToString else ["no reset cause set".toList])

def isResetCauseWatchdog (cause : CauseMask) : Bool := cause = resetWatchdog

def isResetCauseButton (cause : CauseMask) : Bool := cause = resetPin

/-- `reset_cause`: the result of `show_reset_cause` as a `uint32_t`. -/
def resetCause (read : CauseRead) : CauseMask := BitVec.ofInt 32 (showResetCause read).1

/-- Whether `main` calls `openthread_erase_persistent_info`. -/
def erasesPersistentInfo (read : CauseRead) : Bool :=
  isResetCauseWatchdog (resetCause read) || isResetCauseButton (resetCause read)

def Identity.afterReset (identity : Identity) (read : CauseRead) : Identity :=
  { identity with watchdogTriggered := isResetCauseWatchdog (resetCause read) }

/-- The first state `main` publishes for the watchdog sensor, if its retry loop makes an attempt. -/
def firstState {σ : Type*} (publish : Publish σ) (identity : Identity) (patience : Patience)
    (s : App (σ × List Sent)) : Option Sent :=
  ((announce (noting publish) identity patience s).net.2.drop s.net.2.length).head?

def Contains (cause mask : CauseMask) : Prop := cause &&& mask ≠ 0

instance (cause mask : CauseMask) : Decidable (Contains cause mask) := inferInstanceAs (Decidable (_ ≠ _))

theorem getLsbD_bit (i j : Nat) : (bit i).getLsbD j = (decide (i < 32) && decide (i = j)) := by
  rw [bit, ← BitVec.twoPow_eq, BitVec.getLsbD_twoPow]

theorem bit_ne_zero {i : Nat} (inside : i < 32) : bit i ≠ 0 := by
  intro zero
  have set := getLsbD_bit i i
  simp [zero, inside] at set

theorem bit_inj {i j : Nat} (inside : i < 32) (same : bit i = bit j) : j = i := by
  have set := getLsbD_bit j i
  rw [← same, getLsbD_bit] at set
  simp only [inside, decide_true, Bool.true_and, Bool.true_eq, Bool.and_eq_true, decide_eq_true_eq] at set
  exact set.2

theorem and_bit (cause : CauseMask) (i : Nat) : cause &&& bit i = if cause.getLsbD i then bit i else 0 := by
  rw [bit, ← BitVec.twoPow_eq]
  exact BitVec.and_twoPow cause i

theorem contains_bit (cause : CauseMask) (i : Nat) : Contains cause (bit i) ↔ cause.getLsbD i = true := by
  unfold Contains
  rw [and_bit]
  split
  · rename_i set
    exact iff_of_true (bit_ne_zero (BitVec.lt_of_getLsbD set)) set
  · rename_i clear
    exact iff_of_false (fun set => set rfl) clear

theorem mem_causesFrom (cause : CauseMask) {bits k : Nat} (last : k + bits = 33) (mask : CauseMask) :
    mask ∈ causesFrom cause bits (bit k) ↔ ∃ i, k ≤ i ∧ mask = bit i ∧ cause.getLsbD i = true := by
  induction bits generalizing k with
  | zero =>
    refine iff_of_false List.not_mem_nil ?_
    intro found
    obtain ⟨i, above, _, set⟩ := found
    have inside := BitVec.lt_of_getLsbD set
    omega
  | succ bits ih =>
    have next : bit k <<< 1 = bit (k + 1) := (BitVec.shiftLeft_add 1#32 k 1).symm
    unfold causesFrom
    split
    · rename_i past
      refine iff_of_false List.not_mem_nil ?_
      intro found
      obtain ⟨i, above, _, set⟩ := found
      have inside := BitVec.lt_of_getLsbD set
      exact bit_ne_zero (by omega) past
    · rename_i inside
      have later := ih (k := k + 1) (by omega)
      have cut : (∃ i, k ≤ i ∧ mask = bit i ∧ cause.getLsbD i = true) ↔
          (mask = bit k ∧ cause.getLsbD k = true) ∨ ∃ i, k + 1 ≤ i ∧ mask = bit i ∧ cause.getLsbD i = true := by
        constructor
        · intro found
          obtain ⟨i, above, found⟩ := found
          rcases Nat.eq_or_lt_of_le above with rfl | further
          · exact Or.inl found
          · exact Or.inr ⟨i, further, found⟩
        · rintro (found | ⟨i, above, found⟩)
          · exact ⟨k, le_refl k, found⟩
          · exact ⟨i, by omega, found⟩
      rw [next, and_bit, cut, ← later]
      cases set : cause.getLsbD k with
      | true =>
        simp only [if_true, ne_eq, inside, not_false_eq_true, List.mem_cons, and_true]
      | false =>
        simp only [Bool.false_eq_true, if_false, ne_eq, not_true_eq_false, and_false, false_or]

theorem logged_iff (cause : CauseMask) {i : Nat} (inside : i < 32) :
    bit i ∈ printAllResetCauses cause ↔ Contains cause (bit i) := by
  have start : (1 : CauseMask) = bit 0 := rfl
  rw [printAllResetCauses, start, mem_causesFrom cause rfl, contains_bit]
  constructor
  · intro logged
    obtain ⟨j, _, same, set⟩ := logged
    rwa [bit_inj inside same] at set
  · intro set
    exact ⟨i, Nat.zero_le i, rfl, set⟩

theorem resetCause_read (cause : CauseMask) : resetCause (.read cause) = cause := BitVec.ofInt_toInt

/-- An error code stays negative through the conversion, and is no cause. -/
theorem resetCause_failed (errno : Errno) : (resetCause (.failed errno)).toInt < 0 := by
  have negative := errno.negative
  have fits := errno.fits
  have same : (BitVec.ofInt 32 errno.code).toInt = errno.code :=
    BitVec.toInt_ofInt_eq_self (by decide) (by omega) (by omega)
  show (BitVec.ofInt 32 errno.code).toInt < 0
  omega

theorem failed_no_cause (errno : Errno) :
    isResetCauseWatchdog (resetCause (.failed errno)) = false ∧
      isResetCauseButton (resetCause (.failed errno)) = false := by
  have negative := resetCause_failed errno
  have other : ∀ cause : CauseMask, ¬ cause.toInt < 0 → decide (resetCause (.failed errno) = cause) = false := by
    intro cause positive
    refine decide_eq_false fun same => positive ?_
    rwa [← same]
  exact ⟨other resetWatchdog (by decide), other resetPin (by decide)⟩

theorem sendBinarySensorState_sent {σ : Type*} (publish : Publish σ) (s : App (σ × List Sent)) :
    (sendBinarySensorState (noting publish) .watchdogTriggered s).2.net.2 =
      s.net.2 ++ [{ topic := (s.sensors .watchdogTriggered).fullStateTopic
                    payload := if (s.sensors .watchdogTriggered).binaryState then "ON".toList else "OFF".toList
                    retain := (s.sensors .watchdogTriggered).retain }] := by
  unfold sendBinarySensorState haSendBinarySensorState recorded noting
  dsimp only
  generalize (if (s.sensors .watchdogTriggered).binaryState then "ON".toList else "OFF".toList) = payload
  split <;> rfl

/-- A retry loop that makes an attempt sends the state first, and whatever follows after it. -/
theorem sendBinarySensorRetry_sent {σ : Type*} (publish : Publish σ) (s : App (σ × List Sent)) (attempts : Nat) :
    ∃ rest, (sendBinarySensorRetry (noting publish) (attempts + 1) s).net.2 =
      s.net.2 ++ { topic := (s.sensors .watchdogTriggered).fullStateTopic
                   payload := if (s.sensors .watchdogTriggered).binaryState then "ON".toList else "OFF".toList
                   retain := (s.sensors .watchdogTriggered).retain } :: rest := by
  have first := sendBinarySensorState_sent publish s
  generalize (⟨_, _, _⟩ : Sent) = message at first ⊢
  have keep : ∀ t : App (σ × List Sent), (∃ rest, t.net.2 = s.net.2 ++ message :: rest) →
      ∃ rest, (sendBinarySensorState (noting publish) .watchdogTriggered t).2.net.2 = s.net.2 ++ message :: rest := by
    rintro t ⟨rest, sent⟩
    rw [sendBinarySensorState_sent, sent, List.append_assoc, List.cons_append]
    exact ⟨_, rfl⟩
  unfold sendBinarySensorRetry retry
  dsimp only
  split
  · exact retry_invariant keep attempts ⟨[], first⟩
  · exact ⟨[], first⟩

theorem firstState_eq {σ : Type*} (publish : Publish σ) (identity : Identity) (patience : Patience) (attempts : Nat)
    (s : App (σ × List Sent)) :
    firstState publish identity { patience with announce := attempts + 1 } s =
      some { topic := (s.sensors .watchdogTriggered).fullStateTopic
             payload := if identity.watchdogTriggered then "ON".toList else "OFF".toList
             retain := (s.sensors .watchdogTriggered).retain } := by
  obtain ⟨rest, sent⟩ :=
    sendBinarySensorRetry_sent publish (setWatchdogSensor s identity.watchdogTriggered) attempts
  unfold firstState announce
  dsimp only
  rw [sent]
  simp [setWatchdogSensor, haSetBinarySensorState]

/-! ### Decisions and causes -/

/-- The decisions `main` takes after the reset whose cause `read` tells, with the first message about the
watchdog sensor's state. -/
structure DecidesByMask (read : CauseRead) (first : Option Sent) : Prop where
  erases : erasesPersistentInfo read = true ↔
    ∃ cause, read = .read cause ∧ (Contains cause resetWatchdog ∨ Contains cause resetPin)
  announces : first.map Sent.payload = some "ON".toList ↔
    ∃ cause, read = .read cause ∧ Contains cause resetWatchdog
  watchdogLogged : ∀ cause, read = .read cause →
    (isResetCauseWatchdog cause = true ↔ resetWatchdog ∈ printAllResetCauses cause)
  buttonLogged : ∀ cause, read = .read cause →
    (isResetCauseButton cause = true ↔ resetPin ∈ printAllResetCauses cause)
  errorsIgnored : ∀ errno, read = .failed errno →
    isResetCauseWatchdog (resetCause read) = false ∧ isResetCauseButton (resetCause read) = false

/-- If a watchdog or pin reset is among the causes, it is the only one. -/
def SingleCause (read : CauseRead) : Prop :=
  ∀ cause, read = .read cause → Contains cause resetWatchdog ∨ Contains cause resetPin →
    cause = resetWatchdog ∨ cause = resetPin

theorem announces_iff {σ : Type*} (publish : Publish σ) (read : CauseRead) (identity : Identity) (patience : Patience)
    (attempts : Nat) (s : App (σ × List Sent)) :
    (firstState publish (identity.afterReset read) { patience with announce := attempts + 1 } s).map Sent.payload =
      some "ON".toList ↔ isResetCauseWatchdog (resetCause read) = true := by
  have different : "OFF".toList ≠ "ON".toList := by decide
  rw [firstState_eq]
  unfold Identity.afterReset
  cases isResetCauseWatchdog (resetCause read) with
  | true => exact iff_of_true rfl rfl
  | false => exact iff_of_false (fun same => different (Option.some.inj same)) Bool.false_ne_true

theorem erases_iff (cause : CauseMask) :
    erasesPersistentInfo (.read cause) = true ↔ cause = resetWatchdog ∨ cause = resetPin := by
  rw [erasesPersistentInfo, resetCause_read, Bool.or_eq_true, isResetCauseWatchdog, isResetCauseButton,
    decide_eq_true_eq, decide_eq_true_eq]

theorem exists_read_iff (cause : CauseMask) (P : CauseMask → Prop) :
    (∃ other, CauseRead.read cause = .read other ∧ P other) ↔ P cause := by
  constructor
  · rintro ⟨_, ⟨⟩, held⟩
    exact held
  · exact fun held => ⟨cause, rfl, held⟩

/-- A cause that is the only one is the whole word. -/
theorem single_iff {cause : CauseMask} (single : SingleCause (.read cause)) :
    (cause = resetWatchdog ↔ Contains cause resetWatchdog) ∧ (cause = resetPin ↔ Contains cause resetPin) := by
  have watchdogIn : Contains resetWatchdog resetWatchdog ∧ ¬ Contains resetWatchdog resetPin := by decide
  have pinIn : Contains resetPin resetPin ∧ ¬ Contains resetPin resetWatchdog := by decide
  refine ⟨⟨?_, fun found => ?_⟩, ⟨?_, fun found => ?_⟩⟩
  · rintro rfl
    exact watchdogIn.1
  · refine (single cause rfl (Or.inl found)).resolve_right ?_
    rintro rfl
    exact pinIn.2 found
  · rintro rfl
    exact pinIn.1
  · refine (single cause rfl (Or.inr found)).resolve_left ?_
    rintro rfl
    exact watchdogIn.2 found

theorem decides_failed (errno : Errno) {first : Option Sent}
    (announced : first.map Sent.payload = some "ON".toList ↔
      isResetCauseWatchdog (resetCause (.failed errno)) = true) : DecidesByMask (.failed errno) first := by
  obtain ⟨watchdog, button⟩ := failed_no_cause errno
  have uncaused : ∀ P : CauseMask → Prop, ¬ ∃ cause, CauseRead.failed errno = .read cause ∧ P cause := by
    rintro P ⟨cause, impossible, _⟩
    cases impossible
  refine ⟨?_, ?_, ?_, ?_, fun _ _ => ⟨watchdog, button⟩⟩
  · exact iff_of_false (by simp [erasesPersistentInfo, watchdog, button]) (uncaused _)
  · rw [announced, watchdog]
    exact iff_of_false Bool.false_ne_true (uncaused _)
  · intro cause impossible
    cases impossible
  · intro cause impossible
    cases impossible

/-- Whole-word comparison decides as the bits do exactly if no other cause is set beside the two it
looks for. -/
theorem decides_iff_single {σ : Type*} (publish : Publish σ) (read : CauseRead) (identity : Identity)
    (patience : Patience) (attempts : Nat) (s : App (σ × List Sent)) :
    DecidesByMask read (firstState publish (identity.afterReset read) { patience with announce := attempts + 1 } s) ↔
      SingleCause read := by
  have announced := announces_iff publish read identity patience attempts s
  cases read with
  | failed errno =>
    refine iff_of_true (decides_failed errno announced) ?_
    intro cause impossible
    cases impossible
  | read cause =>
    rw [resetCause_read, isResetCauseWatchdog, decide_eq_true_eq] at announced
    constructor
    · rintro held _ ⟨⟩ found
      exact (erases_iff cause).mp (held.erases.mpr ⟨cause, rfl, found⟩)
    · intro single
      obtain ⟨watchdog, pin⟩ := single_iff single
      refine ⟨?_, ?_, ?_, ?_, ?_⟩
      · rw [erases_iff, exists_read_iff, watchdog, pin]
      · rw [announced, exists_read_iff, watchdog]
      · rintro _ ⟨⟩
        rw [isResetCauseWatchdog, decide_eq_true_eq, watchdog]
        exact (logged_iff cause (i := 4) (by decide)).symm
      · rintro _ ⟨⟩
        rw [isResetCauseButton, decide_eq_true_eq, pin]
        exact (logged_iff cause (i := 0) (by decide)).symm
      · intro errno impossible
        cases impossible

/-- A watchdog reset beside a software reset erases nothing. -/
theorem decides_by_mask_fails :
    let read : CauseRead := .read (resetWatchdog ||| resetSoftware)
    let identity : Identity := ⟨[0xe1, 0x5a, 0x27, 0x90, 0x3b, 0x6c, 0xd8, 0x04], rfl, fun _ => [], false⟩
    let s : App (Unit × List Sent) := App.sampling {} (fun _ => []) (fun _ => []) false ((), []) []
    ¬ DecidesByMask read (firstState (fun _ _ _ net => (0, net)) (identity.afterReset read) ⟨fun _ => 1, 1, 1⟩ s) := by
  intro read identity s held
  have erased : erasesPersistentInfo read = true := held.erases.mpr ⟨_, rfl, Or.inl (by decide)⟩
  exact absurd erased (by decide)

end AirQuality.Station
