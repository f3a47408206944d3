import AirQuality.Station.Boot
import AirQuality.TempHum24.Reads

/-!
# Whose readings these are

The temperature and the humidity are published under ids made from the serial number of the HDC302x, which
`uid_init` reads over the bus. A station that is identified has read the number its sensor has.
-/

namespace AirQuality.Station
open Foundation Ha Uid Hvac TempHum24

/-- What `uid_init` finds on the buses. -/
def PowerOn.probe (power : PowerOn) (boards : Boards) : Probe :=
  let (hdc302x, _, nist) := temphum24GetSerialNumber boards.temphum24 power.hdc302xWords power.hdc302xSerial
  let (scd4x, hvac, words) := hvacScd40GetSerialNumber boards.hvac power.scd4xWords power.scd4xSerial
  let (sps30, _, serialNumber) :=
    hvacSps30GetSerialNumber hvac (fun _ => 0) sps30MaxSerialLen power.sps30Write power.sps30Serial
  { deviceId := (power.deviceId, power.cpu)
    hdc302x := (hdc302x, nist 0, nist 1, nist 2)
    scd4x := (scd4x, words)
    sps30 := (sps30, textAt sps30MaxSerialLen serialNumber)
    hdc302xFailure := power.hdc302xFailure
    scd4xFailure := power.scd4xFailure }

/-- With its reads, `uid_init` does what it does on their results. -/
theorem uidInitBoards_eq (power : PowerOn) (boards : Boards) :
    (uidInitBoards power boards).1 = (uidInit (power.probe boards)).1 ∧
      (¬ (uidInitBoards power boards).1 < 0 → (uidInitBoards power boards).2.1 = (uidInit (power.probe boards)).2) := by
  unfold uidInitBoards uidInit getHdc302xSerialAsString getScd4xSerialAsString getSps30SerialAsString PowerOn.probe
  dsimp only
  split
  · exact ⟨rfl, fun _ => rfl⟩
  · split
    · exact ⟨rfl, fun _ => rfl⟩
    · split
      · exact ⟨rfl, fun _ => rfl⟩
      · split
        · rename_i failed
          exact ⟨rfl, fun passed => absurd failed passed⟩
        · exact ⟨rfl, fun _ => rfl⟩

theorem wordsAsString_passed {failure : Option FormatError} {read : Int} {words : Words} {snBuf : Text}
    (passed : ¬ (wordsAsString failure read words snBuf uidUniqueIdStringSize).1 < 0) :
    ¬ read < 0 ∧ (wordsAsString failure read words snBuf uidUniqueIdStringSize).2 =
      hexWord words.1 ++ hexWord words.2.1 ++ hexWord words.2.2 := by
  have negative : Errno.enomem.code < 0 := by decide
  have fits : (hexWord words.1 ++ hexWord words.2.1 ++ hexWord words.2.2).length < uidUniqueIdStringSize := by
    simp [hexWord, uidUniqueIdStringSize]
  have guard := snprintf_guard failure (show uidUniqueIdStringSize ≤ 2 ^ 31 by decide)
    (hexWord words.1 ++ hexWord words.2.1 ++ hexWord words.2.2)
  unfold wordsAsString at passed ⊢
  split at passed
  · rename_i failed
    exact absurd failed passed
  · rename_i succeeded
    rw [if_neg succeeded]
    dsimp only at passed ⊢
    rw [guard] at passed ⊢
    cases failure with
    | some error => exact absurd negative passed
    | none => exact ⟨succeeded, congrArg Prod.snd (snprintf_fits fits)⟩

theorem uidInitBoards_hdc302x {power : PowerOn} {boards : Boards} (codes : ∀ i, (power.hdc302xSerial i).code ≤ 0)
    (passed : ¬ (uidInitBoards power boards).1 < 0) :
    (∀ i < 3, Taken (power.hdc302xSerial i)) ∧
      (uidInitBoards power boards).2.1.hdc302xSerialString = hexWord (carried (power.hdc302xSerial 0)) ++
        hexWord (carried (power.hdc302xSerial 1)) ++ hexWord (carried (power.hdc302xSerial 2)) := by
  obtain ⟨accepts, delivers⟩ := readSerialNumber_exact power.hdc302xSerial codes 3 0 boards.temphum24 power.hdc302xWords
  unfold uidInitBoards at passed ⊢
  dsimp only at passed ⊢
  split at passed
  · rename_i failed
    exact absurd failed passed
  · rename_i known
    rw [if_neg known]
    split at passed
    · rename_i failed
      exact absurd failed passed
    · rename_i named
      rw [if_neg named]
      obtain ⟨read, text⟩ := wordsAsString_passed named
      have taken := accepts.mp read
      have words := delivers read
      have nist : ∀ i < 3, (temphum24GetSerialNumber boards.temphum24 power.hdc302xWords power.hdc302xSerial).2.2 i =
          carried (power.hdc302xSerial i) := fun i below => words i (Nat.zero_le i) (by omega)
      refine ⟨fun i below => taken i (Nat.zero_le i) (by omega), ?_⟩
      rw [← nist 0 (by decide), ← nist 1 (by decide), ← nist 2 (by decide)]
      split
      · exact text
      · split <;> exact text

/-! ### The ids -/

/-- The id of one of the HDC302x's two sensors, for the words of its serial number. -/
def hdc302xId (sensor : SensorId) (nist : Nat → UInt16) : Text :=
  fullId (partNumber sensor) (sensorName sensor) (hexWord (nist 0) ++ hexWord (nist 1) ++ hexWord (nist 2))

/-- A sensor of the HDC302x. -/
def OfHdc302x (sensor : SensorId) : Prop := sensor = .temperature ∨ sensor = .humidity

theorem hdc302xId_short {sensor : SensorId} (ofHdc302x : OfHdc302x sensor) (nist : Nat → UInt16) :
    (hdc302xId sensor nist).length ≤ 31 := by
  rcases ofHdc302x with rfl | rfl <;> simp [hdc302xId, fullId, partNumber_chars, sensorName_chars, hexWord]

/-- The strings that the ids are made from. -/
def PowerOn.strings (power : PowerOn) (boards : Boards) : Strings :=
  (uidInitBoards power (initHvacClick power (initTemphum24Click boards).2).2).2.1

/-- A station is identified once `uid_init` has passed, and has its ids as far as they fit. -/
theorem identify_ids {power : PowerOn} {boards identified : Boards} {identity : Identity}
    (known : identify power boards = (some identity, identified)) :
    ¬ (uidInitBoards power (initHvacClick power (initTemphum24Click boards).2).2).1 < 0 ∧ ∀ sensor, identity.ids sensor =
      (fullId (partNumber sensor) (sensorName sensor) (serialNumber (power.strings boards) sensor)).take 31 := by
  unfold identify at known
  dsimp only at known
  split at known
  · cases known
  · split at known
    · cases known
    · split at known
      · cases known
      · rename_i passed
        split at known
        · cases known
        · rename_i filled
          cases known
          have clean : ∀ sensor ∈ SensorId.all, power.failure sensor = none := by
            intro sensor present
            by_contra failed
            exact filled (fillUniqueIds_failed _ _ ⟨sensor, present, failed⟩)
          obtain ⟨_, ids⟩ := fillUniqueIds_ok (power.strings boards) SensorId.all (fun _ => []) clean
          exact ⟨passed, fun sensor => (ids sensor).trans (if_pos (mem_all sensor))⟩

theorem identify_hdc302x {power : PowerOn} {boards identified : Boards} {identity : Identity}
    (codes : ∀ i, (power.hdc302xSerial i).code ≤ 0) (known : identify power boards = (some identity, identified))
    {sensor : SensorId} (ofHdc302x : OfHdc302x sensor) :
    (∀ i < 3, Taken (power.hdc302xSerial i)) ∧
      identity.ids sensor = hdc302xId sensor fun i => carried (power.hdc302xSerial i) := by
  obtain ⟨passed, ids⟩ := identify_ids known
  obtain ⟨taken, string⟩ := uidInitBoards_hdc302x codes passed
  have serial : ∀ strings : Strings, serialNumber strings sensor = strings.hdc302xSerialString := by
    rcases ofHdc302x with rfl | rfl <;> exact fun _ => rfl
  have short := hdc302xId_short ofHdc302x fun i => carried (power.hdc302xSerial i)
  refine ⟨taken, (ids sensor).trans ?_⟩
  unfold hdc302xId at short ⊢
  rw [serial, PowerOn.strings, string]
  exact List.take_of_length_le short

/-- All strings but the SPS30's have the length of their serial number. -/
theorem uidInitBoards_lengths {power : PowerOn} {boards : Boards} (passed : ¬ (uidInitBoards power boards).1 < 0) :
    let strings := (uidInitBoards power boards).2.1
    strings.deviceIdHexString.length = 16 ∧ strings.hdc302xSerialString.length = 12 ∧
      strings.scd4xSerialString.length = 12 := by
  have cpu := length_bin2hex power.cpu
  rw [power.cpu_length] at cpu
  have length : ∀ words : Words, (hexWord words.1 ++ hexWord words.2.1 ++ hexWord words.2.2).length = 12 := fun _ => rfl
  unfold uidInitBoards at passed ⊢
  dsimp only at passed ⊢
  split at passed
  · rename_i failed
    exact absurd failed passed
  · rename_i known
    rw [if_neg known]
    split at passed
    · rename_i failed
      exact absurd failed passed
    · rename_i hdc302x
      rw [if_neg hdc302x]
      split at passed
      · rename_i failed
        exact absurd failed passed
      · rename_i scd4x
        rw [if_neg scd4x]
        have device : (getDeviceIdAsString power.deviceId power.cpu []).2.length = 16 := by
          unfold getDeviceIdAsString at known ⊢
          split at known
          · rename_i failed
            exact absurd failed known
          · rename_i succeeded
            rw [if_neg succeeded]
            exact cpu
        have hdc302x' := (congrArg List.length (wordsAsString_passed hdc302x).2).trans (length _)
        have scd4x' := (congrArg List.length (wordsAsString_passed scd4x).2).trans (length _)
        split
        · exact ⟨device, hdc302x', scd4x'⟩
        · exact ⟨device, hdc302x', scd4x'⟩

/-- With a serial number of the SPS30 of 20 characters at most, all ids are whole. -/
theorem identify_whole {power : PowerOn} {boards identified : Boards} {identity : Identity}
    (known : identify power boards = (some identity, identified))
    (short : (power.strings boards).sps30SerialString.length ≤ 20) (sensor : SensorId) :
    identity.ids sensor =
        fullId (partNumber sensor) (sensorName sensor) (serialNumber (power.strings boards) sensor) ∧
      (identity.ids sensor).length ≤ 31 := by
  obtain ⟨passed, ids⟩ := identify_ids known
  obtain ⟨deviceId, hdc302x, scd4x⟩ := uidInitBoards_lengths passed
  change (power.strings boards).deviceIdHexString.length = 16 at deviceId
  change (power.strings boards).hdc302xSerialString.length = 12 at hdc302x
  change (power.strings boards).scd4xSerialString.length = 12 at scd4x
  have whole : (fullId (partNumber sensor) (sensorName sensor) (serialNumber (power.strings boards) sensor)).length ≤ 31 := by
    simp only [fullId, List.length_append, List.length_singleton, partNumber_chars, sensorName_chars]
    cases sensor <;> simp [serialNumber, deviceId, hdc302x, scd4x] <;> omega
  rw [ids sensor, List.take_of_length_le whole]
  exact ⟨rfl, whole⟩

theorem word_inj {v w : UInt8 × UInt8} (same : word v.1 v.2 = word w.1 w.2) : v = w := by
  have numbers := congrArg UInt16.toNat same
  rw [word_toNat, word_toNat] at numbers
  have first := v.2.toNat_lt
  have second := w.2.toNat_lt
  refine Prod.ext (UInt8.toNat_inj.mp ?_) (UInt8.toNat_inj.mp ?_)
  · omega
  · omega

theorem hdc302xId_inj {sensor other : SensorId} {nist nist' : Nat → UInt16}
    (same : hdc302xId sensor nist = hdc302xId other nist') : sensor = other ∧ ∀ i < 3, nist i = nist' i := by
  obtain ⟨equal, strings⟩ := fullId_inj same
  have words := @hexWords_inj (nist 0, nist 1, nist 2) (nist' 0, nist' 1, nist' 2) strings
  simp only [Prod.mk.injEq] at words
  obtain ⟨first, second, third⟩ := words
  refine ⟨equal, fun i below => ?_⟩
  obtain rfl | rfl | rfl : i = 0 ∨ i = 1 ∨ i = 2 := by omega
  · exact first
  · exact second
  · exact third

/-- A station at power-on with the serial number of its HDC302x, which the bus may carry badly. -/
structure Powering where
  power : PowerOn
  nist : Nat → UInt8 × UInt8
  noisy : ∀ i, Noisy [nist i] (power.hdc302xSerial i)

theorem Powering.carried_eq (powering : Powering) {i : Nat} (taken : Taken (powering.power.hdc302xSerial i)) :
    carried (powering.power.hdc302xSerial i) = word (powering.nist i).1 (powering.nist i).2 := by
  obtain ⟨received, checks⟩ := taken
  have intact := ((powering.noisy i).checks_iff received).mp checks
  have first := intact 0 (Nat.succ_pos 2)
  have second := intact 1 (Nat.succ_lt_succ (Nat.succ_pos 1))
  unfold carried
  rw [first, second]
  rfl

theorem Powering.ids (powering : Powering) {boards identified : Boards} {identity : Identity}
    (known : identify powering.power boards = (some identity, identified)) {sensor : SensorId}
    (ofHdc302x : OfHdc302x sensor) :
    identity.ids sensor = hdc302xId sensor fun i => word (powering.nist i).1 (powering.nist i).2 := by
  obtain ⟨taken, id⟩ := identify_hdc302x (fun i => (powering.noisy i).code) known ofHdc302x
  rw [id]
  unfold hdc302xId
  dsimp only
  rw [powering.carried_eq (taken 0 (by decide)), powering.carried_eq (taken 1 (by decide)),
    powering.carried_eq (taken 2 (by decide))]

/-- Where the bus spoils the serial number only by small errors, a station that is identified has ids for the temperature
and the humidity that name its own HDC302x: two stations share an id of these exactly if it is of the same quantity and their
sensors have the same serial number. -/
theorem hdc302x_identified (powering other : Powering) {boards boards' identified identified' : Boards}
    {identity identity' : Identity} (known : identify powering.power boards = (some identity, identified))
    (known' : identify other.power boards' = (some identity', identified')) {sensor sensor' : SensorId}
    (ofHdc302x : OfHdc302x sensor) (ofHdc302x' : OfHdc302x sensor') :
    identity.ids sensor = identity'.ids sensor' ↔ sensor = sensor' ∧ ∀ i < 3, powering.nist i = other.nist i := by
  rw [powering.ids known ofHdc302x, other.ids known' ofHdc302x']
  constructor
  · intro same
    obtain ⟨equal, words⟩ := hdc302xId_inj same
    exact ⟨equal, fun i below => word_inj (words i below)⟩
  · rintro ⟨rfl, words⟩
    unfold hdc302xId
    dsimp only
    rw [words 0 (by decide), words 1 (by decide), words 2 (by decide)]

def deskPowering (last : UInt8 × UInt8) : Powering where
  power := deskPower fun i => if i = 2 then last else (0xa1, 0x5c)
  nist i := if i = 2 then last else (0xa1, 0x5c)
  noisy _ := ⟨Int.le_refl 0, fun _ => Or.inl fun _ _ => rfl⟩

/-- Two sensors whose serial numbers differ in the last byte. -/
theorem hdc302x_identified_desks :
    ((identify (deskPowering (0x20, 0x01)).power deskBoards).1.map fun identity => identity.ids .humidity) ≠
      (identify (deskPowering (0x20, 0x02)).power deskBoards).1.map fun identity => identity.ids .humidity := by
  have first : (identify (deskPowering (0x20, 0x01)).power deskBoards).1.isSome := by decide +kernel
  have second : (identify (deskPowering (0x20, 0x02)).power deskBoards).1.isSome := by decide +kernel
  intro same
  obtain ⟨⟨_ | identity, identified⟩, known⟩ : ∃ result, identify (deskPowering (0x20, 0x01)).power deskBoards = result :=
    ⟨_, rfl⟩
  · rw [known] at first
    cases first
  obtain ⟨⟨_ | identity', identified'⟩, known'⟩ : ∃ result, identify (deskPowering (0x20, 0x02)).power deskBoards = result :=
    ⟨_, rfl⟩
  · rw [known'] at second
    cases second
  rw [known, known'] at same
  have shared := (hdc302x_identified (deskPowering (0x20, 0x01)) (deskPowering (0x20, 0x02)) known known' (Or.inr rfl)
    (Or.inr rfl)).mp (Option.some.inj same)
  have last := shared.2 2 (Nat.lt_succ_self 2)
  revert last
  decide

end AirQuality.Station
