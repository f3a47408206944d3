import Mathlib.Logic.Function.Basic
import AirQuality.Foundation.Text

/-!
# Unique ids

`uid_init` reads the four serial numbers as strings, and `uid_fill_unique_ids` builds the unique id
of each sensor from a part number, one of these strings and a sensor name. An id always determines
its sensor and its serial; whether it fits the buffer depends on the SPS30 serial alone.
-/

namespace AirQuality.Uid
open Foundation

def uidUniqueIdStringSize : Nat := 32

/-- The sensors of `main`, in the order `uid_fill_unique_ids` handles them. -/
inductive SensorId where
  | watchdogTriggered | temperature | humidity | co2 | pm1 | pm25 | pm10
  deriving DecidableEq, Repr

def SensorId.all : List SensorId := [.watchdogTriggered, .temperature, .humidity, .co2, .pm1, .pm25, .pm10]

abbrev Words := UInt16 × UInt16 × UInt16

structure Strings where
  deviceIdHexString : Text := []
  hdc302xSerialString : Text := []
  scd4xSerialString : Text := []
  sps30SerialString : Text := []
  deriving DecidableEq, Repr

/-- What `uid_init` finds: the result of each read with the value it delivers, and the formatting
errors of the two calls of `snprintf`. -/
structure Probe where
  deviceId : Int × List UInt8
  hdc302x : Int × Words
  scd4x : Int × Words
  sps30 : Int × Text
  hdc302xFailure : Option FormatError := none
  scd4xFailure : Option FormatError := none

def getDeviceIdAsString (length : Int) (devId : List UInt8) (idString : Text) : Int × Text :=
  if length < 0 then (length, idString) else (0, bin2hex devId)

/-- `get_hdc302x_serial_as_string` and `get_scd4x_serial_as_string`, which differ in the driver
they ask. -/
def wordsAsString (failure : Option FormatError) (read : Int) (words : Words) (snBuf : Text)
    (snBufSize : Nat) : Int × Text :=
  if read < 0 then (read, snBuf) else
  let (ret, snBuf) :=
    snprintf failure snBufSize (hexWord words.1 ++ hexWord words.2.1 ++ hexWord words.2.2)
  if ret < 0 && geSize ret snBufSize then (Errno.enomem.code, snBuf) else (0, snBuf)

def getHdc302xSerialAsString (probe : Probe) (snBuf : Text) : Int × Text :=
  wordsAsString probe.hdc302xFailure probe.hdc302x.1 probe.hdc302x.2 snBuf uidUniqueIdStringSize

def getScd4xSerialAsString (probe : Probe) (snBuf : Text) : Int × Text :=
  wordsAsString probe.scd4xFailure probe.scd4x.1 probe.scd4x.2 snBuf uidUniqueIdStringSize

def getSps30SerialAsString (probe : Probe) (snBuf : Text) : Int × Text :=
  if probe.sps30.1 < 0 then (probe.sps30.1, snBuf) else (0, probe.sps30.2)

def uidInit (probe : Probe) : Int × Strings :=
  let strings : Strings := {}
  let (ret, text) := getDeviceIdAsString probe.deviceId.1 probe.deviceId.2 strings.deviceIdHexString
  let strings := { strings with deviceIdHexString := text }
  if ret < 0 then (ret, strings) else
  let (ret, text) := getHdc302xSerialAsString probe strings.hdc302xSerialString
  let strings := { strings with hdc302xSerialString := text }
  if ret < 0 then (ret, strings) else
  let (ret, text) := getScd4xSerialAsString probe strings.scd4xSerialString
  let strings := { strings with scd4xSerialString := text }
  if ret < 0 then (ret, strings) else
  let (ret, text) := getSps30SerialAsString probe strings.sps30SerialString
  let strings := { strings with sps30SerialString := text }
  if ret < 0 then (ret, strings) else (0, strings)

/-! ### Unique ids -/

/-- `part_serial_name`. -/
def fullId (partNumber sensorName serialNumber : Text) : Text :=
  partNumber ++ ['_'] ++ serialNumber ++ ['_'] ++ sensorName

def generateUniqueId (failure : Option FormatError) (uidBufSize : Nat)
    (partNumber sensorName serialNumber : Text) : Int × Text :=
  let (ret, uidBuf) := snprintf failure uidBufSize (fullId partNumber sensorName serialNumber)
  if ret < 0 && geSize ret uidBufSize then (Errno.enomem.code, uidBuf) else (0, uidBuf)

def partNumber : SensorId → Text
  | .watchdogTriggered => "nrf52840".toList
  | .temperature | .humidity => "hdc302x".toList
  | .co2 => "scd4x".toList
  | .pm1 | .pm25 | .pm10 => "sps30".toList

def sensorName : SensorId → Text
  | .watchdogTriggered => "wdt".toList
  | .temperature => "temp".toList
  | .humidity => "hum".toList
  | .co2 => "co2".toList
  | .pm1 => "pm1".toList
  | .pm25 => "pm25".toList
  | .pm10 => "pm10".toList

theorem partNumber_chars (sensor : SensorId) :
    partNumber sensor =
      match sensor with
      | .watchdogTriggered => ['n', 'r', 'f', '5', '2', '8', '4', '0']
      | .temperature | .humidity => ['h', 'd', 'c', '3', '0', '2', 'x']
      | .co2 => ['s', 'c', 'd', '4', 'x']
      | .pm1 | .pm25 | .pm10 => ['s', 'p', 's', '3', '0'] := by
  cases sensor <;> rfl

theorem sensorName_chars (sensor : SensorId) :
    sensorName sensor =
      match sensor with
      | .watchdogTriggered => ['w', 'd', 't']
      | .temperature => ['t', 'e', 'm', 'p']
      | .humidity => ['h', 'u', 'm']
      | .co2 => ['c', 'o', '2']
      | .pm1 => ['p', 'm', '1']
      | .pm25 => ['p', 'm', '2', '5']
      | .pm10 => ['p', 'm', '1', '0'] := by
  cases sensor <;> rfl

def serialNumber (strings : Strings) : SensorId → Text
  | .watchdogTriggered => strings.deviceIdHexString
  | .temperature | .humidity => strings.hdc302xSerialString
  | .co2 => strings.scd4xSerialString
  | .pm1 | .pm25 | .pm10 => strings.sps30SerialString

/-- The calls of `generate_unique_id` for the sensors still to do, up to the first error. -/
def fillUniqueIds (failure : SensorId → Option FormatError) (strings : Strings) :
    List SensorId → (SensorId → Text) → Int × (SensorId → Text)
  | [], ids => (0, ids)
  | sensor :: rest, ids =>
    let (ret, uidBuf) := generateUniqueId (failure sensor) uidUniqueIdStringSize (partNumber sensor)
      (sensorName sensor) (serialNumber strings sensor)
    let ids := Function.update ids sensor uidBuf
    if ret < 0 then (ret, ids) else fillUniqueIds failure strings rest ids

def uidFillUniqueIds (failure : SensorId → Option FormatError) (strings : Strings)
    (ids : SensorId → Text) : Int × (SensorId → Text) :=
  fillUniqueIds failure strings SensorId.all ids

/-- The serial numbers of a station, within the sizes its drivers deliver. -/
structure Serials where
  cpu : List UInt8
  cpu_length : cpu.length = 8
  hdc302x : Words
  scd4x : Words
  sps30 : Text
  sps30_fits : sps30.length ≤ 31
  sps30_terminated : Char.ofNat 0 ∉ sps30

def Serials.probe (serials : Serials) : Probe :=
  { deviceId := (8, serials.cpu), hdc302x := (0, serials.hdc302x), scd4x := (0, serials.scd4x)
    sps30 := (0, serials.sps30) }

def Serials.strings (serials : Serials) : Strings := (uidInit serials.probe).2

/-- A station with the outcome of every formatting call, and the ids before they are filled. -/
structure Station where
  serials : Serials
  failure : SensorId → Option FormatError
  blank : SensorId → Text

def Station.filled (station : Station) : Int × (SensorId → Text) :=
  uidFillUniqueIds station.failure station.serials.strings station.blank

def Station.fullId (station : Station) (sensor : SensorId) : Text :=
  Uid.fullId (partNumber sensor) (sensorName sensor) (serialNumber station.serials.strings sensor)

/-- The ids of one station are complete and pairwise distinct. -/
def Station.Sound (station : Station) : Prop :=
  station.filled.1 = 0 →
    (∀ a b, a ≠ b → station.filled.2 a ≠ station.filled.2 b) ∧
      ∀ a, station.filled.2 a = station.fullId a

def SerialsDiffer (s t : Serials) : Prop :=
  s.cpu ≠ t.cpu ∧ s.hdc302x ≠ t.hdc302x ∧ s.scd4x ≠ t.scd4x ∧ s.sps30 ≠ t.sps30

/-- No id of one station is an id of the other. -/
def Apart (s t : Station) : Prop :=
  s.filled.1 = 0 → t.filled.1 = 0 → SerialsDiffer s.serials t.serials →
    ∀ a b, s.filled.2 a ≠ t.filled.2 b

/-- Every id fits its buffer, unless a formatting call already failed. -/
def Station.Fits (station : Station) : Prop :=
  station.serials.sps30.length ≤ 20 ∨ ∃ sensor, station.failure sensor ≠ none

theorem hexWords_inj {v w : Words}
    (same : hexWord v.1 ++ hexWord v.2.1 ++ hexWord v.2.2 = hexWord w.1 ++ hexWord w.2.1 ++ hexWord w.2.2) :
    v = w := by
  obtain ⟨init, third⟩ := List.append_inj' same (by simp [hexWord])
  obtain ⟨first, second⟩ := List.append_inj' init (by simp [hexWord])
  exact Prod.ext (hexWord_inj first) (Prod.ext (hexWord_inj second) (hexWord_inj third))

theorem wordsAsString_ok (words : Words) (snBuf : Text) :
    wordsAsString none 0 words snBuf uidUniqueIdStringSize =
      (0, hexWord words.1 ++ hexWord words.2.1 ++ hexWord words.2.2) := by
  have fits : (hexWord words.1 ++ hexWord words.2.1 ++ hexWord words.2.2).length < uidUniqueIdStringSize := by
    simp [hexWord, uidUniqueIdStringSize]
  have positive : ¬ ((hexWord words.1 ++ hexWord words.2.1 ++ hexWord words.2.2).length : Int) < 0 := by
    omega
  simp only [wordsAsString, snprintf_fits fits, decide_eq_false positive, Bool.false_and,
    Bool.false_eq_true, Int.lt_irrefl, if_false]

theorem strings_eq (s : Serials) :
    s.strings =
      { deviceIdHexString := bin2hex s.cpu
        hdc302xSerialString := hexWord s.hdc302x.1 ++ hexWord s.hdc302x.2.1 ++ hexWord s.hdc302x.2.2
        scd4xSerialString := hexWord s.scd4x.1 ++ hexWord s.scd4x.2.1 ++ hexWord s.scd4x.2.2
        sps30SerialString := s.sps30 } := by
  simp [Serials.strings, uidInit, Serials.probe, getDeviceIdAsString, getHdc302xSerialAsString,
    getScd4xSerialAsString, getSps30SerialAsString, wordsAsString_ok]

theorem serialNumber_differ {s t : Serials} (differ : SerialsDiffer s t) (sensor : SensorId) :
    serialNumber s.strings sensor ≠ serialNumber t.strings sensor := by
  obtain ⟨cpu, hdc302x, scd4x, sps30⟩ := differ
  rw [strings_eq, strings_eq]
  cases sensor with
  | watchdogTriggered =>
    exact fun same => cpu (bin2hex_inj (s.cpu_length.trans t.cpu_length.symm) same)
  | temperature | humidity => exact fun same => hdc302x (hexWords_inj same)
  | co2 => exact fun same => scd4x (hexWords_inj same)
  | pm1 | pm25 | pm10 => exact sps30

theorem length_fullId (station : Station) (sensor : SensorId) :
    (station.fullId sensor).length ≤ max 29 (station.serials.sps30.length + 11) := by
  have cpu := length_bin2hex station.serials.cpu
  rw [station.serials.cpu_length] at cpu
  rw [Station.fullId, strings_eq]
  simp only [fullId, List.length_append, List.length_singleton, partNumber_chars, sensorName_chars]
  cases sensor <;> simp [serialNumber, hexWord, cpu] <;> omega

theorem last_part_inj {separator : Char} {u v m n : Text} (left : separator ∉ m) (right : separator ∉ n)
    (same : u ++ separator :: m = v ++ separator :: n) : u = v ∧ m = n := by
  rcases List.append_eq_append_iff.mp same with ⟨between, whole, rest⟩ | ⟨between, whole, rest⟩
  · cases between with
    | nil => exact ⟨by rw [whole, List.append_nil], (List.cons.inj rest).2⟩
    | cons first between =>
      rw [(List.cons.inj rest).2] at left
      exact absurd (List.mem_append_right between List.mem_cons_self) left
  · cases between with
    | nil => exact ⟨by rw [whole, List.append_nil], (List.cons.inj rest).2.symm⟩
    | cons first between =>
      rw [(List.cons.inj rest).2] at right
      exact absurd (List.mem_append_right between List.mem_cons_self) right

theorem sensorName_plain (sensor : SensorId) : '_' ∉ sensorName sensor := by
  rw [sensorName_chars]
  cases sensor <;> decide

theorem sensorName_inj {a b : SensorId} (same : sensorName a = sensorName b) : a = b := by
  rw [sensorName_chars, sensorName_chars] at same
  cases a <;> cases b <;> first | rfl | simp at same

theorem fullId_inj {a b : SensorId} {v w : Text}
    (same : fullId (partNumber a) (sensorName a) v = fullId (partNumber b) (sensorName b) w) :
    a = b ∧ v = w := by
  unfold fullId at same
  rw [List.append_assoc _ _ (sensorName a), List.append_assoc _ _ (sensorName b)] at same
  obtain ⟨front, names⟩ := last_part_inj (sensorName_plain a) (sensorName_plain b) same
  obtain rfl := sensorName_inj names
  exact ⟨rfl, List.append_cancel_left front⟩

/-! ### Filling -/

theorem generateUniqueId_ok (size : Nat) (partNumber sensorName serialNumber : Text) :
    generateUniqueId none size partNumber sensorName serialNumber =
      (0, (fullId partNumber sensorName serialNumber).take (size - 1)) := by
  have positive : ¬ ((fullId partNumber sensorName serialNumber).length : Int) < 0 := by omega
  simp [generateUniqueId, snprintf, positive]

/-- The conversion to `size_t` makes the guard catch an error, though no truncation. -/
theorem generateUniqueId_failed (error : FormatError) (partNumber sensorName serialNumber : Text) :
    (generateUniqueId (some error) uidUniqueIdStringSize partNumber sensorName serialNumber).1 < 0 := by
  have caught : geSize error.errno.code uidUniqueIdStringSize = true := geSize_errno _ (by decide)
  have negative := error.errno.negative
  simp [generateUniqueId, snprintf, caught, negative, Errno.enomem]

theorem fillUniqueIds_ok {failure : SensorId → Option FormatError} (strings : Strings)
    (sensors : List SensorId) (ids : SensorId → Text) (clean : ∀ sensor ∈ sensors, failure sensor = none) :
    (fillUniqueIds failure strings sensors ids).1 = 0 ∧
      ∀ sensor, (fillUniqueIds failure strings sensors ids).2 sensor =
        if sensor ∈ sensors then
          (fullId (partNumber sensor) (sensorName sensor) (serialNumber strings sensor)).take 31
        else ids sensor := by
  induction sensors generalizing ids with
  | nil => simp [fillUniqueIds]
  | cons head rest ih =>
    have first : failure head = none := clean head List.mem_cons_self
    have later := ih (Function.update ids head
      ((fullId (partNumber head) (sensorName head) (serialNumber strings head)).take 31))
      fun sensor present => clean sensor (List.mem_cons_of_mem _ present)
    simp only [fillUniqueIds, first, generateUniqueId_ok, uidUniqueIdStringSize, Nat.add_one_sub_one,
      Int.lt_irrefl, if_false]
    refine ⟨later.1, fun sensor => ?_⟩
    rw [later.2 sensor]
    by_cases here : sensor = head
    · subst here
      simp
    · simp [here]

theorem fillUniqueIds_failed {failure : SensorId → Option FormatError} (strings : Strings)
    {sensors : List SensorId} (ids : SensorId → Text)
    (failed : ∃ sensor ∈ sensors, failure sensor ≠ none) :
    (fillUniqueIds failure strings sensors ids).1 < 0 := by
  induction sensors generalizing ids with
  | nil => simp at failed
  | cons head rest ih =>
    simp only [fillUniqueIds]
    split
    · assumption
    · rename_i passed
      obtain ⟨sensor, present, error⟩ := failed
      rcases List.mem_cons.mp present with rfl | later
      · obtain ⟨e, failed⟩ := Option.ne_none_iff_exists'.mp error
        rw [failed] at passed
        exact absurd (generateUniqueId_failed e _ _ _) passed
      · exact ih _ ⟨sensor, later, error⟩

theorem mem_all (sensor : SensorId) : sensor ∈ SensorId.all := by
  cases sensor <;> decide

theorem filled_clean {station : Station} (clean : ∀ sensor, station.failure sensor = none) :
    station.filled.1 = 0 ∧ ∀ sensor, station.filled.2 sensor = (station.fullId sensor).take 31 := by
  have filled := fillUniqueIds_ok station.serials.strings SensorId.all station.blank
    fun sensor _ => clean sensor
  refine ⟨filled.1, fun sensor => ?_⟩
  exact (filled.2 sensor).trans (if_pos (mem_all sensor))

theorem filled_zero {station : Station} (zero : station.filled.1 = 0) (sensor : SensorId) :
    station.failure sensor = none := by
  by_contra error
  have negative : station.filled.1 < 0 :=
    fillUniqueIds_failed _ _ ⟨sensor, mem_all sensor, error⟩
  omega

theorem filled_full {station : Station} (fits : station.Fits) (zero : station.filled.1 = 0)
    (sensor : SensorId) : station.filled.2 sensor = station.fullId sensor := by
  rcases fits with short | ⟨failing, error⟩
  · have length := length_fullId station sensor
    rw [(filled_clean (filled_zero zero)).2 sensor]
    exact List.take_of_length_le (by omega)
  · exact absurd (filled_zero zero failing) error

theorem fits_of_full {station : Station}
    (full : station.filled.1 = 0 → station.filled.2 .pm25 = station.fullId .pm25) : station.Fits := by
  by_contra long
  simp only [Station.Fits, not_or, not_exists, not_not] at long
  obtain ⟨zero, stored⟩ := filled_clean long.2
  have length := congrArg List.length ((stored .pm25).symm.trans (full zero))
  rw [Station.fullId, strings_eq, fullId, partNumber_chars, sensorName_chars] at length
  simp [serialNumber] at length
  omega

theorem sound_of_fits {station : Station} (fits : station.Fits) : station.Sound := by
  intro zero
  have full := filled_full fits zero
  refine ⟨fun a b different same => ?_, full⟩
  rw [full a, full b] at same
  exact different (fullId_inj same).1

theorem apart_of_fits {s t : Station} (hs : s.Fits) (ht : t.Fits) : Apart s t := by
  intro szero tzero differ a b same
  rw [filled_full hs szero a, filled_full ht tzero b] at same
  obtain ⟨rfl, serial⟩ := fullId_inj same
  exact serialNumber_differ differ a serial

/-- Two stations have complete ids, distinct in each and apart from each other's, exactly when both
SPS30 serials leave room for the part number and the sensor name. -/
theorem unique_ids_iff (s t : Station) :
    (s.Sound ∧ t.Sound ∧ Apart s t) ↔ s.Fits ∧ t.Fits := by
  constructor
  · intro sound
    obtain ⟨hs, ht, _⟩ := sound
    exact ⟨fits_of_full fun zero => (hs zero).2 .pm25, fits_of_full fun zero => (ht zero).2 .pm25⟩
  · intro fit
    obtain ⟨hs, ht⟩ := fit
    exact ⟨sound_of_fits hs, sound_of_fits ht, apart_of_fits hs ht⟩

/-- With 25 characters of SPS30 serial the three particle sensors share one id. -/
def longSerials : Serials where
  cpu := [0x13, 0x3c, 0x2c, 0x38, 0x2d, 0x91, 0x11, 0xf1]
  cpu_length := rfl
  hdc302x := (0x5f36, 0x817c, 0x0b16)
  scd4x := (0xe05e, 0x2f07, 0x3b4d)
  sps30 := "06509B9E802EE1EE06509B9E8".toList
  sps30_fits := by decide
  sps30_terminated := by decide

theorem unique_ids_fail :
    let station : Station := ⟨longSerials, fun _ => none, fun _ => []⟩
    station.filled.1 = 0 ∧ station.filled.2 .pm1 = station.filled.2 .pm25 ∧ ¬ station.Sound := by
  intro station
  have zero : station.filled.1 = 0 := rfl
  have shared : station.filled.2 .pm1 = station.filled.2 .pm25 := by decide
  exact ⟨zero, shared, fun sound => (sound zero).1 .pm1 .pm25 (by decide) shared⟩

end AirQuality.Uid
