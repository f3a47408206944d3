import AirQuality.Foundation.CyclicCode
import AirQuality.Hvac.Checksum

/-!
# What the checksum notices

`dev_calc_crc` is a shift register of eight bits, so a word with its checksum is a frame of 24 bits with
a fixed remainder. Two such frames never differ by a small error.
-/

namespace AirQuality.Hvac
open Foundation

/-- The generator of `dev_calc_crc`, for frames of two bytes and their checksum. -/
def crcCode : Generator 8 24 where
  taps := 0x31#8
  ends := by decide
  even := by decide
  order := by
    have all : ∀ k < 24, 0 < k → (shiftOnce 0x31#8)^[k] 1 ≠ 1 := by decide
    exact fun k positive below => all k below positive

theorem top_iff (crc : UInt8) : crc &&& 0x80 ≠ 0 ↔ crc.toBitVec.msb = true := by
  have mask : (crc &&& 0x80).toBitVec = if crc.toBitVec.getLsbD 7 then BitVec.twoPow 8 7 else 0#8 :=
    BitVec.and_twoPow crc.toBitVec 7
  rw [BitVec.msb_eq_getLsbD_last, ne_eq, ← UInt8.toBitVec_inj, mask]
  cases crc.toBitVec.getLsbD 7 <;> decide

theorem crcBit_toBitVec (crc : UInt8) : (crcBit crc).toBitVec = shiftOnce crcCode.taps crc.toBitVec := by
  unfold crcBit shiftOnce
  simp only [top_iff]
  split <;> rfl

theorem crcBits_toBitVec (bits : Nat) (crc : UInt8) :
    (crcBits bits crc).toBitVec = (shiftOnce crcCode.taps)^[bits] crc.toBitVec := by
  induction bits generalizing crc with
  | zero => rfl
  | succ bits ih => rw [crcBits, ih, crcBit_toBitVec, Function.iterate_succ_apply]

/-- The remainder of a byte. -/
noncomputable def residue (byte : UInt8) : AdjoinRoot (generator crcCode.taps) := remainder crcCode.taps byte.toBitVec

noncomputable abbrev x : AdjoinRoot (generator crcCode.taps) := unknown crcCode.taps

theorem residue_crcByte (crc byte : UInt8) : residue (crcByte crc byte) = x ^ 8 * (residue crc + residue byte) := by
  unfold residue crcByte
  rw [crcBits_toBitVec, remainder_iterate, UInt8.toBitVec_xor, remainder_xor]

/-- The checksum is the remainder of its word in front of the eight bits it takes, but for the initial 0xFF. -/
theorem residue_devCalcCrc (first second : UInt8) :
    residue (devCalcCrc first second) =
      x ^ 16 * residue 0xFF + (x ^ 16 * residue first + x ^ 8 * residue second) := by
  unfold devCalcCrc
  rw [residue_crcByte, residue_crcByte]
  ring

/-- Word `k` in a receive buffer, in the order of transmission, most significant bit first. -/
def frameBits (rx : Nat → UInt8) (k : Nat) : BitVec 24 :=
  (rx (3 * k)).toBitVec ++ (rx (3 * k + 1)).toBitVec ++ (rx (3 * k + 2)).toBitVec

/-- The bits in which word `k` differs between two buffers, counted from the last one transmitted. -/
def differing (rx rx' : Nat → UInt8) (k : Nat) : Finset Nat := ones (frameBits rx k ^^^ frameBits rx' k)

/-- All frames with a right checksum have the same remainder. -/
theorem remainder_frameBits {rx : Nat → UInt8} {k : Nat}
    (right : rx (3 * k + 2) = devCalcCrc (rx (3 * k)) (rx (3 * k + 1))) :
    remainder crcCode.taps (frameBits rx k) = x ^ 16 * residue 0xFF := by
  have parts : remainder crcCode.taps (frameBits rx k) =
      x ^ 8 * (x ^ 8 * residue (rx (3 * k)) + residue (rx (3 * k + 1))) + residue (rx (3 * k + 2)) := by
    unfold frameBits
    rw [remainder_append, remainder_append]
    rfl
  rw [parts, right, residue_devCalcCrc]
  calc x ^ 8 * (x ^ 8 * residue (rx (3 * k)) + residue (rx (3 * k + 1))) +
        (x ^ 16 * residue 0xFF + (x ^ 16 * residue (rx (3 * k)) + x ^ 8 * residue (rx (3 * k + 1))))
      = (x ^ 16 * residue (rx (3 * k)) + x ^ 8 * residue (rx (3 * k + 1))) +
        (x ^ 16 * residue (rx (3 * k)) + x ^ 8 * residue (rx (3 * k + 1))) + x ^ 16 * residue 0xFF := by ring
    _ = x ^ 16 * residue 0xFF := by rw [cancel, zero_add]

theorem checksum_spoiled {rx rx' : Nat → UInt8} {k : Nat}
    (right : rx (3 * k + 2) = devCalcCrc (rx (3 * k)) (rx (3 * k + 1))) (small : SmallError 8 (differing rx rx' k)) :
    rx' (3 * k + 2) ≠ devCalcCrc (rx' (3 * k)) (rx' (3 * k + 1)) := by
  intro right'
  have inside : ∀ i ∈ differing rx rx' k, i < 24 := fun i present => BitVec.lt_of_getLsbD (mem_ones.mp present)
  refine crcCode.detects inside small (AdjoinRoot.mk_eq_zero.mp ?_)
  show remainder crcCode.taps (frameBits rx k ^^^ frameBits rx' k) = 0
  rw [remainder_xor, remainder_frameBits right, remainder_frameBits right', cancel]

/-- In some word the buffer differs by a small error from what the sensor sent. -/
def Corrupted (sent : List (UInt8 × UInt8)) (rx : Nat → UInt8) : Prop :=
  ∃ k < sent.length, SmallError 8 (differing (answer sent).bytes rx k)

theorem checkWords_code (rx : Nat → UInt8) (words i j : Nat) :
    (checkWords rx words i j).code = hvacOk ∨ (checkWords rx words i j).code = hvacError := by
  induction words generalizing i j with
  | zero => exact Or.inl rfl
  | succ words ih =>
    by_cases right : rx (i + 2) = devCalcCrc (rx i) (rx (i + 1))
    · rw [checkWords_right right]
      exact ih (i + 3) (j + 2)
    · rw [checkWords_wrong right]
      exact Or.inr rfl

theorem answer_checksums (sent : List (UInt8 × UInt8)) : ChecksumsHold (answer sent).bytes sent.length := by
  rw [checksumsHold_iff, checkWords_ok_iff]
  exact ⟨sent, answer_frame sent⟩

theorem checkWords_corrupted {sent : List (UInt8 × UInt8)} {rx : Nat → UInt8} (corrupted : Corrupted sent rx) :
    (checkWords rx sent.length 0 0).code = hvacError := by
  obtain ⟨k, inside, small⟩ := corrupted
  refine (checkWords_code rx sent.length 0 0).resolve_left fun accepted => ?_
  exact checksum_spoiled (answer_checksums sent k inside) small ((checksumsHold_iff rx _).mpr accepted k inside)

/-- A read whose bytes differ by a small error from what the sensor sent is refused, and a measurement
hands the refusal on. -/
theorem small_errors_detected (ctx : Ctx) {sent : List (UInt8 × UInt8)} {write : Int} {read : Reply}
    (written : ¬ write < 0) (received : ¬ read.code < 0) (corrupted : Corrupted sent read.bytes) :
    (∀ reg, (hvacSps30I2cReadDataAsBytes ctx reg sent.length write read).1.code = hvacError) ∧
    (sent.length = 20 → ∀ mNCData data,
      (hvacSps30ReadMeasuredData ctx mNCData data write read).1 = hvacError ∧
        (hvacSps30ReadMeasuredData ctx mNCData data write read).2.2 = mNCData) := by
  have refused : ∀ reg, (hvacSps30I2cReadDataAsBytes ctx reg sent.length write read).1.code = hvacError := by
    intro reg
    rw [readDataAsBytes_received ctx reg sent.length written received]
    exact checkWords_corrupted corrupted
  refine ⟨refused, fun twenty mNCData data => ?_⟩
  have measured := refused sps30ReadMeasuredValue
  rw [twenty] at measured
  have failed : (hvacSps30I2cReadDataAsBytes ctx sps30ReadMeasuredValue 20 write read).1.code ≠ hvacOk := by
    rw [measured]
    decide
  obtain ⟨code, unchanged⟩ := readMeasuredData_failed ctx mNCData data write read failed
  exact ⟨code.trans measured, unchanged⟩

/-- Twenty words, of which the last arrives with one wrong bit. -/
theorem small_errors_detected_last :
    let ctx : Ctx := ⟨⟨scd40SlaveAddr, []⟩, scd40SlaveAddr⟩
    let sent : List (UInt8 × UInt8) := List.replicate 20 (0xBE, 0xEF)
    let read : Reply := ⟨0, Function.update (answer sent).bytes 58 0xEE⟩
    (∀ reg, (hvacSps30I2cReadDataAsBytes ctx reg sent.length 0 read).1.code = hvacError) ∧
      (sent.length = 20 → ∀ mNCData data,
        (hvacSps30ReadMeasuredData ctx mNCData data 0 read).1 = hvacError ∧
          (hvacSps30ReadMeasuredData ctx mNCData data 0 read).2.2 = mNCData) := by
  intro ctx sent read
  have single : differing (answer sent).bytes read.bytes 19 = {8} := by decide +kernel
  refine small_errors_detected ctx (lt_irrefl 0) (lt_irrefl 0) ⟨19, by decide, ?_⟩
  rw [single]
  exact ⟨Finset.singleton_nonempty 8, Or.inl (by decide)⟩

end AirQuality.Hvac
