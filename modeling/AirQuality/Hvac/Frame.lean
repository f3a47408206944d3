import Mathlib.Tactic.Ring
import AirQuality.Foundation.Framing
import AirQuality.Hvac.Driver

/-!
# SPS30 frames

The sensor sends words of two bytes with their checksum. The loop that checks them walks the receive
buffer in steps of three and the output in steps of two, and stops at the first wrong checksum.
-/

namespace AirQuality.Hvac
open Foundation

/-- The bytes of `words` words in a receive buffer, from index `i` on. -/
def frame (rx : Nat → UInt8) (words i : Nat) : List UInt8 := (List.range' i (3 * words)).map rx

theorem frame_succ (rx : Nat → UInt8) (words i : Nat) :
    frame rx (words + 1) i = rx i :: rx (i + 1) :: rx (i + 2) :: frame rx words (i + 3) := by
  unfold frame
  rw [Nat.mul_succ, List.range'_succ, List.range'_succ, List.range'_succ]
  rfl

/-- The `2 * words` bytes from index `j` on of an output. -/
def output (data : Nat → UInt8) (words j : Nat) : List UInt8 := (List.range' j (2 * words)).map data

theorem output_succ (data : Nat → UInt8) (words j : Nat) :
    output data (words + 1) j = data j :: data (j + 1) :: output data words (j + 2) := by
  unfold output
  rw [Nat.mul_succ, List.range'_succ, List.range'_succ]
  rfl

/-- A byte or'ed below `high` is the next digit to base 256. -/
theorem digit_or (high width : Nat) (low : UInt8) :
    high * 2 ^ (width + 8) ||| low.toNat * 2 ^ width = (high * 256 + low.toNat) * 2 ^ width := by
  have small : low.toNat < 2 ^ 8 := low.toNat_lt
  have shifted : low.toNat * 2 ^ width < 2 ^ (width + 8) := by
    rw [pow_add, mul_comm]
    exact Nat.mul_lt_mul_of_pos_left small (Nat.two_pow_pos width)
  rw [← Nat.shiftLeft_eq high, ← Nat.shiftLeft_add_eq_or_of_lt shifted, Nat.shiftLeft_eq, pow_add]
  ring

theorem word_toNat (hi lo : UInt8) : (word hi lo).toNat = hi.toNat * 256 + lo.toNat := by
  have small : hi.toNat < 2 ^ 8 := hi.toNat_lt
  have digit := digit_or hi.toNat 0 lo
  have shift : UInt16.toNat 8 % 16 = 0 + 8 := rfl
  unfold word
  rw [UInt16.toNat_or, UInt16.toNat_shiftLeft, UInt8.toNat_toUInt16, UInt8.toNat_toUInt16, Nat.shiftLeft_eq, shift,
    Nat.mod_eq_of_lt (by omega)]
  simpa using digit

theorem bytesToFloat_toNat (bytes : Nat → UInt8) :
    (hvacSps30BytesToFloat bytes).toNat =
      (((bytes 0).toNat * 256 + (bytes 1).toNat) * 256 + (bytes 2).toNat) * 256 + (bytes 3).toNat := by
  have shifted : ∀ (k : Nat) (amount : UInt32), amount.toNat ≤ 24 →
      ((bytes k).toUInt32 <<< amount).toNat = (bytes k).toNat * 2 ^ amount.toNat := by
    intro k amount bounded
    have small : (bytes k).toNat < 2 ^ 8 := (bytes k).toNat_lt
    have room : 2 ^ amount.toNat ≤ 2 ^ 24 := Nat.pow_le_pow_right (by decide) bounded
    rw [UInt32.toNat_shiftLeft, UInt8.toNat_toUInt32, Nat.shiftLeft_eq, Nat.mod_eq_of_lt (by omega : amount.toNat < 32)]
    refine Nat.mod_eq_of_lt ?_
    calc (bytes k).toNat * 2 ^ amount.toNat ≤ (bytes k).toNat * 2 ^ 24 := Nat.mul_le_mul_left _ room
      _ < 2 ^ 32 := by omega
  have second := digit_or (bytes 0).toNat 16 (bytes 1)
  have third := digit_or ((bytes 0).toNat * 256 + (bytes 1).toNat) 8 (bytes 2)
  have fourth := digit_or (((bytes 0).toNat * 256 + (bytes 1).toNat) * 256 + (bytes 2).toNat) 0 (bytes 3)
  unfold hvacSps30BytesToFloat
  rw [UInt32.toNat_or, UInt32.toNat_or, UInt32.toNat_or, shifted 0 24 (by decide), shifted 1 16 (by decide),
    shifted 2 8 (by decide), UInt8.toNat_toUInt32]
  show (bytes 0).toNat * 2 ^ (16 + 8) ||| (bytes 1).toNat * 2 ^ 16 ||| (bytes 2).toNat * 2 ^ 8 ||| (bytes 3).toNat = _
  rw [second]
  show ((bytes 0).toNat * 256 + (bytes 1).toNat) * 2 ^ (8 + 8) ||| (bytes 2).toNat * 2 ^ 8 ||| (bytes 3).toNat = _
  rw [third]
  simpa using fourth

theorem stored_append (before : Nat → UInt8) (first second : List (Nat × UInt8)) :
    stored before (first ++ second) = stored (stored before first) second := by
  unfold stored
  rw [List.foldl_append]

theorem stored_elsewhere {before : Nat → UInt8} {stores : List (Nat × UInt8)} {index : Nat}
    (missed : ∀ store ∈ stores, index ≠ store.1) : stored before stores index = before index := by
  induction stores generalizing before with
  | nil => rfl
  | cons store rest ih =>
    rw [List.forall_mem_cons] at missed
    obtain ⟨first, later⟩ := missed
    have kept : stored (Function.update before store.1 store.2) rest index =
        Function.update before store.1 store.2 index := ih later
    rw [Function.update_of_ne first] at kept
    exact kept

theorem checkWords_wrong {rx : Nat → UInt8} {i : Nat} (wrong : rx (i + 2) ≠ devCalcCrc (rx i) (rx (i + 1)))
    (words j : Nat) :
    checkWords rx (words + 1) i j = { code := hvacError, reads := [i + 2, i, i + 1], stores := [] } := if_pos wrong

theorem checkWords_right {rx : Nat → UInt8} {i : Nat} (right : rx (i + 2) = devCalcCrc (rx i) (rx (i + 1)))
    (words j : Nat) :
    checkWords rx (words + 1) i j =
      { code := (checkWords rx words (i + 3) (j + 2)).code
        reads := [i + 2, i, i + 1, i, i + 1] ++ (checkWords rx words (i + 3) (j + 2)).reads
        stores := [(j, rx i), (j + 1, rx (i + 1))] ++ (checkWords rx words (i + 3) (j + 2)).stores } :=
  if_neg (not_not.mpr right)

theorem checkWords_reads (rx : Nat → UInt8) (words i j : Nat) :
    ∀ index ∈ (checkWords rx words i j).reads, index < i + 3 * words := by
  induction words generalizing i j with
  | zero => exact fun _ present => absurd present List.not_mem_nil
  | succ words ih =>
    intro index present
    by_cases right : rx (i + 2) = devCalcCrc (rx i) (rx (i + 1))
    · rw [checkWords_right right] at present
      rcases List.mem_append.mp present with here | later
      · simp only [List.mem_cons, List.not_mem_nil, or_false] at here
        omega
      · have inside := ih (i + 3) (j + 2) index later
        omega
    · rw [checkWords_wrong right] at present
      simp only [List.mem_cons, List.not_mem_nil, or_false] at present
      omega

theorem checkWords_stores (rx : Nat → UInt8) (words i j : Nat) :
    ∀ store ∈ (checkWords rx words i j).stores, j ≤ store.1 ∧ store.1 < j + 2 * words := by
  induction words generalizing i j with
  | zero => exact fun _ present => absurd present List.not_mem_nil
  | succ words ih =>
    intro store present
    by_cases right : rx (i + 2) = devCalcCrc (rx i) (rx (i + 1))
    · rw [checkWords_right right] at present
      rcases List.mem_append.mp present with here | later
      · simp only [List.mem_cons, List.not_mem_nil, or_false] at here
        rcases here with rfl | rfl
        · exact ⟨le_refl j, by omega⟩
        · exact ⟨Nat.le_add_right j 1, by omega⟩
      · obtain ⟨low, high⟩ := ih (i + 3) (j + 2) store later
        omega
    · rw [checkWords_wrong right] at present
      exact absurd present List.not_mem_nil

theorem checkWords_ok_iff (rx : Nat → UInt8) (words i j : Nat) :
    (checkWords rx words i j).code = hvacOk ↔ ∃ sent, frame rx words i = encode devCalcCrc sent := by
  induction words generalizing i j with
  | zero => exact ⟨fun _ => ⟨[], rfl⟩, fun _ => rfl⟩
  | succ words ih =>
    rw [frame_succ, encoded_cons_iff, ← ih (i + 3) (j + 2)]
    by_cases right : rx (i + 2) = devCalcCrc (rx i) (rx (i + 1))
    · rw [checkWords_right right]
      exact (and_iff_right right).symm
    · rw [checkWords_wrong right]
      have refused : hvacError ≠ hvacOk := by decide
      exact iff_of_false refused fun both => right both.1

/-- The bytes stored for a valid frame are the data bytes it encodes. -/
theorem checkWords_output {rx : Nat → UInt8} {words i : Nat} {sent : List (UInt8 × UInt8)}
    (valid : frame rx words i = encode devCalcCrc sent) (j : Nat) (before : Nat → UInt8) :
    output (stored before (checkWords rx words i j).stores) words j = symbols sent := by
  induction words generalizing i j before sent with
  | zero =>
    have empty : sent = [] := encode_inj (w := []) valid.symm
    rw [empty]
    rfl
  | succ words ih =>
    rw [frame_succ] at valid
    cases sent with
    | nil => cases valid
    | cons word rest =>
      simp only [encode_cons, List.cons.injEq] at valid
      obtain ⟨first, second, checked, valid⟩ := valid
      have right : rx (i + 2) = devCalcCrc (rx i) (rx (i + 1)) := by rw [first, second, checked]
      have later := checkWords_stores rx words (i + 3) (j + 2)
      have low : ∀ index < j + 2, ∀ store ∈ (checkWords rx words (i + 3) (j + 2)).stores, index ≠ store.1 := by
        intro index below store present
        have inside := later store present
        omega
      rw [checkWords_right right, output_succ, stored_append, ih valid (j + 2),
        stored_elsewhere (low j (by omega)), stored_elsewhere (low (j + 1) (by omega))]
      simp [stored, first, second]

/-! ### A whole read -/

/-- A read of `numWords` words into an output that held `before`: which answers it accepts, what it
delivers then, and where it reads and writes. -/
structure DecodesExactly (numWords : Nat) (before : Nat → UInt8) (write : Int) (read : Reply)
    (result : Decoding) : Prop where
  accepts : result.code = hvacOk ↔
    ¬ write < 0 ∧ ¬ read.code < 0 ∧ ∃ sent, frame read.bytes numWords 0 = encode devCalcCrc sent
  delivers : ∀ sent, result.code = hvacOk → frame read.bytes numWords 0 = encode devCalcCrc sent →
    output (stored before result.stores) numWords 0 = symbols sent
  readsInside : ∀ index ∈ result.reads, index < 3 * numWords
  storesInside : ∀ store ∈ result.stores, store.1 < 2 * numWords

theorem readDataAsBytes_failed (ctx : Ctx) (reg : UInt16) (numWords : Nat) {write : Int} {read : Reply}
    (failed : write < 0 ∨ read.code < 0) :
    ∃ code < 0, (hvacSps30I2cReadDataAsBytes ctx reg numWords write read).1 =
      { code, reads := [], stores := [] } := by
  by_cases written : write < 0
  · exact ⟨write, written, by simp [hvacSps30I2cReadDataAsBytes, i2cMasterWrite, written]⟩
  · have received : read.code < 0 := failed.resolve_left written
    exact ⟨read.code, received, by
      simp [hvacSps30I2cReadDataAsBytes, i2cMasterWrite, i2cMasterRead, written, received]⟩

theorem readDataAsBytes_received (ctx : Ctx) (reg : UInt16) (numWords : Nat) {write : Int} {read : Reply}
    (written : ¬ write < 0) (received : ¬ read.code < 0) :
    (hvacSps30I2cReadDataAsBytes ctx reg numWords write read).1 = checkWords read.bytes numWords 0 0 := by
  simp [hvacSps30I2cReadDataAsBytes, i2cMasterWrite, i2cMasterRead, written, received]

theorem readDataAsBytes_exact (ctx : Ctx) (reg : UInt16) (numWords : Nat) (before : Nat → UInt8) (write : Int)
    (read : Reply) :
    DecodesExactly numWords before write read (hvacSps30I2cReadDataAsBytes ctx reg numWords write read).1 := by
  by_cases failed : write < 0 ∨ read.code < 0
  · obtain ⟨code, negative, result⟩ := readDataAsBytes_failed ctx reg numWords failed
    have refused : code ≠ hvacOk := by
      unfold hvacOk
      omega
    rw [result]
    refine ⟨iff_of_false refused ?_, ?_, ?_, ?_⟩
    · intro all
      obtain ⟨written, received, _⟩ := all
      exact failed.elim written received
    · intro sent accepted
      exact absurd accepted refused
    · exact fun _ present => absurd present List.not_mem_nil
    · exact fun _ present => absurd present List.not_mem_nil
  · rw [not_or] at failed
    obtain ⟨written, received⟩ := failed
    rw [readDataAsBytes_received ctx reg numWords written received]
    refine ⟨?_, ?_, ?_, ?_⟩
    · rw [checkWords_ok_iff]
      exact ⟨fun valid => ⟨written, received, valid⟩, fun all => all.2.2⟩
    · intro sent _ valid
      exact checkWords_output valid 0 before
    · intro index present
      have inside := checkWords_reads read.bytes numWords 0 0 index present
      omega
    · intro store present
      have inside := checkWords_stores read.bytes numWords 0 0 store present
      omega

/-- The transfers of an SPS30 read, which asks for its words if the command was acknowledged. -/
def sps30Read (reg : UInt16) (words : Nat) (write : Int) : List Transfer :=
  .write sps30SlaveAddr [high reg, low reg] :: if write < 0 then [] else [.read sps30SlaveAddr (3 * words)]

theorem readDataAsBytes_sent (ctx : Ctx) (reg : UInt16) (words : Nat) (write : Int) (read : Reply) :
    (hvacSps30I2cReadDataAsBytes ctx reg words write read).2.i2c.transfers =
      ctx.i2c.transfers ++ sps30Read reg words write := by
  have length : words * (sps30WordSize + sps30Crc8Len) = 3 * words := Nat.mul_comm words 3
  by_cases written : write < 0
  · simp [hvacSps30I2cReadDataAsBytes, i2cMasterSetSlaveAddress, i2cMasterWrite, sps30Read, written]
  · by_cases received : read.code < 0 <;>
      simp [hvacSps30I2cReadDataAsBytes, i2cMasterSetSlaveAddress, i2cMasterWrite, i2cMasterRead, sps30Read, written,
        received, length]

theorem sps30Read_addr {reg : UInt16} {words : Nat} {write : Int} :
    ∀ transfer ∈ sps30Read reg words write, transfer.addr = sps30SlaveAddr := by
  intro transfer member
  unfold sps30Read at member
  split at member <;> simp only [List.mem_cons, List.not_mem_nil, or_false] at member
  · rw [member]
    rfl
  · rcases member with rfl | rfl
    · rfl
    · rfl

/-- The sensor's answer with the words `sent`. -/
def answer (sent : List (UInt8 × UInt8)) : Reply where
  code := 0
  bytes index := (encode devCalcCrc sent).getD index 0

theorem answer_frame (sent : List (UInt8 × UInt8)) :
    frame (answer sent).bytes sent.length 0 = encode devCalcCrc sent := by
  unfold frame
  rw [← length_encode devCalcCrc, ← List.range_eq_range']
  apply List.ext_getElem
  · rw [List.length_map, List.length_range]
  · intro index _ inside
    simp [answer, inside]

/-! ### Measured values -/

def bigEndian : List UInt8 → List Nat
  | a :: b :: c :: d :: rest =>
    (((a.toNat * 256 + b.toNat) * 256 + c.toNat) * 256 + d.toNat) :: bigEndian rest
  | _ => []

def MassAndNumCntData.fields (mNCData : MassAndNumCntData) : List UInt32 :=
  [mNCData.massPm1_0, mNCData.massPm2_5, mNCData.massPm4_0, mNCData.massPm10, mNCData.numPm0_5, mNCData.numPm1_0,
    mNCData.numPm2_5, mNCData.numPm4_0, mNCData.numPm10, mNCData.typPtclSize]

theorem readMeasuredData_failed (ctx : Ctx) (mNCData : MassAndNumCntData) (data : Nat → UInt8) (write : Int)
    (read : Reply)
    (failed : (hvacSps30I2cReadDataAsBytes ctx sps30ReadMeasuredValue 20 write read).1.code ≠ hvacOk) :
    (hvacSps30ReadMeasuredData ctx mNCData data write read).1 =
        (hvacSps30I2cReadDataAsBytes ctx sps30ReadMeasuredValue 20 write read).1.code ∧
      (hvacSps30ReadMeasuredData ctx mNCData data write read).2.2 = mNCData := by
  unfold hvacSps30ReadMeasuredData
  rw [show 40 / sps30WordSize = 20 from rfl]
  dsimp only
  split
  · exact ⟨rfl, rfl⟩
  · rename_i accepted
    exact absurd (not_not.mp accepted) failed

theorem readMeasuredData_filled (ctx : Ctx) (mNCData : MassAndNumCntData) (data : Nat → UInt8) (write : Int)
    (read : Reply)
    (accepted : (hvacSps30I2cReadDataAsBytes ctx sps30ReadMeasuredValue 20 write read).1.code = hvacOk) :
    (hvacSps30ReadMeasuredData ctx mNCData data write read).1 = hvacOk ∧
      (hvacSps30ReadMeasuredData ctx mNCData data write read).2.2.fields.map UInt32.toNat =
        bigEndian (output (stored data
          (hvacSps30I2cReadDataAsBytes ctx sps30ReadMeasuredValue 20 write read).1.stores) 20 0) := by
  unfold hvacSps30ReadMeasuredData
  rw [show 40 / sps30WordSize = 20 from rfl]
  dsimp only
  split
  · rename_i failed
    exact absurd accepted failed
  · refine ⟨rfl, ?_⟩
    generalize stored data (hvacSps30I2cReadDataAsBytes ctx sps30ReadMeasuredValue 20 write read).1.stores = bytes
    simp only [MassAndNumCntData.fields, List.map_cons, List.map_nil, bytesToFloat_toNat]
    rfl

/-- A measurement: which answers are accepted, the fields they fill, and what an error leaves. -/
structure MeasuresExactly (mNCData : MassAndNumCntData) (write : Int) (read : Reply)
    (result : Int × Ctx × MassAndNumCntData) : Prop where
  accepts : result.1 = hvacOk ↔
    ¬ write < 0 ∧ ¬ read.code < 0 ∧ ∃ sent, frame read.bytes 20 0 = encode devCalcCrc sent
  fills : ∀ sent, result.1 = hvacOk → frame read.bytes 20 0 = encode devCalcCrc sent →
    result.2.2.fields.map UInt32.toNat = bigEndian (symbols sent)
  unchanged : result.1 ≠ hvacOk → result.2.2 = mNCData

theorem readMeasuredData_exact (ctx : Ctx) (mNCData : MassAndNumCntData) (data : Nat → UInt8) (write : Int)
    (read : Reply) :
    MeasuresExactly mNCData write read (hvacSps30ReadMeasuredData ctx mNCData data write read) := by
  obtain ⟨accepts, delivers, _, _⟩ := readDataAsBytes_exact ctx sps30ReadMeasuredValue 20 data write read
  by_cases accepted : (hvacSps30I2cReadDataAsBytes ctx sps30ReadMeasuredValue 20 write read).1.code = hvacOk
  · obtain ⟨ok, filled⟩ := readMeasuredData_filled ctx mNCData data write read accepted
    refine ⟨iff_of_true ok (accepts.mp accepted), ?_, fun failed => absurd ok failed⟩
    intro sent _ valid
    rw [filled, delivers sent accepted valid]
  · obtain ⟨code, unchanged⟩ := readMeasuredData_failed ctx mNCData data write read accepted
    have failed : (hvacSps30ReadMeasuredData ctx mNCData data write read).1 ≠ hvacOk := by
      rw [code]
      exact accepted
    exact ⟨iff_of_false failed (mt accepts.mpr accepted), fun _ ok => absurd ok failed, fun _ => unchanged⟩

theorem readMeasuredData_sent (ctx : Ctx) (mNCData : MassAndNumCntData) (data : Nat → UInt8) (write : Int)
    (read : Reply) :
    (hvacSps30ReadMeasuredData ctx mNCData data write read).2.1.i2c.transfers =
      ctx.i2c.transfers ++ sps30Read sps30ReadMeasuredValue 20 write := by
  rw [← readDataAsBytes_sent ctx sps30ReadMeasuredValue 20 write read]
  unfold hvacSps30ReadMeasuredData
  dsimp only
  split <;> rfl

/-- SPS30 reads ask for as many words as they are to read, accept exactly the encodings, decode them to what was sent,
and hand their caller all or nothing. -/
theorem sps30_frames_exact (ctx : Ctx) :
    (∀ reg numWords before write read,
      DecodesExactly numWords before write read (hvacSps30I2cReadDataAsBytes ctx reg numWords write read).1) ∧
    (∀ reg before sent,
      let result := (hvacSps30I2cReadDataAsBytes ctx reg sent.length 0 (answer sent)).1
      result.code = hvacOk ∧ output (stored before result.stores) sent.length 0 = symbols sent) ∧
    (∀ mNCData data write read,
      MeasuresExactly mNCData write read (hvacSps30ReadMeasuredData ctx mNCData data write read)) ∧
    (∀ reg numWords write read,
      (hvacSps30I2cReadDataAsBytes ctx reg numWords write read).2.i2c.transfers =
        ctx.i2c.transfers ++ sps30Read reg numWords write) ∧
    ∀ mNCData data write read,
      (hvacSps30ReadMeasuredData ctx mNCData data write read).2.1.i2c.transfers =
        ctx.i2c.transfers ++ sps30Read sps30ReadMeasuredValue 20 write := by
  refine ⟨fun reg numWords before write read => readDataAsBytes_exact ctx reg numWords before write read, ?_,
    fun mNCData data write read => readMeasuredData_exact ctx mNCData data write read,
    readDataAsBytes_sent ctx, readMeasuredData_sent ctx⟩
  intro reg before sent
  have read := readDataAsBytes_exact ctx reg sent.length before 0 (answer sent)
  have valid := answer_frame sent
  have accepted := read.accepts.mpr ⟨lt_irrefl 0, lt_irrefl 0, sent, valid⟩
  exact ⟨accepted, read.delivers sent accepted valid⟩

end AirQuality.Hvac
