import AirQuality.Hvac.Checksum

/-!
# Reading one word

`hvac_sps30_i2c_read_data` reads a `uint16_t`, but tells the callee, which counts words, the number of
its bytes. So it asks for two words, checks both and stores four bytes.
-/

namespace AirQuality.Hvac
open Foundation

def Transfer.readLength : Transfer → Option Nat
  | .read _ length => some length
  | .write _ _ | .writeRead _ _ _ => none

/-- The lengths of the reads between two contexts. -/
def requested (before after : Ctx) : List Nat :=
  (after.i2c.transfers.drop before.i2c.transfers.length).filterMap Transfer.readLength

section Word
variable (ctx : Ctx) (reg : UInt16) (rxData : Nat → UInt8) (write : Int) (read : Reply)

/-- Nothing is stored outside of the two bytes at `rx_data`. -/
def StoresInside : Prop := ∀ store ∈ (hvacSps30I2cReadData ctx reg rxData write read).1.stores, store.1 < 2

/-- The read succeeds on a word with its checksum and on nothing else. -/
def AcceptsWord : Prop :=
  (hvacSps30I2cReadData ctx reg rxData write read).1.code = hvacOk ↔
    ¬ write < 0 ∧ ¬ read.code < 0 ∧ ChecksumsHold read.bytes 1

def DeliversWord : Prop :=
  (hvacSps30I2cReadData ctx reg rxData write read).1.code = hvacOk →
    (halfWord (stored rxData (hvacSps30I2cReadData ctx reg rxData write read).1.stores)).toNat = wordAt read.bytes 0

/-- The ready flag is the lowest bit of a word with its checksum. -/
def FlagOfWord : Prop :=
  ¬ write < 0 → ¬ read.code < 0 → ChecksumsHold read.bytes 1 →
    (hvacSps30GetReadyFlag ctx rxData write read).1.toNat = wordAt read.bytes 0 % 2

/-- A read of one word asks the sensor for three bytes, once its register is written, and keeps to them. -/
structure SingleWord : Prop where
  requests : requested ctx (hvacSps30I2cReadData ctx reg rxData write read).2 = if write < 0 then [] else [3]
  inside : StoresInside ctx reg rxData write read
  accepts : AcceptsWord ctx reg rxData write read
  delivers : DeliversWord ctx reg rxData write read
  flag : FlagOfWord ctx rxData write read

end Word

/-! ### What the read does -/

/-- How a read of `rxData` ends: in a failed transfer, at a wrong first or second checksum, or with two
words. -/
inductive WordRead (write : Int) (read : Reply) (code : Int) (stores : List (Nat × UInt8)) : Prop where
  | failed (failed : write < 0 ∨ read.code < 0) (negative : code < 0) (unstored : stores = [])
  | wrongFirst (written : ¬ write < 0) (received : ¬ read.code < 0) (wrong : ¬ ChecksumsHold read.bytes 1)
      (refused : code = hvacError) (unstored : stores = [])
  | wrongSecond (written : ¬ write < 0) (received : ¬ read.code < 0) (right : ChecksumsHold read.bytes 1)
      (wrong : ¬ ChecksumsHold read.bytes 2) (refused : code = hvacError)
      (first : stores = [(0, read.bytes 0), (1, read.bytes 1)])
  | accepted (written : ¬ write < 0) (received : ¬ read.code < 0) (right : ChecksumsHold read.bytes 2)
      (ok : code = hvacOk)
      (all : stores = [(0, read.bytes 0), (1, read.bytes 1), (2, read.bytes 3), (3, read.bytes 4),
        (0, low (word (read.bytes 0) (read.bytes 1))), (1, high (word (read.bytes 0) (read.bytes 1)))])

theorem readData_cases (ctx : Ctx) (reg : UInt16) (rxData : Nat → UInt8) (write : Int) (read : Reply) :
    WordRead write read (hvacSps30I2cReadData ctx reg rxData write read).1.code
      (hvacSps30I2cReadData ctx reg rxData write read).1.stores := by
  have ok : ¬ hvacOk < 0 := by decide
  have refused : hvacError < 0 := by decide
  unfold hvacSps30I2cReadData
  by_cases failed : write < 0 ∨ read.code < 0
  · obtain ⟨code, negative, result⟩ := readDataAsBytes_failed ctx reg 2 failed
    simp only [result, if_pos negative]
    exact .failed failed negative rfl
  · rw [not_or] at failed
    obtain ⟨written, received⟩ := failed
    simp only [readDataAsBytes_received ctx reg 2 written received]
    by_cases first : ChecksumsHold read.bytes 1
    · have right := (checksumsHold_one read.bytes).mp first
      rw [checkWords_right right]
      by_cases both : ChecksumsHold read.bytes 2
      · have right' := ((checksumsHold_two read.bytes).mp both).2
        rw [checkWords_right right']
        simp only [checkWords]
        exact .accepted written received both rfl rfl
      · have wrong : read.bytes 5 ≠ devCalcCrc (read.bytes 3) (read.bytes 4) := fun right' =>
          both ((checksumsHold_two read.bytes).mpr ⟨first, right'⟩)
        rw [checkWords_wrong wrong]
        simp only [if_pos refused]
        exact .wrongSecond written received first both rfl rfl
    · have wrong := mt (checksumsHold_one read.bytes).mpr first
      rw [checkWords_wrong wrong]
      simp only [if_pos refused]
      exact .wrongFirst written received first rfl rfl

theorem readDataAsBytes_requested (ctx : Ctx) (reg : UInt16) (numWords : Nat) (write : Int) (read : Reply) :
    requested ctx (hvacSps30I2cReadDataAsBytes ctx reg numWords write read).2 =
      if write < 0 then [] else [3 * numWords] := by
  have length : numWords * (sps30WordSize + sps30Crc8Len) = 3 * numWords := Nat.mul_comm numWords 3
  unfold requested hvacSps30I2cReadDataAsBytes i2cMasterWrite i2cMasterRead i2cMasterSetSlaveAddress
  rw [length]
  by_cases failed : write < 0
  · simp [failed, Transfer.readLength]
  · by_cases lost : read.code < 0
    · simp [failed, lost, Transfer.readLength, List.filterMap_cons]
    · simp [failed, lost, Transfer.readLength, List.filterMap_cons]

theorem word_high_low (w : UInt16) : word (high w) (low w) = w := by
  have split : (high w).toNat = w.toNat / 256 := by
    have small : w.toNat < 2 ^ 16 := w.toNat_lt
    have shift : UInt16.toNat 8 % 16 = 8 := rfl
    unfold high
    rw [UInt16.toNat_toUInt8, UInt16.toNat_shiftRight, shift, Nat.shiftRight_eq_div_pow]
    omega
  have rest : (low w).toNat = w.toNat % 256 := UInt16.toNat_toUInt8 w
  apply UInt16.toNat_inj.mp
  rw [word_toNat, split, rest]
  omega

section Word
variable (ctx : Ctx) (reg : UInt16) (rxData : Nat → UInt8) (write : Int) (read : Reply)

theorem readData_requested :
    requested ctx (hvacSps30I2cReadData ctx reg rxData write read).2 = if write < 0 then [] else [6] := by
  have log : (hvacSps30I2cReadData ctx reg rxData write read).2 =
      (hvacSps30I2cReadDataAsBytes ctx reg 2 write read).2 := by
    unfold hvacSps30I2cReadData
    dsimp only
    split
    · rfl
    · rfl
  rw [log]
  exact readDataAsBytes_requested ctx reg 2 write read

theorem storesInside_iff :
    StoresInside ctx reg rxData write read ↔ write < 0 ∨ read.code < 0 ∨ ¬ ChecksumsHold read.bytes 2 := by
  unfold StoresInside
  rcases readData_cases ctx reg rxData write read with
    ⟨failed, _, unstored⟩ | ⟨_, _, wrong, _, unstored⟩ | ⟨_, _, _, wrong, _, first⟩ | ⟨written, received, right, _, all⟩
  · rw [unstored]
    refine iff_of_true (fun _ present => absurd present List.not_mem_nil) ?_
    rw [← or_assoc]
    exact Or.inl failed
  · rw [unstored]
    refine iff_of_true (fun _ present => absurd present List.not_mem_nil) (Or.inr (Or.inr fun right => wrong ?_))
    exact ((checksumsHold_two read.bytes).mp right).1
  · rw [first]
    exact iff_of_true (by simp) (Or.inr (Or.inr wrong))
  · rw [all]
    refine iff_of_false (fun inside => ?_) (by simp [written, received, right])
    exact absurd (inside (3, read.bytes 4) (by simp)) (by simp)

theorem acceptsWord_iff :
    AcceptsWord ctx reg rxData write read ↔
      write < 0 ∨ read.code < 0 ∨ (ChecksumsHold read.bytes 1 → ChecksumsHold read.bytes 2) := by
  have refused : hvacError ≠ hvacOk := by decide
  unfold AcceptsWord
  rcases readData_cases ctx reg rxData write read with
    ⟨failed, negative, _⟩ | ⟨_, _, wrong, code, _⟩ | ⟨written, received, right, wrong, code, _⟩ |
      ⟨written, received, right, ok, _⟩
  · refine iff_of_true (iff_of_false (fun ok => ?_) fun all => ?_) ?_
    · rw [ok] at negative
      exact absurd negative (by decide)
    · exact failed.elim all.1 all.2.1
    · rw [← or_assoc]
      exact Or.inl failed
  · rw [code]
    refine iff_of_true (iff_of_false refused fun all => wrong all.2.2) ?_
    exact Or.inr (Or.inr fun first => absurd first wrong)
  · rw [code]
    refine iff_of_false (fun accepts => refused (accepts.mpr ⟨written, received, right⟩)) ?_
    simp [written, received, right, wrong]
  · have first := ((checksumsHold_two read.bytes).mp right).1
    rw [ok]
    exact iff_of_true (iff_of_true rfl ⟨written, received, first⟩) (Or.inr (Or.inr fun _ => right))

theorem halfWord_swapped (before : Nat → UInt8) (stores : List (Nat × UInt8)) (value : UInt16) :
    halfWord (stored before (stores ++ [(0, low value), (1, high value)])) = value := by
  rw [stored_append]
  simpa [halfWord, stored] using word_high_low value

theorem readData_value (accepted : (hvacSps30I2cReadData ctx reg rxData write read).1.code = hvacOk) :
    halfWord (stored rxData (hvacSps30I2cReadData ctx reg rxData write read).1.stores) =
      word (read.bytes 0) (read.bytes 1) := by
  have refused : hvacError ≠ hvacOk := by decide
  rcases readData_cases ctx reg rxData write read with
    ⟨_, negative, _⟩ | ⟨_, _, _, code, _⟩ | ⟨_, _, _, _, code, _⟩ | ⟨_, _, _, _, all⟩
  · rw [accepted] at negative
    exact absurd negative (by decide)
  · exact absurd (code.symm.trans accepted) refused
  · exact absurd (code.symm.trans accepted) refused
  · rw [all]
    exact halfWord_swapped rxData [(0, read.bytes 0), (1, read.bytes 1), (2, read.bytes 3), (3, read.bytes 4)] _

theorem deliversWord : DeliversWord ctx reg rxData write read := by
  intro accepted
  rw [readData_value ctx reg rxData write read accepted, word_toNat]
  rfl

theorem readyFlag_toNat :
    (hvacSps30GetReadyFlag ctx rxData write read).1.toNat =
      (halfWord (stored rxData
        (hvacSps30I2cReadData ctx sps30ReadDataRdyFlag rxData write read).1.stores)).toNat % 2 := by
  have lowest : ∀ w : UInt16, (low w &&& 1).toNat = w.toNat % 2 := by
    intro w
    have rest : (low w).toNat = w.toNat % 256 := UInt16.toNat_toUInt8 w
    rw [UInt8.toNat_and, rest]
    show w.toNat % 256 &&& 1 = w.toNat % 2
    rw [Nat.and_one_is_mod]
    omega
  exact lowest _

/-- A word refused for the checksum of its successor stays as it was stored, high byte first, and the
flag is then the lowest bit of its high byte. -/
theorem flagOfWord_iff :
    FlagOfWord ctx rxData write read ↔
      write < 0 ∨ read.code < 0 ∨ (ChecksumsHold read.bytes 1 → ChecksumsHold read.bytes 2) ∨
        (read.bytes 0).toNat % 2 = (read.bytes 1).toNat % 2 := by
  have value : wordAt read.bytes 0 % 2 = (read.bytes 1).toNat % 2 := by
    show ((read.bytes 0).toNat * 256 + (read.bytes 1).toNat) % 2 = _
    omega
  have accepted := readData_value ctx sps30ReadDataRdyFlag rxData write read
  unfold FlagOfWord
  rw [readyFlag_toNat, value]
  rcases readData_cases ctx sps30ReadDataRdyFlag rxData write read with
    ⟨failed, _, _⟩ | ⟨_, _, wrong, _, _⟩ | ⟨written, received, right, wrong, _, first⟩ | ⟨_, _, right, ok, _⟩
  · refine iff_of_true (fun written received => absurd failed ?_) ?_
    · exact not_or.mpr ⟨written, received⟩
    · rw [← or_assoc]
      exact Or.inl failed
  · refine iff_of_true (fun _ _ right => absurd right wrong) ?_
    exact Or.inr (Or.inr (Or.inl fun right => absurd right wrong))
  · have swapped : (halfWord (stored rxData [(0, read.bytes 0), (1, read.bytes 1)])).toNat =
        (read.bytes 1).toNat * 256 + (read.bytes 0).toNat := word_toNat (read.bytes 1) (read.bytes 0)
    rw [first, swapped]
    constructor
    · intro flag
      have same := flag written received right
      exact Or.inr (Or.inr (Or.inr (by omega)))
    · intro condition _ _ _
      rcases condition with failed | failed | both | same
      · exact absurd failed written
      · exact absurd failed received
      · exact absurd (both right) wrong
      · omega
  · rw [accepted ok, word_toNat]
    refine iff_of_true (fun _ _ _ => ?_) (Or.inr (Or.inr (Or.inl fun _ => right)))
    omega

/-- A read of one word asks for its three bytes and keeps to them exactly if it never gets to ask. Of its
parts, the delivered value is always right; the others go by the second word, which nobody asked for. -/
theorem single_word_iff :
    (SingleWord ctx reg rxData write read ↔ write < 0) ∧
    (StoresInside ctx reg rxData write read ↔ write < 0 ∨ read.code < 0 ∨ ¬ ChecksumsHold read.bytes 2) ∧
    (AcceptsWord ctx reg rxData write read ↔
      write < 0 ∨ read.code < 0 ∨ (ChecksumsHold read.bytes 1 → ChecksumsHold read.bytes 2)) ∧
    DeliversWord ctx reg rxData write read ∧
    (FlagOfWord ctx rxData write read ↔
      write < 0 ∨ read.code < 0 ∨ (ChecksumsHold read.bytes 1 → ChecksumsHold read.bytes 2) ∨
        (read.bytes 0).toNat % 2 = (read.bytes 1).toNat % 2) := by
  have inside := storesInside_iff ctx reg rxData write read
  have accepts := acceptsWord_iff ctx reg rxData write read
  have delivers := deliversWord ctx reg rxData write read
  have flag := flagOfWord_iff ctx rxData write read
  refine ⟨?_, inside, accepts, delivers, flag⟩
  have asked := readData_requested ctx reg rxData write read
  constructor
  · intro held
    by_contra written
    have three := held.requests
    rw [asked, if_neg written, if_neg written] at three
    exact absurd three (by decide)
  · intro failed
    refine ⟨?_, inside.mpr (Or.inl failed), accepts.mpr (Or.inl failed), delivers, flag.mpr (Or.inl failed)⟩
    rw [asked, if_pos failed, if_pos failed]

end Word

/-- The sensor is ready and reports it. With a valid second word two bytes land behind the caller's word;
with an invalid one the first is refused, and the flag reads as not ready. -/
theorem single_word_fails :
    let ctx : Ctx := ⟨⟨scd40SlaveAddr, []⟩, scd40SlaveAddr⟩
    let ready : Reply := answer [(0, 1), (0xFF, 0xFF)]
    let followed : Reply := ⟨0, fun index => if index < 3 then ready.bytes index else 0⟩
    let read (reply : Reply) := hvacSps30I2cReadData ctx sps30ReadDataRdyFlag (fun _ => 0) 0 reply
    (¬ SingleWord ctx sps30ReadDataRdyFlag (fun _ => 0) 0 ready ∧ requested ctx (read ready).2 = [6] ∧
      (3, 0xFF) ∈ (read ready).1.stores) ∧
    (read followed).1.code = hvacError ∧ ChecksumsHold followed.bytes 1 ∧
      (hvacSps30GetReadyFlag ctx (fun _ => 0) 0 followed).1 = 0 := by
  intro ctx ready followed read
  refine ⟨⟨fun held => ?_, by decide +kernel, by decide +kernel⟩, by decide +kernel, by decide +kernel,
    by decide +kernel⟩
  exact absurd held.requests (by decide +kernel)

end AirQuality.Hvac
