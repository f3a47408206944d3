import AirQuality.Hvac.Frame

/-!
# SCD4x checksums

The SCD4x puts a checksum behind each word as the SPS30 does, but the two reads the station makes of it
take the data bytes without a look at it.
-/

namespace AirQuality.Hvac
open Foundation

/-- Every one of the first `words` words in a receive buffer carries its checksum. -/
def ChecksumsHold (rx : Nat → UInt8) (words : Nat) : Prop :=
  ∀ k < words, rx (3 * k + 2) = devCalcCrc (rx (3 * k)) (rx (3 * k + 1))

instance (rx : Nat → UInt8) (words : Nat) : Decidable (ChecksumsHold rx words) :=
  inferInstanceAs (Decidable (∀ _ < _, _))

/-- The data bytes of word `k` in a receive buffer, as a big-endian number. -/
def wordAt (rx : Nat → UInt8) (k : Nat) : Nat := (rx (3 * k)).toNat * 256 + (rx (3 * k + 1)).toNat

/-- The checksums hold exactly if the SPS30 read path would accept the bytes. -/
theorem checksumsHold_iff (rx : Nat → UInt8) (words : Nat) :
    ChecksumsHold rx words ↔ (checkWords rx words 0 0).code = hvacOk := by
  have shifted : ∀ i, (∀ k < words, rx (i + (3 * k + 2)) = devCalcCrc (rx (i + 3 * k)) (rx (i + (3 * k + 1)))) ↔
      ∃ sent, frame rx words i = encode devCalcCrc sent := by
    induction words with
    | zero => exact fun i => iff_of_true (fun k below => absurd below (Nat.not_lt_zero k)) ⟨[], rfl⟩
    | succ words ih =>
      intro i
      rw [frame_succ, encoded_cons_iff, ← ih (i + 3)]
      constructor
      · intro all
        refine ⟨all 0 (Nat.succ_pos words), fun k below => ?_⟩
        have next := all (k + 1) (by omega)
        simpa only [Nat.mul_succ, ← Nat.add_assoc, Nat.add_right_comm _ _ 3] using next
      · intro both k below
        obtain ⟨first, later⟩ := both
        cases k with
        | zero => exact first
        | succ k =>
          have next := later k (by omega)
          simpa only [Nat.mul_succ, ← Nat.add_assoc, Nat.add_right_comm _ _ 3] using next
  rw [checkWords_ok_iff, ← shifted 0]
  simp only [Nat.zero_add, ChecksumsHold]

theorem checksumsHold_one (rx : Nat → UInt8) : ChecksumsHold rx 1 ↔ rx 2 = devCalcCrc (rx 0) (rx 1) := by
  simp [ChecksumsHold]

theorem checksumsHold_two (rx : Nat → UInt8) :
    ChecksumsHold rx 2 ↔ ChecksumsHold rx 1 ∧ rx 5 = devCalcCrc (rx 3) (rx 4) :=
  Nat.forall_lt_succ_right

theorem scd40ReadData_ok_iff (ctx : Ctx) (reg : UInt16) (reply : Reply) :
    (hvacScd40ReadData ctx reg reply).1 = hvacOk ↔ reply.code = hvacOk ∧ ChecksumsHold reply.bytes 1 := by
  rw [checksumsHold_one]
  unfold hvacScd40ReadData i2cMasterWriteThenRead
  dsimp only
  split
  · rename_i wrong
    have refused : hvacError ≠ hvacOk := by decide
    exact iff_of_false refused fun both => wrong both.2
  · rename_i right
    exact (and_iff_left (not_not.mp right)).symm

/-- A read of `words` words is accepted on its checksums only, delivers the words at `positions`, and
leaves its output alone when it fails. -/
structure Checked {β : Type} (words : Nat) (positions : List Nat) (values : β → List UInt16) (before : β)
    (rx : Nat → UInt8) (result : Int × Ctx × β) : Prop where
  checksums : result.1 = hvacOk → ChecksumsHold rx words
  delivered : result.1 = hvacOk → (values result.2.2).map UInt16.toNat = positions.map (wordAt rx)
  unchanged : result.1 ≠ hvacOk → result.2.2 = before

/-- The CO₂ concentration and the two ASC fields. -/
def MeasuremenData.words (readData : MeasuremenData) : List UInt16 :=
  [readData.co2Concent, readData.ascUpdateCount, readData.ascLastCorrection]

def serialWords (serialNumber : UInt16 × UInt16 × UInt16) : List UInt16 :=
  [serialNumber.1, serialNumber.2.1, serialNumber.2.2]

abbrev MeasurementChecked (before : MeasuremenData) (rx : Nat → UInt8) :=
  Checked 5 [0, 3, 4] MeasuremenData.words before rx

abbrev SerialChecked (before : UInt16 × UInt16 × UInt16) (rx : Nat → UInt8) :=
  Checked 3 [0, 1, 2] serialWords before rx

/-- A read that looks at the outcome of its transfer only. -/
theorem checked_iff {β : Type} {words : Nat} {positions : List Nat} {values : β → List UInt16} {before after : β}
    {rx : Nat → UInt8} (code : Int) (ctx : Ctx) (decoded : (values after).map UInt16.toNat = positions.map (wordAt rx)) :
    Checked words positions values before rx (if code < 0 then (hvacError, ctx, before) else (hvacOk, ctx, after)) ↔
      code < 0 ∨ ChecksumsHold rx words := by
  split
  · rename_i failed
    have refused : hvacError ≠ hvacOk := by decide
    refine iff_of_true ⟨?_, ?_, fun _ => rfl⟩ (Or.inl failed)
    · exact fun accepted => absurd accepted refused
    · exact fun accepted => absurd accepted refused
  · rename_i succeeded
    constructor
    · intro held
      exact Or.inr (held.checksums rfl)
    · intro condition
      exact ⟨fun _ => condition.resolve_left succeeded, fun _ => decoded, fun refused => absurd rfl refused⟩

theorem readMeasurement_checked_iff (ctx : Ctx) (readData : MeasuremenData) (reply : Reply) :
    MeasurementChecked readData reply.bytes (hvacScd40ReadMeasurement ctx readData reply) ↔
      reply.code < 0 ∨ ChecksumsHold reply.bytes 5 := by
  unfold hvacScd40ReadMeasurement i2cMasterWriteThenRead
  apply checked_iff
  simp only [MeasuremenData.words, List.map_cons, List.map_nil, word_toNat]
  rfl

theorem getSerialNumber_checked_iff (ctx : Ctx) (serialNumber : UInt16 × UInt16 × UInt16) (reply : Reply) :
    SerialChecked serialNumber reply.bytes (hvacScd40GetSerialNumber ctx serialNumber reply) ↔
      reply.code < 0 ∨ ChecksumsHold reply.bytes 3 := by
  unfold hvacScd40GetSerialNumber i2cMasterWriteThenRead
  apply checked_iff
  simp only [serialWords, List.map_cons, List.map_nil, word_toNat]
  rfl

/-- Both SCD4x reads meet their contract exactly if the transfer fails or the checksums happen to hold. -/
theorem scd4x_checked_iff (ctx : Ctx) (reply : Reply) :
    (∀ readData, MeasurementChecked readData reply.bytes (hvacScd40ReadMeasurement ctx readData reply) ↔
      reply.code < 0 ∨ ChecksumsHold reply.bytes 5) ∧
    ∀ serialNumber, SerialChecked serialNumber reply.bytes (hvacScd40GetSerialNumber ctx serialNumber reply) ↔
      reply.code < 0 ∨ ChecksumsHold reply.bytes 3 :=
  ⟨fun readData => readMeasurement_checked_iff ctx readData reply,
    fun serialNumber => getSerialNumber_checked_iff ctx serialNumber reply⟩

/-- Zero bytes carry no checksum, and both reads accept them. -/
theorem scd4x_unchecked :
    let ctx : Ctx := ⟨⟨scd40SlaveAddr, []⟩, scd40SlaveAddr⟩
    let reply : Reply := ⟨0, fun _ => 0⟩
    ¬ MeasurementChecked ⟨400, 21, 40, 0, 0⟩ reply.bytes
        (hvacScd40ReadMeasurement ctx ⟨400, 21, 40, 0, 0⟩ reply) ∧
      ¬ SerialChecked (1, 2, 3) reply.bytes (hvacScd40GetSerialNumber ctx (1, 2, 3) reply) := by
  intro ctx reply
  have wrong : (0 : UInt8) ≠ devCalcCrc 0 0 := by decide +kernel
  refine ⟨fun held => ?_, fun held => ?_⟩
  · exact wrong (held.checksums rfl 0 (by decide))
  · exact wrong (held.checksums rfl 0 (by decide))

end AirQuality.Hvac
