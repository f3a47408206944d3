import AirQuality.Hvac.Frame
import AirQuality.Uid.UniqueId

/-!
# The SPS30 serial string

`hvac_sps30_get_serial_number` fills the whole of `sps30_serial_string` with bytes of the sensor. The log
line and the three unique ids of the particle sensors read it as a string, and no code ends it.
-/

namespace AirQuality.Uid
open Foundation Hvac

/-- An accepted serial number ends within the buffer, and so does every `%s` of it. -/
structure SerialEnds (result : Int × Ctx × (Nat → UInt8)) : Prop where
  terminated : result.1 = hvacOk → Terminated sps30MaxSerialLen result.2.2
  inside : result.1 = hvacOk → ∀ index ∈ stringReads result.2.2, index < sps30MaxSerialLen

theorem serialEnds_iff (result : Int × Ctx × (Nat → UInt8)) :
    SerialEnds result ↔ (result.1 = hvacOk → Terminated sps30MaxSerialLen result.2.2) := by
  constructor
  · exact SerialEnds.terminated
  · intro terminated
    exact ⟨terminated, fun accepted => terminated_iff_reads.mp (terminated accepted)⟩

section Read
variable (ctx : Ctx) (serialNumber : Nat → UInt8) (write : Int) (read : Reply)

theorem getSerialNumber_read :
    let result := (hvacSps30I2cReadDataAsBytes ctx sps30ReadSerialNumber 16 write read).1
    (hvacSps30GetSerialNumber ctx serialNumber sps30MaxSerialLen write read).1 = result.code ∧
      (hvacSps30GetSerialNumber ctx serialNumber sps30MaxSerialLen write read).2.2 =
        stored serialNumber result.stores := by
  intro result
  have room : ¬ sps30MaxSerialLen < sps30MaxSerialLen := Nat.lt_irrefl _
  unfold hvacSps30GetSerialNumber
  rw [if_neg room, show sps30MaxSerialLen / sps30WordSize = 16 from rfl]
  dsimp only
  split
  · exact ⟨rfl, rfl⟩
  · rename_i accepted
    exact ⟨(not_not.mp accepted).symm, rfl⟩

theorem terminated_iff_output (buffer : Nat → UInt8) (words : Nat) :
    Terminated (2 * words) buffer ↔ 0 ∈ output buffer words 0 := by
  simp [Terminated, output, List.mem_range'_1]

/-- The serial string ends exactly if a transfer fails or there is a zero byte among the words sent. -/
theorem serial_ends_iff :
    SerialEnds (hvacSps30GetSerialNumber ctx serialNumber sps30MaxSerialLen write read) ↔
      write < 0 ∨ read.code < 0 ∨ ∀ sent, frame read.bytes 16 0 = encode devCalcCrc sent → 0 ∈ symbols sent := by
  obtain ⟨code, buffer⟩ := getSerialNumber_read ctx serialNumber write read
  obtain ⟨accepts, delivers, _, _⟩ := readDataAsBytes_exact ctx sps30ReadSerialNumber 16 serialNumber write read
  rw [serialEnds_iff, code, buffer, show sps30MaxSerialLen = 2 * 16 from rfl, terminated_iff_output]
  constructor
  · intro ends
    by_contra condition
    simp only [not_or, not_forall] at condition
    obtain ⟨written, received, sent, valid, missing⟩ := condition
    have accepted := accepts.mpr ⟨written, received, sent, valid⟩
    rw [delivers sent accepted valid] at ends
    exact missing (ends accepted)
  · intro condition accepted
    obtain ⟨written, received, sent, valid⟩ := accepts.mp accepted
    rw [delivers sent accepted valid]
    exact (condition.resolve_left written).resolve_left received sent valid

/-- A string that ends is a serial the unique ids can be built from. -/
theorem serials_of_ends {cpu : List UInt8} (cpu_length : cpu.length = 8) (hdc302x scd4x : Words)
    (ends : SerialEnds (hvacSps30GetSerialNumber ctx serialNumber sps30MaxSerialLen write read))
    (accepted : (hvacSps30GetSerialNumber ctx serialNumber sps30MaxSerialLen write read).1 = hvacOk) :
    ∃ serials : Serials, serials.probe =
      { deviceId := (8, cpu), hdc302x := (0, hdc302x), scd4x := (0, scd4x)
        sps30 := ((hvacSps30GetSerialNumber ctx serialNumber sps30MaxSerialLen write read).1,
          textAt sps30MaxSerialLen
            (hvacSps30GetSerialNumber ctx serialNumber sps30MaxSerialLen write read).2.2) } := by
  have fits := length_textAt_lt (ends.terminated accepted)
  refine ⟨⟨cpu, cpu_length, hdc302x, scd4x, _, Nat.le_of_lt_succ fits, nul_not_mem_textAt _ _⟩, ?_⟩
  rw [accepted]
  rfl

end Read

/-- Sixteen words `"00"`: the read succeeds, and a `%s` runs past the buffer. -/
theorem serial_endless :
    let ctx : Ctx := ⟨⟨scd40SlaveAddr, []⟩, scd40SlaveAddr⟩
    let read := answer (List.replicate 16 (0x30, 0x30))
    let result := hvacSps30GetSerialNumber ctx (fun _ => 0) sps30MaxSerialLen 0 read
    result.1 = hvacOk ∧ 32 ∈ stringReads result.2.2 ∧ ¬ SerialEnds result := by
  intro ctx read result
  have accepted : result.1 = hvacOk := by decide +kernel
  have full : ∀ index < 32, result.2.2 index ≠ 0 := by decide +kernel
  refine ⟨accepted, full, fun ends => ?_⟩
  obtain ⟨index, inside, zero⟩ := ends.terminated accepted
  exact full index inside zero

end AirQuality.Uid
