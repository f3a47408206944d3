import AirQuality.Foundation.Transition
import AirQuality.Hvac.Driver

/-!
# The shared slave address

Both sensors are driven through one `I2cMaster`, and the SCD4x functions rely on finding its
address at `scd40SlaveAddr`. Every SPS30 write puts it back, and an SPS30 read does when both of its
transfers succeed; a read that fails returns early and leaves the SPS30 address behind.
-/

namespace AirQuality.Hvac
open Foundation

/-- A call of the application, with what the bus answers and the buffers it is given. -/
inductive Call where
  | scd40SendCmd (cmd : UInt16) (write : Int)
  | scd40ReadMeasurement (readData : MeasuremenData) (reply : Reply)
  | scd40GetSerialNumber (serialNumber : UInt16 × UInt16 × UInt16) (reply : Reply)
  | sps30StartMeasurement (write : Int)
  | sps30ReadMeasuredData (mNCData : MassAndNumCntData) (data : Nat → UInt8) (write : Int) (read : Reply)
  | sps30GetSerialNumber (serialNumber : Nat → UInt8) (size : Nat) (write : Int) (read : Reply)

def perform (ctx : Ctx) : Call → Ctx
  | .scd40SendCmd cmd write => hvacScd40SendCmd ctx cmd write
  | .scd40ReadMeasurement readData reply => (hvacScd40ReadMeasurement ctx readData reply).2.1
  | .scd40GetSerialNumber serialNumber reply => (hvacScd40GetSerialNumber ctx serialNumber reply).2.1
  | .sps30StartMeasurement write => hvacSps30StartMeasurement ctx write
  | .sps30ReadMeasuredData mNCData data write read =>
    (hvacSps30ReadMeasuredData ctx mNCData data write read).2.1
  | .sps30GetSerialNumber serialNumber size write read =>
    (hvacSps30GetSerialNumber ctx serialNumber size write read).2.1

def Call.device : Call → UInt8
  | .scd40SendCmd .. | .scd40ReadMeasurement .. | .scd40GetSerialNumber .. => scd40SlaveAddr
  | .sps30StartMeasurement .. | .sps30ReadMeasuredData .. | .sps30GetSerialNumber .. => sps30SlaveAddr

/-- One of the two transfers of an SPS30 read fails. -/
def Call.ReadFails : Call → Prop
  | .sps30ReadMeasuredData _ _ write read => write < 0 ∨ read.code < 0
  | .sps30GetSerialNumber _ size write read => sps30MaxSerialLen ≤ size ∧ (write < 0 ∨ read.code < 0)
  | _ => False

def transfersOf (before : Ctx) (call : Call) : List Transfer :=
  (perform before call).i2c.transfers.drop before.i2c.transfers.length

/-- The call leaves the SCD4x address and reaches only the sensor it is meant for. -/
def RestoresAddress (before : Ctx) (call : Call) : Prop :=
  (perform before call).i2c.addr = scd40SlaveAddr ∧
    ∀ transfer ∈ transfersOf before call, transfer.addr = call.device

/-! ### Calls -/

theorem hvacInit_addr (ctx : Ctx) (cfg : Cfg) :
    (hvacInit ctx cfg).1 = i2cMasterSuccess ∧ (hvacInit ctx cfg).2.i2c.addr = cfg.i2cAddress := by
  simp [hvacInit, i2cMasterOpen, i2cMasterSetSlaveAddress, i2cMasterSetSpeed, i2cMasterSuccess,
    i2cMasterError]

theorem readMeasurement_ctx (ctx : Ctx) (readData : MeasuremenData) (reply : Reply) :
    (hvacScd40ReadMeasurement ctx readData reply).2.1 =
      { ctx with i2c := (i2cMasterWriteThenRead ctx.i2c [high readMeasurement, low readMeasurement] 15
          reply).2 } := by
  by_cases failed : reply.code < 0 <;>
    simp [hvacScd40ReadMeasurement, i2cMasterWriteThenRead, failed]

theorem scd40GetSerialNumber_ctx (ctx : Ctx) (serialNumber : UInt16 × UInt16 × UInt16) (reply : Reply) :
    (hvacScd40GetSerialNumber ctx serialNumber reply).2.1 =
      { ctx with i2c := (i2cMasterWriteThenRead ctx.i2c [high getSerialNumber, low getSerialNumber] 9
          reply).2 } := by
  by_cases failed : reply.code < 0 <;>
    simp [hvacScd40GetSerialNumber, i2cMasterWriteThenRead, failed]

theorem readDataAsBytes_addr (ctx : Ctx) (reg : UInt16) (numWords : Nat) (write : Int) (read : Reply) :
    (hvacSps30I2cReadDataAsBytes ctx reg numWords write read).2.i2c.addr =
      if write < 0 ∨ read.code < 0 then sps30SlaveAddr else scd40SlaveAddr := by
  by_cases written : write < 0
  · simp [hvacSps30I2cReadDataAsBytes, i2cMasterSetSlaveAddress, i2cMasterWrite, written]
  · by_cases received : read.code < 0 <;>
      simp [hvacSps30I2cReadDataAsBytes, i2cMasterSetSlaveAddress, i2cMasterWrite, i2cMasterRead,
        written, received]

theorem readDataAsBytes_transfers (ctx : Ctx) (reg : UInt16) (numWords : Nat) (write : Int) (read : Reply) :
    ∃ sent, (hvacSps30I2cReadDataAsBytes ctx reg numWords write read).2.i2c.transfers =
        ctx.i2c.transfers ++ sent ∧
      ∀ transfer ∈ sent, transfer.addr = sps30SlaveAddr := by
  by_cases written : write < 0
  · exact ⟨[.write sps30SlaveAddr [high reg, low reg]], by
      simp [hvacSps30I2cReadDataAsBytes, i2cMasterSetSlaveAddress, i2cMasterWrite, written],
      by simp [Transfer.addr]⟩
  · refine ⟨[.write sps30SlaveAddr [high reg, low reg],
      .read sps30SlaveAddr (numWords * (sps30WordSize + sps30Crc8Len))], ?_, by simp [Transfer.addr]⟩
    by_cases received : read.code < 0 <;>
      simp [hvacSps30I2cReadDataAsBytes, i2cMasterSetSlaveAddress, i2cMasterWrite, i2cMasterRead,
        written, received]

theorem readMeasuredData_ctx (ctx : Ctx) (mNCData : MassAndNumCntData) (data : Nat → UInt8) (write : Int)
    (read : Reply) :
    (hvacSps30ReadMeasuredData ctx mNCData data write read).2.1 =
      (hvacSps30I2cReadDataAsBytes ctx sps30ReadMeasuredValue (40 / sps30WordSize) write read).2 := by
  simp only [hvacSps30ReadMeasuredData]
  split <;> rfl

theorem sps30GetSerialNumber_ctx (ctx : Ctx) (serialNumber : Nat → UInt8) (size : Nat) (write : Int)
    (read : Reply) :
    (hvacSps30GetSerialNumber ctx serialNumber size write read).2.1 =
      if size < sps30MaxSerialLen then ctx
      else (hvacSps30I2cReadDataAsBytes ctx sps30ReadSerialNumber (size / sps30WordSize) write read).2 := by
  simp only [hvacSps30GetSerialNumber]
  split
  · rfl
  · split <;> rfl

theorem perform_addr {before : Ctx} (scd : before.i2c.addr = scd40SlaveAddr) (call : Call) :
    (perform before call).i2c.addr = scd40SlaveAddr ↔ ¬ call.ReadFails := by
  have other : sps30SlaveAddr ≠ scd40SlaveAddr := by decide
  cases call with
  | scd40SendCmd cmd write =>
    simpa [perform, hvacScd40SendCmd, i2cMasterWrite, Call.ReadFails] using scd
  | scd40ReadMeasurement readData reply =>
    simpa [perform, readMeasurement_ctx, i2cMasterWriteThenRead, Call.ReadFails] using scd
  | scd40GetSerialNumber serialNumber reply =>
    simpa [perform, scd40GetSerialNumber_ctx, i2cMasterWriteThenRead, Call.ReadFails] using scd
  | sps30StartMeasurement write =>
    simp [perform, hvacSps30StartMeasurement, hvacSps30I2cWriteData, i2cMasterSetSlaveAddress,
      i2cMasterWrite, Call.ReadFails]
  | sps30ReadMeasuredData mNCData data write read =>
    simp only [perform, readMeasuredData_ctx, readDataAsBytes_addr, Call.ReadFails]
    split <;> simp_all
  | sps30GetSerialNumber serialNumber size write read =>
    simp only [perform, sps30GetSerialNumber_ctx, Call.ReadFails]
    by_cases short : size < sps30MaxSerialLen
    · simp [if_pos short, scd, show ¬ sps30MaxSerialLen ≤ size by omega]
    · rw [if_neg short, readDataAsBytes_addr]
      have long : sps30MaxSerialLen ≤ size := by omega
      split <;> simp_all

theorem perform_transfers {before : Ctx} (scd : before.i2c.addr = scd40SlaveAddr) (call : Call) :
    ∀ transfer ∈ transfersOf before call, transfer.addr = call.device := by
  suffices appended : ∃ sent, (perform before call).i2c.transfers = before.i2c.transfers ++ sent ∧
      ∀ transfer ∈ sent, transfer.addr = call.device by
    obtain ⟨sent, same, addressed⟩ := appended
    simpa [transfersOf, same] using addressed
  cases call with
  | scd40SendCmd cmd write =>
    exact ⟨[.write before.i2c.addr [high cmd, low cmd]], rfl, by simp [Transfer.addr, Call.device, scd]⟩
  | scd40ReadMeasurement readData reply =>
    simp only [perform, readMeasurement_ctx]
    exact ⟨_, rfl, by simp [Transfer.addr, Call.device, scd]⟩
  | scd40GetSerialNumber serialNumber reply =>
    simp only [perform, scd40GetSerialNumber_ctx]
    exact ⟨_, rfl, by simp [Transfer.addr, Call.device, scd]⟩
  | sps30StartMeasurement write =>
    exact ⟨_, rfl, by simp [Transfer.addr, Call.device, i2cMasterSetSlaveAddress]⟩
  | sps30ReadMeasuredData mNCData data write read =>
    simp only [perform, readMeasuredData_ctx, Call.device]
    exact readDataAsBytes_transfers before _ _ write read
  | sps30GetSerialNumber serialNumber size write read =>
    simp only [perform, sps30GetSerialNumber_ctx, Call.device]
    split
    · exact ⟨[], by simp, by simp⟩
    · exact readDataAsBytes_transfers before _ _ write read

/-- After `hvac_init` with the driver's own configuration, the address survives every call of a run
exactly when no SPS30 read of the run has a failing transfer. -/
theorem address_restored_iff (ctx : Ctx) (cfg : Cfg) (calls : List Call) :
    Along perform RestoresAddress (hvacInit ctx (hvacCfgSetup cfg)).2 calls ↔
      ∀ call ∈ calls, ¬ call.ReadFails := by
  have each : ∀ (before : Ctx) (call : Call), before.i2c.addr = scd40SlaveAddr →
      (RestoresAddress before call ↔ ¬ call.ReadFails) := by
    intro before call scd
    constructor
    · intro restores
      exact (perform_addr scd call).mp restores.1
    · intro succeeds
      exact ⟨(perform_addr scd call).mpr succeeds, perform_transfers scd call⟩
  have keep : ∀ (before : Ctx) (call : Call), before.i2c.addr = scd40SlaveAddr → RestoresAddress before call →
      (perform before call).i2c.addr = scd40SlaveAddr := by
    intro before call _ restores
    exact restores.1
  exact along_iff_forall each keep (hvacInit_addr ctx (hvacCfgSetup cfg)).2 calls

/-- An SPS30 read that fails on the bus sends the next SCD4x read to the SPS30. -/
theorem address_restored_fails :
    ¬ Along perform RestoresAddress (hvacInit ⟨⟨0, []⟩, 0⟩ (hvacCfgSetup ⟨0, 0⟩)).2
      [.sps30ReadMeasuredData ⟨0, 0, 0, 0, 0, 0, 0, 0, 0, 0⟩ (fun _ => 0) (-5) ⟨0, fun _ => 0⟩,
        .scd40ReadMeasurement ⟨0, 0, 0, 0, 0⟩ ⟨0, fun _ => 0⟩] := by
  rintro ⟨⟨addr, _⟩, _⟩
  exact absurd addr (by decide)

end AirQuality.Hvac
