import AirQuality.Hvac.Frame
import AirQuality.Hvac.Address
import AirQuality.Station.Boot

/-!
# What the SCD4x and the SPS30 are sent

The two sensors of the other board share one context, and with it the address that the next transfer goes to. An SPS30
read that fails leaves its own address there, and the measurement that is next asked of the SCD4x goes to the SPS30.
Nothing else is misdirected, and nothing that is meant for the SPS30 reaches the SCD4x.
-/

namespace AirQuality.Station
open Foundation Ha Uid Hvac TempHum24

/-- The address that an SPS30 read leaves. -/
def addrAfter (write : Int) (read : Reply) : UInt8 :=
  if write < 0 ∨ read.code < 0 then sps30SlaveAddr else scd40SlaveAddr

def resetScript : List Transfer :=
  [.write scd40SlaveAddr [high stopPeriodicMeasurement, low stopPeriodicMeasurement],
    .write scd40SlaveAddr [high reinit, low reinit]]

def serialScript (power : PowerOn) : List Transfer :=
  .writeRead scd40SlaveAddr [high getSerialNumber, low getSerialNumber] 9 ::
    sps30Read sps30ReadSerialNumber 16 power.sps30Write

def startScript : List Transfer :=
  [.write scd40SlaveAddr [high startPeriodicMeasurement, low startPeriodicMeasurement],
    .write sps30SlaveAddr [high sps30StartMeasurementReg, low sps30StartMeasurementReg, high sps30ReadMeasuredValue,
      low sps30ReadMeasuredValue, devCalcCrc (high sps30ReadMeasuredValue) (low sps30ReadMeasuredValue)]]

/-- An iteration that finds the address `addr`. -/
def iterationScript (addr : UInt8) (answers : Answers) : List Transfer :=
  .writeRead addr [high readMeasurement, low readMeasurement] 15 ::
    sps30Read sps30ReadMeasuredValue 20 answers.sps30Write

def addrAfterIteration (_addr : UInt8) (answers : Answers) : UInt8 := addrAfter answers.sps30Write answers.sps30

def hvacScript (power : PowerOn) (turns : List Answers) : List Transfer :=
  (resetScript ++ serialScript power) ++
    (startScript ++ runScript iterationScript addrAfterIteration scd40SlaveAddr turns)

/-- A command of the SCD4x. -/
def Scd40Command : Transfer → Prop
  | .write _ bytes => ∃ cmd ∈ [stopPeriodicMeasurement, reinit, startPeriodicMeasurement], bytes = [high cmd, low cmd]
  | .writeRead _ bytes length => (bytes = [high getSerialNumber, low getSerialNumber] ∧ length = 9) ∨
      (bytes = [high readMeasurement, low readMeasurement] ∧ length = 15)
  | .read _ _ => False

theorem iterations_scd40 (addr : UInt8) (turns : List Answers) :
    ∀ transfer ∈ runScript iterationScript addrAfterIteration addr turns, transfer.addr = scd40SlaveAddr →
      Scd40Command transfer := by
  have other : sps30SlaveAddr ≠ scd40SlaveAddr := by decide
  induction turns generalizing addr with
  | nil => exact fun _ member => absurd member List.not_mem_nil
  | cons answers rest ih =>
    intro transfer member addressed
    rcases List.mem_append.mp member with now | later
    · rcases List.mem_cons.mp now with rfl | read
      · exact Or.inr ⟨rfl, rfl⟩
      · exact absurd ((sps30Read_addr transfer read).symm.trans addressed) other
    · exact ih _ transfer later addressed

/-- The SCD4x is sent its own commands only. -/
theorem hvacScript_scd40 (power : PowerOn) (turns : List Answers) :
    ∀ transfer ∈ hvacScript power turns, transfer.addr = scd40SlaveAddr → Scd40Command transfer := by
  have other : sps30SlaveAddr ≠ scd40SlaveAddr := by decide
  intro transfer member addressed
  unfold hvacScript at member
  rcases List.mem_append.mp member with identifying | running
  · rcases List.mem_append.mp identifying with reset | serial
    · simp only [resetScript, List.mem_cons, List.not_mem_nil, or_false] at reset
      rcases reset with rfl | rfl
      · exact ⟨stopPeriodicMeasurement, by simp, rfl⟩
      · exact ⟨reinit, by simp, rfl⟩
    · rcases List.mem_cons.mp serial with rfl | read
      · exact Or.inl ⟨rfl, rfl⟩
      · exact absurd ((sps30Read_addr transfer read).symm.trans addressed) other
  · rcases List.mem_append.mp running with start | iterations
    · simp only [startScript, List.mem_cons, List.not_mem_nil, or_false] at start
      rcases start with rfl | rfl
      · exact ⟨startPeriodicMeasurement, by simp, rfl⟩
      · exact absurd addressed other
    · exact iterations_scd40 _ turns transfer iterations addressed

/-- The next transfer goes to `addr`, and `sent` has been sent so far. -/
structure Addressed (ctx : Ctx) (addr : UInt8) (sent : List Transfer) : Prop where
  addr : ctx.i2c.addr = addr
  transfers : ctx.i2c.transfers = sent

section Driver
variable {addr : UInt8} {sent : List Transfer}

theorem Addressed.reads {ctx : Ctx} (addressed : Addressed ctx addr sent) (reg : UInt16) (words : Nat) (write : Int)
    (read : Reply) :
    Addressed (hvacSps30I2cReadDataAsBytes ctx reg words write read).2 (addrAfter write read)
      (sent ++ sps30Read reg words write) := by
  refine ⟨readDataAsBytes_addr ctx reg words write read, ?_⟩
  rw [readDataAsBytes_sent, addressed.transfers]

theorem sample_addressed (single : UInt32 → ℚ) {boards : Boards} (addressed : Addressed boards.hvac addr sent)
    (answers : Answers) :
    Addressed (sample single boards answers).2.hvac (addrAfterIteration addr answers)
      (sent ++ iterationScript addr answers) := by
  have sampled : (sample single boards answers).2.hvac =
      (hvacSps30I2cReadDataAsBytes (hvacScd40ReadMeasurement boards.hvac boards.hvacData answers.scd40).2.1
        sps30ReadMeasuredValue 20 answers.sps30Write answers.sps30).2 := readMeasuredData_ctx _ _ _ _ _
  have asked : Addressed (hvacScd40ReadMeasurement boards.hvac boards.hvacData answers.scd40).2.1 addr
      (sent ++ [.writeRead addr [high readMeasurement, low readMeasurement] 15]) := by
    obtain ⟨here, transfers⟩ := addressed
    rw [readMeasurement_ctx]
    refine ⟨here, ?_⟩
    rw [← here, ← transfers]
    rfl
  have read := asked.reads sps30ReadMeasuredValue 20 answers.sps30Write answers.sps30
  rw [List.append_assoc] at read
  rw [sampled]
  exact read

theorem initHvacClick_addressed (power : PowerOn) (boards : Boards) :
    (initHvacClick power boards).1 = 0 ∧ Addressed (initHvacClick power boards).2.hvac scd40SlaveAddr
      (boards.hvac.i2c.transfers ++ resetScript) := by
  have init : hvacInit boards.hvac (hvacCfgSetup ⟨0, 0⟩) =
      (i2cMasterSuccess, { boards.hvac with
        slaveAddress := scd40SlaveAddr, i2c := { boards.hvac.i2c with addr := scd40SlaveAddr } }) := by
    simp [hvacInit, hvacCfgSetup, i2cMasterOpen, i2cMasterSetSlaveAddress, i2cMasterSetSpeed, i2cMasterSuccess,
      i2cMasterError]
  have passed : ¬ i2cMasterSuccess < 0 := by decide
  unfold initHvacClick
  rw [init]
  dsimp only
  rw [if_neg passed]
  refine ⟨rfl, rfl, ?_⟩
  exact List.append_assoc _ _ _

theorem sps30GetSerialNumber_follows {ctx : Ctx} (addressed : Addressed ctx addr sent) (write : Int) (read : Reply) :
    let result := hvacSps30GetSerialNumber ctx (fun _ => 0) sps30MaxSerialLen write read
    Follows Addressed result.2.1 scd40SlaveAddr sent (sps30Read sps30ReadSerialNumber 16 write) (¬ result.1 < 0) := by
  intro result
  have whole : ¬ sps30MaxSerialLen < sps30MaxSerialLen := lt_irrefl _
  have after : result.2.1 = (hvacSps30I2cReadDataAsBytes ctx sps30ReadSerialNumber 16 write read).2 :=
    (sps30GetSerialNumber_ctx ctx _ sps30MaxSerialLen write read).trans (if_neg whole)
  have read' := addressed.reads sps30ReadSerialNumber 16 write read
  rw [← after] at read'
  refine ⟨_, _, List.prefix_refl _, read', fun passed => ⟨rfl, if_neg fun failed => passed ?_⟩⟩
  obtain ⟨code, negative, decoding⟩ := readDataAsBytes_failed ctx sps30ReadSerialNumber 16 failed
  have refused : code ≠ 0 := by omega
  show (hvacSps30GetSerialNumber ctx (fun _ => 0) sps30MaxSerialLen write read).1 < 0
  unfold hvacSps30GetSerialNumber
  rw [if_neg whole, show sps30MaxSerialLen / sps30WordSize = 16 from rfl]
  dsimp only
  rw [decoding, if_pos refused]
  exact negative

theorem uidInitBoards_addressed (power : PowerOn) {boards : Boards}
    (addressed : Addressed boards.hvac scd40SlaveAddr sent) :
    Follows (fun boards => Addressed boards.hvac) (uidInitBoards power boards).2.2 scd40SlaveAddr sent
      (serialScript power) (¬ (uidInitBoards power boards).1 < 0) := by
  have asked : Follows Addressed (hvacScd40GetSerialNumber boards.hvac power.scd4xWords power.scd4xSerial).2.1
      scd40SlaveAddr sent [.writeRead scd40SlaveAddr [high getSerialNumber, low getSerialNumber] 9] True := by
    obtain ⟨here, transfers⟩ := addressed
    apply follows_all
    rw [scd40GetSerialNumber_ctx]
    refine ⟨here, ?_⟩
    rw [← here, ← transfers]
    rfl
  have read := asked.trans trivial fun addressed' =>
    sps30GetSerialNumber_follows addressed' power.sps30Write power.sps30Serial
  unfold uidInitBoards
  dsimp only
  split
  · rename_i failed
    exact follows_none addressed (not_not.mpr failed) _ _
  · split
    · rename_i failed
      exact follows_none addressed (not_not.mpr failed) _ _
    · split
      · rename_i failed
        exact asked.left (not_not.mpr failed) _ _
      · split
        · exact read.mono id
        · rename_i passed
          exact read.mono fun _ => passed

theorem identify_addressed (power : PowerOn) (boards : Boards) :
    Follows (fun boards => Addressed boards.hvac) (identify power boards).2 scd40SlaveAddr boards.hvac.i2c.transfers
      (resetScript ++ serialScript power) ((identify power boards).1 ≠ none) := by
  obtain ⟨passed, addressed⟩ := initHvacClick_addressed power (initTemphum24Click boards).2
  have reset : Follows (fun boards => Addressed boards.hvac) (initHvacClick power (initTemphum24Click boards).2).2
    scd40SlaveAddr boards.hvac.i2c.transfers resetScript True := follows_all addressed True
  have serial := reset.trans trivial fun addressed' => uidInitBoards_addressed power addressed'
  unfold identify
  dsimp only
  split
  · exact follows_none ⟨rfl, rfl⟩ (fun known => known rfl) _ _
  · rw [passed, if_neg (lt_irrefl 0)]
    split
    · exact serial.mono fun known => absurd rfl known
    · rename_i named
      split
      · exact serial.mono fun known => absurd rfl known
      · exact serial.mono fun _ => named

theorem startSensorMeasurements_addressed (power : PowerOn) {boards : Boards}
    (addressed : Addressed boards.hvac scd40SlaveAddr sent) :
    Follows (fun boards => Addressed boards.hvac) (startSensorMeasurements power boards).2 scd40SlaveAddr sent startScript
      (¬ (startSensorMeasurements power boards).1 < 0) := by
  obtain ⟨here, transfers⟩ := addressed
  unfold startSensorMeasurements
  dsimp only
  split
  · rename_i failed
    exact follows_none ⟨here, transfers⟩ (not_not.mpr failed) _ _
  · refine follows_all ⟨rfl, ?_⟩ _
    unfold startScript
    rw [← here, ← transfers]
    exact List.append_assoc _ _ _

end Driver

/-- Over the whole run the SCD4x and the SPS30 are sent a part of one script, and all of it while the station runs. In
it the SPS30's commands go to the SPS30, and the SCD4x's to the SCD4x, but for the measurement asked of the SCD4x in an
iteration after a failed SPS30 read; and the SCD4x is sent its own commands only. -/
theorem hvac_addressed {σ : Type*} (publish : Publish σ) (single : UInt32 → ℚ) (init : Init σ) (platform : Platform)
    (patience : Patience) (power : PowerOn) (boards : Boards) (net : σ) (turns : List Answers) :
    let rig := Rig.main publish single init platform patience power boards net turns
    ∃ sent, rig.boards.hvac.i2c.transfers = boards.hvac.i2c.transfers ++ sent ∧ sent <+: hvacScript power turns ∧
      (rig.app.blocked = false → sent = hvacScript power turns) ∧
      ∀ transfer ∈ sent, transfer.addr = scd40SlaveAddr → Scd40Command transfer := by
  intro rig
  have follows := Rig.main_follows publish single init platform patience net iterationScript addrAfterIteration
    (identify_addressed power boards) (fun _ addressed => startSensorMeasurements_addressed power addressed)
    (fun _ _ _ addressed answers => sample_addressed single addressed answers) turns
  obtain ⟨sent, _, part, addressed, all⟩ := follows
  refine ⟨sent, addressed.transfers, part, fun running => (all running).1, ?_⟩
  exact fun transfer member => hvacScript_scd40 power turns transfer (part.subset member)

end AirQuality.Station
