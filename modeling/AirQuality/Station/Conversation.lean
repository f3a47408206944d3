import AirQuality.Station.Boot

/-!
# What the HDC302x is asked

Whatever the sensor and the rest of the hardware answer, the driver's side of the conversation with the HDC302x is
fixed: it is a prefix of one list of transfers. The reset pin, which is active low, is low for the first part of it.
-/

namespace AirQuality.Station
open Foundation Ha Uid Hvac TempHum24

/-- A transfer, and the level of the reset pin at its time. -/
abbrev Request := Bool × Transfer

def asks (rst : Bool) (cmd : UInt16) (length : Nat) : Request :=
  (rst, .writeRead deviceAddressA1A0_00 [high cmd, low cmd] length)

def tells (rst : Bool) (cmd : UInt16) : Request := (rst, .write deviceAddressA1A0_00 [high cmd, low cmd])

def serialRequest (i : Nat) : Request := asks false (cmdReadNistIdBytes5_4 + UInt16.ofNat i) 3

def identification : List Request := (List.range' 0 3).map serialRequest

def activation : List Request := [asks true cmdReadManufacturerId 3, tells true cmdAutoMeas1HzLp0]

/-- The conversation of a station that does not stop, up to the end of its iteration number `iterations`. -/
def conversation (iterations : Nat) : List Request :=
  identification ++ activation ++ List.replicate iterations (asks true cmdAutoMeasRoutTRh 6)

/-- The driver has made the requests `said` and no others, and the reset pin is now at `rst`. -/
structure Spoken (ctx : Temphum24) (rst : Bool) (said : List Request) : Prop where
  rst : ctx.rst = rst
  addr : ctx.i2c.addr = deviceAddressA1A0_00
  transfers : ctx.i2c.transfers = said.map Prod.snd
  levels : ctx.levels = said.map Prod.fst

section Driver
variable {ctx : Temphum24} {rst : Bool} {said : List Request}

theorem Spoken.asksSingle (spoken : Spoken ctx rst said) (cmd dataOut : UInt16) (reply : Reply) :
    Spoken (temphum24WriteThenReadSingle ctx cmd dataOut reply).2.1 rst (said ++ [asks rst cmd 3]) := by
  obtain ⟨level, addr, transfers, levels⟩ := spoken
  refine ⟨level, addr, ?_, ?_⟩
  · simp [temphum24WriteThenReadSingle, i2cMasterWriteThenRead, Temphum24.transferred, asks, addr, transfers]
  · simp [temphum24WriteThenReadSingle, Temphum24.transferred, asks, level, levels]

theorem Spoken.asksMulti (spoken : Spoken ctx rst said) (cmd : UInt16) (dataOut : UInt16 × UInt16) (reply : Reply) :
    Spoken (temphum24WriteThenReadMulti ctx cmd dataOut reply).2.1 rst (said ++ [asks rst cmd 6]) := by
  obtain ⟨level, addr, transfers, levels⟩ := spoken
  refine ⟨level, addr, ?_, ?_⟩
  · simp [temphum24WriteThenReadMulti, i2cMasterWriteThenRead, Temphum24.transferred, asks, addr, transfers]
  · simp [temphum24WriteThenReadMulti, Temphum24.transferred, asks, level, levels]

theorem Spoken.tells (spoken : Spoken ctx rst said) (cmd : UInt16) (write : Int) :
    Spoken (temphum24WriteCmd ctx cmd write).2 rst (said ++ [tells rst cmd]) := by
  obtain ⟨level, addr, transfers, levels⟩ := spoken
  refine ⟨level, addr, ?_, ?_⟩
  · simp [temphum24WriteCmd, i2cMasterWrite, Temphum24.transferred, Station.tells, addr, transfers]
  · simp [temphum24WriteCmd, Temphum24.transferred, Station.tells, level, levels]

theorem Spoken.reset (spoken : Spoken ctx rst said) : Spoken (temphum24ResetDevice ctx) true said :=
  ⟨rfl, spoken.addr, spoken.transfers, spoken.levels⟩

theorem init_spoken (cfg : TempHum24.Cfg) (transfers : ctx.i2c.transfers = []) (levels : ctx.levels = [])
    (addressed : cfg.i2cAddress = deviceAddressA1A0_00) :
    (temphum24Init ctx cfg).1 = i2cMasterSuccess ∧ Spoken (temphum24Init ctx cfg).2 false [] := by
  have init : temphum24Init ctx cfg =
      (i2cMasterSuccess, { ctx with
        rst := false, slaveAddress := cfg.i2cAddress, i2c := { ctx.i2c with addr := cfg.i2cAddress } }) := by
    simp [temphum24Init, i2cMasterOpen, i2cMasterSetSlaveAddress, i2cMasterSetSpeed, i2cMasterSuccess, i2cMasterError]
  rw [init]
  exact ⟨rfl, rfl, addressed, transfers, levels⟩

theorem readSerialNumber_follows (spoken : Spoken ctx false said) (replies : Nat → Reply) (words i : Nat)
    (serialNumber : Nat → UInt16) :
    Follows Spoken (readSerialNumber replies words i ctx serialNumber).2.1 false said
      ((List.range' i words).map serialRequest) (¬ (readSerialNumber replies words i ctx serialNumber).1 < 0) := by
  induction words generalizing i ctx said serialNumber with
  | zero =>
    apply follows_all
    rw [List.range'_zero, List.map_nil, List.append_nil]
    exact spoken
  | succ words ih =>
    have asked : Follows Spoken _ false said [serialRequest i] True :=
      follows_all (spoken.asksSingle (cmdReadNistIdBytes5_4 + UInt16.ofNat i) (serialNumber i) (replies i)) True
    rw [readSerialNumber, List.range'_succ, List.map_cons]
    dsimp only
    split
    · rename_i failed
      exact asked.left (not_not.mpr failed) false _
    · exact asked.trans trivial fun spoken' => ih spoken' (i + 1) _

theorem defaultCfg_follows (spoken : Spoken ctx rst said) (check : Reply) (write : Int) :
    Follows Spoken (temphum24DefaultCfg ctx check write).2 true said activation
      (¬ (temphum24DefaultCfg ctx check write).1 < 0) := by
  have asked : Follows Spoken _ true said [asks true cmdReadManufacturerId 3] True :=
    follows_all (spoken.reset.asksSingle cmdReadManufacturerId 0 check) True
  have failed : temphum24Error < 0 := by decide
  unfold temphum24DefaultCfg
  dsimp only
  split
  · exact asked.left (not_not.mpr failed) true [tells true cmdAutoMeas1HzLp0]
  · exact asked.trans trivial fun spoken' => follows_all (spoken'.tells cmdAutoMeas1HzLp0 write) _

end Driver

/-! ### The station's parts -/

theorem uidInitBoards_follows (power : PowerOn) {boards : Boards} (spoken : Spoken boards.temphum24 false []) :
    Follows (fun boards => Spoken boards.temphum24) (uidInitBoards power boards).2.2 false [] identification
      (¬ (uidInitBoards power boards).1 < 0) := by
  have serial := readSerialNumber_follows spoken power.hdc302xSerial 3 0 power.hdc302xWords
  have read : ∀ {failure : Option FormatError} {code : Int} {words : Words} {text : Text},
      ¬ (wordsAsString failure code words text uidUniqueIdStringSize).1 < 0 → ¬ code < 0 := by
    intro failure code words text passed failed
    rw [wordsAsString, if_pos failed] at passed
    exact passed failed
  unfold uidInitBoards temphum24GetSerialNumber
  dsimp only
  split
  · rename_i failed
    exact follows_none spoken (not_not.mpr failed) false _
  · split
    · rename_i failed
      exact serial.mono fun passed => absurd failed passed
    · rename_i passed
      have complete := serial.mono fun (_ : True) => read passed
      split
      · exact complete.mono fun _ => trivial
      · split
        · exact complete.mono fun _ => trivial
        · exact complete.mono fun _ => trivial

theorem initHvacClick_temphum24 (power : PowerOn) (boards : Boards) :
    (initHvacClick power boards).2.temphum24 = boards.temphum24 := by
  unfold initHvacClick
  dsimp only
  split
  · rfl
  · rfl

theorem identify_follows (power : PowerOn) {boards : Boards} (transfers : boards.temphum24.i2c.transfers = [])
    (levels : boards.temphum24.levels = []) :
    Follows (fun boards => Spoken boards.temphum24) (identify power boards).2 false [] identification ((identify power boards).1 ≠ none) := by
  obtain ⟨ok, spoken⟩ := init_spoken (temphum24CfgSetup ⟨0, 0⟩) transfers levels rfl
  have positive : ¬ i2cMasterSuccess < 0 := by decide
  have spoken' : Spoken (initHvacClick power (initTemphum24Click boards).2).2.temphum24 false [] := by
    rw [initHvacClick_temphum24]
    exact spoken
  have serial := uidInitBoards_follows power spoken'
  have started : ¬ (initTemphum24Click boards).1 < 0 := by
    show ¬ (temphum24Init boards.temphum24 (temphum24CfgSetup ⟨0, 0⟩)).1 < 0
    rw [ok]
    exact positive
  unfold identify
  dsimp only
  rw [if_neg started]
  split
  · exact follows_none spoken' (fun known => known rfl) false _
  · split
    · exact serial.mono fun known => absurd rfl known
    · rename_i passed
      split
      · exact serial.mono fun known => absurd rfl known
      · exact serial.mono fun _ => passed

theorem startSensorMeasurements_follows (power : PowerOn) {boards : Boards} {rst : Bool} {said : List Request}
    (spoken : Spoken boards.temphum24 rst said) :
    Follows (fun boards => Spoken boards.temphum24) (startSensorMeasurements power boards).2 true said activation
      (¬ (startSensorMeasurements power boards).1 < 0) := by
  have follows := defaultCfg_follows spoken power.check power.startTemphum24
  unfold startSensorMeasurements
  dsimp only
  split
  · rename_i failed
    exact follows.mono fun passed => absurd failed passed
  · rename_i passed
    exact follows.mono fun _ => passed

theorem sample_spoken (single : UInt32 → ℚ) {boards : Boards} {rst : Bool} {said : List Request}
    (spoken : Spoken boards.temphum24 rst said) (answers : Answers) :
    Spoken (sample single boards answers).2.temphum24 rst (said ++ [asks rst cmdAutoMeasRoutTRh 6]) :=
  spoken.asksMulti cmdAutoMeasRoutTRh (0, 0) answers.temphum24

section Network
variable {σ : Type*} (publish : Publish σ) (single : UInt32 → ℚ)

/-- The boards with nothing said to the HDC302x yet. -/
def Boards.silent (boards : Boards) : Boards :=
  { boards with temphum24 := { boards.temphum24 with i2c := { boards.temphum24.i2c with transfers := [] }, levels := [] } }

/-- In every run the requests to the HDC302x are a prefix of one conversation, and all of it while the station runs:
its serial number is read word by word with the reset pin low, then the pin is raised, and the manufacturer id, the
start command and one measurement an iteration follow. -/
theorem conversation_kept (init : Init σ) (platform : Platform) (patience : Patience) (power : PowerOn) (boards : Boards)
    (net : σ) (turns : List Answers) :
    let rig := Rig.main publish single init platform patience power boards.silent net turns
    ∃ said level, Spoken rig.boards.temphum24 level said ∧ said <+: conversation turns.length ∧
      (rig.app.blocked = false → said = conversation turns.length ∧ level = true) := by
  intro rig
  have identified := @identify_follows power boards.silent rfl rfl
  have follows := Rig.main_follows publish single init platform patience net
    (fun rst _ => [asks rst cmdAutoMeasRoutTRh 6]) (fun rst _ => rst) identified
    (fun _ spoken => startSensorMeasurements_follows power spoken)
    (fun _ _ _ spoken answers => sample_spoken single spoken answers) turns
  rw [runScript_same _ fun _ => rfl, ← List.append_assoc] at follows
  obtain ⟨said, level, part, spoken, all⟩ := follows
  rw [List.foldl_fixed] at all
  exact ⟨said, level, spoken, part, all⟩

end Network

end AirQuality.Station
