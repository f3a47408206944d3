import AirQuality.Foundation.Procedure
import AirQuality.Hvac.Frame
import AirQuality.Station.Loop
import AirQuality.TempHum24.Driver

/-!
# The station on its buses

`main` from `init_temphum24_click` on, with the two click boards it reads. What the buses and the rest of the
hardware answer is an input, and the drivers of the boards compute from it what `Station.main` takes as given: the
unique ids, and the outcome of every read.
-/

namespace AirQuality.Station
open Foundation Ha Uid Hvac TempHum24

def stopPeriodicMeasurement : UInt16 := 0x3F86
def reinit : UInt16 := 0x3646
def startPeriodicMeasurement : UInt16 := 0x21B1

/-- The click boards, and the variables of `main` they are read into. -/
structure Boards where
  temphum24 : Temphum24
  hvac : Ctx
  temperature : ℚ
  humidity : ℚ
  hvacData : MeasuremenData
  sps30Data : MassAndNumCntData

/-- What the hardware answers before the sampling loop; the words on the stack are what `uid_init` finds in its
variables. -/
structure PowerOn where
  cpu : List UInt8
  cpu_length : cpu.length = 8
  deviceId : Int
  watchdogTriggered : Bool
  stop : Int
  reinit : Int
  hdc302xSerial : Nat → Reply
  hdc302xWords : Nat → UInt16
  hdc302xFailure : Option FormatError
  scd4xSerial : Reply
  scd4xWords : Words
  scd4xFailure : Option FormatError
  sps30Write : Int
  sps30Serial : Reply
  failure : SensorId → Option FormatError
  check : Reply
  startTemphum24 : Int
  startScd4x : Int
  startSps30 : Int

/-- What the buses answer to the reads of an iteration; `data` is what the stack holds where
`hvac_sps30_read_measured_data` keeps its bytes. -/
structure Answers where
  temphum24 : Reply
  scd40 : Reply
  sps30Write : Int
  sps30 : Reply
  data : Nat → UInt8
  patience : Nat

def initTemphum24Click (boards : Boards) : Int × Boards :=
  let (ret, temphum24) := temphum24Init boards.temphum24 (temphum24CfgSetup ⟨0, 0⟩)
  (ret, { boards with temphum24 })

def scd4xReset (power : PowerOn) (hvac : Ctx) : Ctx :=
  let hvac := hvacScd40SendCmd hvac stopPeriodicMeasurement power.stop
  hvacScd40SendCmd hvac reinit power.reinit

def initHvacClick (power : PowerOn) (boards : Boards) : Int × Boards :=
  let (ret, hvac) := hvacInit boards.hvac (hvacCfgSetup ⟨0, 0⟩)
  if ret < 0 then (ret, { boards with hvac }) else (0, { boards with hvac := scd4xReset power hvac })

/-- `uid_init` with the reads its helpers make. -/
def uidInitBoards (power : PowerOn) (boards : Boards) : Int × Strings × Boards :=
  let strings : Strings := {}
  let (ret, text) := getDeviceIdAsString power.deviceId power.cpu strings.deviceIdHexString
  let strings := { strings with deviceIdHexString := text }
  if ret < 0 then (ret, strings, boards) else
  let (read, temphum24, words) := temphum24GetSerialNumber boards.temphum24 power.hdc302xWords power.hdc302xSerial
  let boards := { boards with temphum24 }
  let (ret, text) := wordsAsString power.hdc302xFailure read (words 0, words 1, words 2) strings.hdc302xSerialString
    uidUniqueIdStringSize
  let strings := { strings with hdc302xSerialString := text }
  if ret < 0 then (ret, strings, boards) else
  let (read, hvac, words) := hvacScd40GetSerialNumber boards.hvac power.scd4xWords power.scd4xSerial
  let boards := { boards with hvac }
  let (ret, text) := wordsAsString power.scd4xFailure read words strings.scd4xSerialString uidUniqueIdStringSize
  let strings := { strings with scd4xSerialString := text }
  if ret < 0 then (ret, strings, boards) else
  let (read, hvac, serialNumber) :=
    hvacSps30GetSerialNumber boards.hvac (fun _ => 0) sps30MaxSerialLen power.sps30Write power.sps30Serial
  let boards := { boards with hvac }
  let strings := { strings with sps30SerialString := textAt sps30MaxSerialLen serialNumber }
  if read < 0 then (read, strings, boards) else (0, strings, boards)

/-- From `init_temphum24_click` to `uid_fill_unique_ids`, or to the first error. -/
def identify (power : PowerOn) (boards : Boards) : Option Identity × Boards :=
  let (ret, boards) := initTemphum24Click boards
  if ret < 0 then (none, boards) else
  let (ret, boards) := initHvacClick power boards
  if ret < 0 then (none, boards) else
  let (ret, strings, boards) := uidInitBoards power boards
  if ret < 0 then (none, boards) else
  let (ret, ids) := uidFillUniqueIds power.failure strings fun _ => []
  if ret < 0 then (none, boards) else
  (some { cpu := power.cpu, cpu_length := power.cpu_length, ids, watchdogTriggered := power.watchdogTriggered }, boards)

def startSensorMeasurements (power : PowerOn) (boards : Boards) : Int × Boards :=
  let (ret, temphum24) := temphum24DefaultCfg boards.temphum24 power.check power.startTemphum24
  let boards := { boards with temphum24 }
  if ret < 0 then (ret, boards) else
  let hvac := hvacScd40SendCmd boards.hvac startPeriodicMeasurement power.startScd4x
  let hvac := hvacSps30StartMeasurement hvac power.startSps30
  (0, { boards with hvac })

/-- The reads of an iteration. `single` is the number that the bits of a `float` stand for. -/
def sample (single : UInt32 → ℚ) (boards : Boards) (answers : Answers) : Reads × Boards :=
  let (temphum24Ret, temphum24, measured) :=
    temphum24ReadTempAndRh boards.temphum24 (boards.temperature, boards.humidity) answers.temphum24
  let (scd40Ret, hvac, hvacData) := hvacScd40ReadMeasurement boards.hvac boards.hvacData answers.scd40
  let (sps30Ret, hvac, sps30Data) :=
    hvacSps30ReadMeasuredData hvac boards.sps30Data answers.data answers.sps30Write answers.sps30
  ({ temphum24 := temphum24Ret, temperature := measured.1, humidity := measured.2
     scd40 := scd40Ret, co2Concent := hvacData.co2Concent
     sps30 := sps30Ret, massPm1_0 := single sps30Data.massPm1_0, massPm2_5 := single sps30Data.massPm2_5
     massPm10 := single sps30Data.massPm10 },
   { temphum24, hvac, temperature := measured.1, humidity := measured.2, hvacData, sps30Data })

/-- The application with its boards. It is blocked in a retry loop that does not return, or once `main` has. -/
structure Rig (σ : Type*) where
  app : App σ
  boards : Boards

section Network
variable {σ : Type*} (publish : Publish σ) (single : UInt32 → ℚ)

def Rig.iterate (rig : Rig σ) (answers : Answers) : Rig σ :=
  if rig.app.blocked then rig else
  let (reads, boards) := sample single rig.boards answers
  { app := Station.iterate publish rig.app ⟨reads, answers.patience⟩, boards }

/-- `main` once it is identified, up to the top of its loop. -/
def Rig.start (init : Init σ) (platform : Platform) (patience : Patience) (power : PowerOn) (identity : Identity)
    (boards : Boards) (net : σ) : Rig σ :=
  let (_, ha, net) := haStart init (bin2hex identity.cpu) {} net
  let sensors := fun sensor => { declared sensor with uniqueId := identity.ids sensor }
  let (registered, sensors, net) := registerAll publish platform ha patience.register SensorId.all sensors net
  if !registered then { app := { ha, sensors, net, blocked := true }, boards } else
  let (ret, boards) := startSensorMeasurements power boards
  if ret < 0 then { app := { ha, sensors, net, blocked := true }, boards } else
  let (online, net) := retry (haSetOnline publish ha) patience.online net
  if !online then { app := { ha, sensors, net, blocked := true }, boards } else
  { app := announce publish identity patience { ha, sensors, net }, boards }

def Rig.main (init : Init σ) (platform : Platform) (patience : Patience) (power : PowerOn) (boards : Boards) (net : σ)
    (turns : List Answers) : Rig σ :=
  match identify power boards with
  | (none, boards) => { app := { ha := {}, sensors := declared, net, blocked := true }, boards }
  | (some identity, boards) =>
    run (Rig.iterate publish single) (Rig.start publish init platform patience power identity boards net) turns

/-! ### The boards give `main` its inputs -/

/-- The outcomes of the reads of a run. -/
def sampledTurns : Boards → List Answers → List Turn
  | _, [] => []
  | boards, answers :: rest =>
    ⟨(sample single boards answers).1, answers.patience⟩ :: sampledTurns (sample single boards answers).2 rest

theorem length_sampledTurns (boards : Boards) (turns : List Answers) :
    (sampledTurns single boards turns).length = turns.length := by
  induction turns generalizing boards with
  | nil => rfl
  | cons answers rest ih => exact congrArg (· + 1) (ih _)

theorem Rig.run_blocked {rig : Rig σ} (blocked : rig.app.blocked = true) (turns : List Answers) :
    run (Rig.iterate publish single) rig turns = rig := by
  have keep : ∀ other (answers : Answers), other = rig → Rig.iterate publish single other answers = rig := by
    rintro other answers rfl
    rw [Rig.iterate, if_pos blocked]
  exact run_invariant keep rfl turns

theorem Rig.run_app (rig : Rig σ) (turns : List Answers) :
    (run (Rig.iterate publish single) rig turns).app =
      run (Station.iterate publish) rig.app (sampledTurns single rig.boards turns) := by
  induction turns generalizing rig with
  | nil => rfl
  | cons answers rest ih =>
    cases blocked : rig.app.blocked with
    | true =>
      rw [Rig.run_blocked publish single blocked, Station.run_blocked publish blocked]
    | false =>
      rw [run_cons, sampledTurns, run_cons, ih, Rig.iterate]
      simp only [blocked, Bool.false_eq_true, if_false]

/-- A station that is identified and starts its sensors runs as `Station.main` does on what its boards deliver. -/
theorem Rig.main_app (init : Init σ) (platform : Platform) (patience : Patience) (power : PowerOn)
    {boards identified : Boards} {identity : Identity} (net : σ) (turns : List Answers)
    (known : identify power boards = (some identity, identified))
    (started : ¬ (startSensorMeasurements power identified).1 < 0) :
    (Rig.main publish single init platform patience power boards net turns).app =
      Station.main publish init platform identity patience net
        (sampledTurns single (startSensorMeasurements power identified).2 turns) := by
  unfold Rig.main
  rw [known]
  dsimp only
  rw [Rig.run_app]
  unfold Rig.start Station.main goOnline
  dsimp only
  cases registered : (registerAll publish platform (haStart init (bin2hex identity.cpu) {} net).2.1 patience.register
      SensorId.all (fun sensor => { declared sensor with uniqueId := identity.ids sensor })
      (haStart init (bin2hex identity.cpu) {} net).2.2).1 with
  | false =>
    simp only [Bool.not_false, if_true]
    exact Station.run_blocked publish rfl _
  | true =>
    simp only [Bool.not_true, Bool.false_eq_true, if_false, if_neg started]
    split
    · exact Station.run_blocked publish rfl _
    · rfl

/-- A station stops before the network is up, or runs from its start. -/
theorem Rig.main_cases (init : Init σ) (platform : Platform) (patience : Patience) (power : PowerOn) (boards : Boards)
    (net : σ) (turns : List Answers) :
    (∃ identified, Rig.main publish single init platform patience power boards net turns =
      { app := { ha := {}, sensors := declared, net, blocked := true }, boards := identified }) ∨
    ∃ identity identified, Rig.main publish single init platform patience power boards net turns =
      run (Rig.iterate publish single)
        (Rig.start publish init platform patience power identity identified net) turns := by
  unfold Rig.main
  cases identify power boards with
  | mk known identified =>
    cases known with
    | none => exact Or.inl ⟨identified, rfl⟩
    | some identity => exact Or.inr ⟨identity, identified, rfl⟩

section Procedure
variable {A E : Type*} {At : Boards → A → List E → Prop}

theorem Rig.start_follows (init : Init σ) (platform : Platform) (patience : Patience) {power : PowerOn}
    (identity : Identity) {boards : Boards} (net : σ) {now next : A} {done script : List E} (here : At boards now done)
    (measures : Follows At (startSensorMeasurements power boards).2 next done script
      (¬ (startSensorMeasurements power boards).1 < 0)) :
    let rig := Rig.start publish init platform patience power identity boards net
    Follows At rig.boards next done script (rig.app.blocked = false) := by
  have stopped : ¬ true = false := by decide
  unfold Rig.start
  dsimp only
  split
  · exact follows_none here stopped next script
  · split
    · exact measures.mono fun running => absurd running stopped
    · rename_i passed
      split
      · exact measures.mono fun _ => passed
      · exact measures.mono fun _ => passed

/-- What `main` does on a board follows from what is done on it to identify the station, to start its measurements and
to read a sample. -/
theorem Rig.main_follows (init : Init σ) (platform : Platform) (patience : Patience) {power : PowerOn} {boards : Boards}
    (net : σ) {now ready : A} {done identifying starting : List E} (script : A → Answers → List E)
    (next : A → Answers → A)
    (identifies : Follows At (identify power boards).2 now done identifying ((identify power boards).1 ≠ none))
    (starts : ∀ boards, At boards now (done ++ identifying) → Follows At (startSensorMeasurements power boards).2 ready
      (done ++ identifying) starting (¬ (startSensorMeasurements power boards).1 < 0))
    (samples : ∀ boards now done, At boards now done → ∀ answers,
      At (sample single boards answers).2 (next now answers) (done ++ script now answers)) (turns : List Answers) :
    let rig := Rig.main publish single init platform patience power boards net turns
    Follows At rig.boards (turns.foldl next ready) done
      (identifying ++ (starting ++ runScript script next ready turns)) (rig.app.blocked = false) := by
  have iterates : ∀ (rig : Rig σ) now done, ¬ rig.app.blocked = true → At rig.boards now done → ∀ answers,
      At (Rig.iterate publish single rig answers).boards (next now answers) (done ++ script now answers) := by
    intro rig now done running here answers
    unfold Rig.iterate
    rw [if_neg running]
    exact samples rig.boards now done here answers
  unfold Rig.main
  cases known : identify power boards with
  | mk identity prepared =>
    rw [known] at identifies
    cases identity with
    | none => exact identifies.left Bool.noConfusion _ _
    | some identity =>
      apply identifies.trans (Option.some_ne_none identity)
      intro here
      have started := Rig.start_follows publish init platform patience identity net here (starts prepared here)
      cases blocked : (Rig.start publish init platform patience power identity prepared net).app.blocked with
      | true =>
        dsimp only
        rw [Rig.run_blocked publish single blocked]
        exact started.left (by simp [blocked]) _ _
      | false =>
        apply started.trans blocked
        intro there
        have looped := run_follows (fun rig : Rig σ => At rig.boards) script next (Rig.run_blocked publish single) iterates
          there turns
        exact looped.mono Bool.eq_false_iff.mp

end Procedure

end Network

def deskBoards : Boards where
  temphum24 := { rst := true, i2c := { addr := 0 }, slaveAddress := 0 }
  hvac := { i2c := { addr := 0 }, slaveAddress := 0 }
  temperature := 0
  humidity := 0
  hvacData := { co2Concent := 0, temperature := 0, rHumidity := 0, ascUpdateCount := 0, ascLastCorrection := 0 }
  sps30Data :=
    { massPm1_0 := 0, massPm2_5 := 0, massPm4_0 := 0, massPm10 := 0, numPm0_5 := 0, numPm1_0 := 0, numPm2_5 := 0,
      numPm4_0 := 0, numPm10 := 0, typPtclSize := 0 }

/-- Every transfer succeeds, and `nist` is the serial number of the HDC302x. -/
def deskPower (nist : Nat → UInt8 × UInt8) : PowerOn where
  cpu := [0x9a, 0x03, 0x6e, 0x51, 0xd7, 0x28, 0xbc, 0x40]
  cpu_length := rfl
  deviceId := 8
  watchdogTriggered := false
  stop := 0
  reinit := 0
  hdc302xSerial i := answer [nist i]
  hdc302xWords _ := 0
  hdc302xFailure := none
  scd4xSerial := answer [(0xf8, 0x96), (0x31, 0x9f), (0x07, 0xc2)]
  scd4xWords := (0, 0, 0)
  scd4xFailure := none
  sps30Write := 0
  sps30Serial := answer ((0x45, 0x33) :: (0x42, 0x37) :: List.replicate 14 (0, 0))
  failure _ := none
  check := answer [(0x30, 0x00)]
  startTemphum24 := 0
  startScd4x := 0
  startSps30 := 0

/-- An iteration in which the HDC302x sends `measured`, and the other board does not answer. -/
def deskAnswers (measured : List (UInt8 × UInt8)) : Answers where
  temphum24 := answer measured
  scd40 := ⟨-1, fun _ => 0⟩
  sps30Write := -1
  sps30 := ⟨-1, fun _ => 0⟩
  data _ := 0
  patience := 1

end AirQuality.Station
