import Mathlib.Data.Int.Bitwise
import AirQuality.Hvac.Driver

/-!
# The TempHum 24 click driver

`temphum24.c`, which drives the HDC302x through an `I2cMaster` of its own. What the bus answers to a transfer is
an input, and so is what the caller's variables hold before a call that may leave them alone.
-/

namespace AirQuality.TempHum24
open Hvac

def temphum24Ok : Int := 0
def temphum24Error : Int := -1

def cmdAutoMeas1HzLp0 : UInt16 := 0x2130
def cmdAutoMeasExit : UInt16 := 0x3093
def cmdAutoMeasRoutTRh : UInt16 := 0xE000
def cmdAutoMeasMinT : UInt16 := 0xE002
def cmdAutoMeasMaxT : UInt16 := 0xE003
def cmdAutoMeasMinRh : UInt16 := 0xE004
def cmdAutoMeasMaxRh : UInt16 := 0xE005
def cmdReadNistIdBytes5_4 : UInt16 := 0x3683
def cmdReadManufacturerId : UInt16 := 0x3781

def manufacturerId : UInt16 := 0x3000
def deviceAddressA1A0_00 : UInt8 := 0x44

def tempMin : ℚ := -45
def tempMax : ℚ := 130
def humMax : ℚ := 100
def dataResolution : ℚ := 0xFFFF

def initValue : UInt8 := 0xFF

structure Cfg where
  i2cSpeed : UInt32
  i2cAddress : UInt8
  deriving DecidableEq, Repr

/-- `rst` is the level of the reset pin, which is active low; `levels` is, for the proofs, the level it had at
each transfer. -/
structure Temphum24 where
  rst : Bool
  i2c : I2cMaster
  slaveAddress : UInt8
  levels : List Bool := []
  deriving DecidableEq, Repr

/-- The context after a transfer. -/
def Temphum24.transferred (ctx : Temphum24) (i2c : I2cMaster) : Temphum24 :=
  { ctx with i2c, levels := ctx.levels ++ [ctx.rst] }

def temphum24CfgSetup (_cfg : Cfg) : Cfg := { i2cSpeed := 0, i2cAddress := deviceAddressA1A0_00 }

/-- `digital_out_init` makes the pin an output that is low. -/
def temphum24Init (ctx : Temphum24) (cfg : Cfg) : Int × Temphum24 :=
  let ctx := { ctx with slaveAddress := cfg.i2cAddress }
  let (opened, i2c) := i2cMasterOpen ctx.i2c
  let ctx := { ctx with i2c }
  if opened = i2cMasterError then (i2cMasterError, ctx) else
  let (addressed, i2c) := i2cMasterSetSlaveAddress ctx.i2c ctx.slaveAddress
  let ctx := { ctx with i2c }
  if addressed = i2cMasterError then (i2cMasterError, ctx) else
  let (timed, i2c) := i2cMasterSetSpeed ctx.i2c cfg.i2cSpeed
  let ctx := { ctx with i2c }
  if timed = i2cMasterError then (i2cMasterError, ctx) else
  (i2cMasterSuccess, { ctx with rst := false })

def temphum24EnableDevice (ctx : Temphum24) : Temphum24 := { ctx with rst := true }

def temphum24DisableDevice (ctx : Temphum24) : Temphum24 := { ctx with rst := false }

def temphum24ResetDevice (ctx : Temphum24) : Temphum24 :=
  let ctx := { ctx with rst := false }
  { ctx with rst := true }

def calculateCrc (first second : UInt8) : UInt8 := crcByte (crcByte initValue first) second

/-- How the reads end: a wrong checksum makes `code` an error, and only a read without one fills its output. -/
def delivered {β : Type} (wrong : Prop) [Decidable wrong] (code : Int) (before after : β) : Int × β :=
  let errorFlag := if wrong then temphum24Error else code
  (errorFlag, if errorFlag = temphum24Ok then after else before)

/-- The word at `data_buf[k]` has a wrong checksum behind it. -/
abbrev WrongAt (rx : Nat → UInt8) (k : Nat) : Prop := rx (k + 2) ≠ calculateCrc (rx k) (rx (k + 1))

def temphum24WriteCmd (ctx : Temphum24) (cmd : UInt16) (write : Int) : Int × Temphum24 :=
  let (errorFlag, i2c) := i2cMasterWrite ctx.i2c [high cmd, low cmd] write
  (errorFlag, ctx.transferred i2c)

def temphum24WriteCmdConfig (ctx : Temphum24) (cmd config : UInt16) (write : Int) : Int × Temphum24 :=
  let dataBuf := [high cmd, low cmd, high config, low config, calculateCrc (high config) (low config)]
  let (errorFlag, i2c) := i2cMasterWrite ctx.i2c dataBuf write
  (errorFlag, ctx.transferred i2c)

def temphum24ReadSingle (ctx : Temphum24) (dataOut : UInt16) (reply : Reply) : Int × Temphum24 × UInt16 :=
  let (errorFlag, i2c) := i2cMasterRead ctx.i2c 3 reply
  let rx := reply.bytes
  let (errorFlag, dataOut) := delivered (WrongAt rx 0) errorFlag dataOut (word (rx 0) (rx 1))
  (errorFlag, ctx.transferred i2c, dataOut)

def temphum24ReadMulti (ctx : Temphum24) (dataOut : UInt16 × UInt16) (reply : Reply) :
    Int × Temphum24 × (UInt16 × UInt16) :=
  let (errorFlag, i2c) := i2cMasterRead ctx.i2c 6 reply
  let rx := reply.bytes
  let (errorFlag, dataOut) := delivered (WrongAt rx 0 ∨ WrongAt rx 3) errorFlag dataOut
    (word (rx 0) (rx 1), word (rx 3) (rx 4))
  (errorFlag, ctx.transferred i2c, dataOut)

def temphum24WriteThenReadSingle (ctx : Temphum24) (cmd dataOut : UInt16) (reply : Reply) :
    Int × Temphum24 × UInt16 :=
  let (errorFlag, i2c) := i2cMasterWriteThenRead ctx.i2c [high cmd, low cmd] 3 reply
  let rx := reply.bytes
  let (errorFlag, dataOut) := delivered (WrongAt rx 0) errorFlag dataOut (word (rx 0) (rx 1))
  (errorFlag, ctx.transferred i2c, dataOut)

def temphum24WriteThenReadMulti (ctx : Temphum24) (cmd : UInt16) (dataOut : UInt16 × UInt16) (reply : Reply) :
    Int × Temphum24 × (UInt16 × UInt16) :=
  let (errorFlag, i2c) := i2cMasterWriteThenRead ctx.i2c [high cmd, low cmd] 6 reply
  let rx := reply.bytes
  let (errorFlag, dataOut) := delivered (WrongAt rx 0 ∨ WrongAt rx 3) errorFlag dataOut
    (word (rx 0) (rx 1), word (rx 3) (rx 4))
  (errorFlag, ctx.transferred i2c, dataOut)

/-! ### Commands -/

def temphum24CheckCommunication (ctx : Temphum24) (reply : Reply) : Int × Temphum24 :=
  let (errorFlag, ctx, id) := temphum24WriteThenReadSingle ctx cmdReadManufacturerId 0 reply
  (if manufacturerId ≠ id then temphum24Error else errorFlag, ctx)

def temphum24StartMeasurement (ctx : Temphum24) (write : Int) : Int × Temphum24 :=
  temphum24WriteCmd ctx cmdAutoMeas1HzLp0 write

def temphum24StopMeasurement (ctx : Temphum24) (write : Int) : Int × Temphum24 :=
  temphum24WriteCmd ctx cmdAutoMeasExit write

def temphum24DefaultCfg (ctx : Temphum24) (check : Reply) (write : Int) : Int × Temphum24 :=
  let errorFlag := temphum24Ok
  let ctx := temphum24ResetDevice ctx
  let (communication, ctx) := temphum24CheckCommunication ctx check
  if communication = temphum24Error then (temphum24Error, ctx) else
  let (started, ctx) := temphum24StartMeasurement ctx write
  (Int.lor errorFlag started, ctx)

/-- `TEMPHUM24_TEMP_MIN + ( TEMPHUM24_TEMP_MAX - TEMPHUM24_TEMP_MIN ) * raw / TEMPHUM24_DATA_RESOLUTION`. -/
def temperatureOf (raw : UInt16) : ℚ := tempMin + (tempMax - tempMin) * raw.toNat / dataResolution

def humidityOf (raw : UInt16) : ℚ := humMax * raw.toNat / dataResolution

/-- The last component is `*temp` and `*hum`. -/
def temphum24ReadTempAndRh (ctx : Temphum24) (out : ℚ × ℚ) (reply : Reply) : Int × Temphum24 × (ℚ × ℚ) :=
  let (errorFlag, ctx, raw) := temphum24WriteThenReadMulti ctx cmdAutoMeasRoutTRh (0, 0) reply
  (errorFlag, ctx, if errorFlag = temphum24Ok then (temperatureOf raw.1, humidityOf raw.2) else out)

/-- `temphum24_read_temp_history` and `temphum24_read_rh_history`, which read two words each and differ in their
commands and the conversion. -/
def readHistory (cmdMin cmdMax : UInt16) (convert : UInt16 → ℚ) (ctx : Temphum24) (out : ℚ × ℚ) (first second : Reply) :
    Int × Temphum24 × (ℚ × ℚ) :=
  let (errorFlag, ctx, rawMin) := temphum24WriteThenReadSingle ctx cmdMin 0 first
  let (errorFlag', ctx, rawMax) := temphum24WriteThenReadSingle ctx cmdMax 0 second
  let errorFlag := Int.lor errorFlag errorFlag'
  (errorFlag, ctx, if errorFlag = temphum24Ok then (convert rawMin, convert rawMax) else out)

def temphum24ReadTempHistory := readHistory cmdAutoMeasMinT cmdAutoMeasMaxT temperatureOf

def temphum24ReadRhHistory := readHistory cmdAutoMeasMinRh cmdAutoMeasMaxRh humidityOf

/-- The loop from word `i` with `words` words left; `i < 3` while one is left. -/
def readSerialNumber (replies : Nat → Reply) : Nat → Nat → Temphum24 → (Nat → UInt16) → Int × Temphum24 × (Nat → UInt16)
  | 0, _, ctx, serialNumber => (temphum24Ok, ctx, serialNumber)
  | words + 1, i, ctx, serialNumber =>
    let (errorFlag, ctx, read) :=
      temphum24WriteThenReadSingle ctx (cmdReadNistIdBytes5_4 + UInt16.ofNat i) (serialNumber i) (replies i)
    let serialNumber := Function.update serialNumber i read
    if errorFlag < 0 then (errorFlag, ctx, serialNumber) else
    readSerialNumber replies words (i + 1) ctx serialNumber

def temphum24GetSerialNumber (ctx : Temphum24) (serialNumber : Nat → UInt16) (replies : Nat → Reply) :
    Int × Temphum24 × (Nat → UInt16) :=
  readSerialNumber replies 3 0 ctx serialNumber

end AirQuality.TempHum24
