import Mathlib.Data.Rat.Defs
import AirQuality.Hvac.Bus

/-!
# The HVAC click driver

The part of `hvac.c` the station uses: the SCD4x commands, which leave the slave address alone, and
the SPS30 commands, which switch it and switch it back. Both sensors share one `I2cMaster`.
-/

namespace AirQuality.Hvac

def hvacOk : Int := 0
def hvacError : Int := -1

def scd40SlaveAddr : UInt8 := 0x62
def sps30SlaveAddr : UInt8 := 0x69

def readMeasurement : UInt16 := 0xEC05
def getSerialNumber : UInt16 := 0x3682

def sps30StartMeasurementReg : UInt16 := 0x0010
def sps30ReadDataRdyFlag : UInt16 := 0x0202
def sps30ReadMeasuredValue : UInt16 := 0x0300
def sps30ReadSerialNumber : UInt16 := 0xD033

def sps30WordSize : Nat := 2
def sps30Crc8Len : Nat := 1
def sps30MaxSerialLen : Nat := 32

structure Cfg where
  i2cSpeed : UInt32
  i2cAddress : UInt8
  deriving DecidableEq, Repr

structure Ctx where
  i2c : I2cMaster
  slaveAddress : UInt8
  deriving DecidableEq, Repr

def hvacCfgSetup (_cfg : Cfg) : Cfg := { i2cSpeed := 0, i2cAddress := scd40SlaveAddr }

def hvacInit (ctx : Ctx) (cfg : Cfg) : Int × Ctx :=
  let ctx := { ctx with slaveAddress := cfg.i2cAddress }
  let (opened, i2c) := i2cMasterOpen ctx.i2c
  let ctx := { ctx with i2c }
  if opened = i2cMasterError then (i2cMasterError, ctx) else
  let (addressed, i2c) := i2cMasterSetSlaveAddress ctx.i2c ctx.slaveAddress
  let ctx := { ctx with i2c }
  if addressed = i2cMasterError then (i2cMasterError, ctx) else
  let (timed, i2c) := i2cMasterSetSpeed ctx.i2c cfg.i2cSpeed
  let ctx := { ctx with i2c }
  if timed = i2cMasterError then (i2cMasterError, ctx) else
  (i2cMasterSuccess, ctx)

def crcBit (crc : UInt8) : UInt8 :=
  if crc &&& 0x80 ≠ 0 then (crc <<< 1) ^^^ 0x31 else crc <<< 1

def crcBits : Nat → UInt8 → UInt8
  | 0, crc => crc
  | bits + 1, crc => crcBits bits (crcBit crc)

def crcByte (crc byte : UInt8) : UInt8 := crcBits 8 (crc ^^^ byte)

def devCalcCrc (first second : UInt8) : UInt8 := crcByte (crcByte 0xFF first) second

def high (word : UInt16) : UInt8 := (word >>> 8).toUInt8
def low (word : UInt16) : UInt8 := word.toUInt8

/-- `tmp = hi; tmp <<= 8; tmp |= lo`. -/
def word (hi lo : UInt8) : UInt16 := (hi.toUInt16 <<< 8) ||| lo.toUInt16

/-! ### SCD4x -/

/-- The float fields are exact rationals here. -/
structure MeasuremenData where
  co2Concent : UInt16
  temperature : ℚ
  rHumidity : ℚ
  ascUpdateCount : UInt16
  ascLastCorrection : UInt16
  deriving DecidableEq

def hvacScd40ReadData (ctx : Ctx) (reg : UInt16) (reply : Reply) : Int × Ctx × UInt16 :=
  let (errorFlag, i2c) := i2cMasterWriteThenRead ctx.i2c [high reg, low reg] 3 reply
  let ctx := { ctx with i2c }
  let rx := reply.bytes
  let errorFlag := if rx 2 ≠ devCalcCrc (rx 0) (rx 1) then hvacError else errorFlag
  (errorFlag, ctx, word (rx 0) (rx 1))

def hvacScd40SendCmd (ctx : Ctx) (cmd : UInt16) (write : Int) : Ctx :=
  { ctx with i2c := (i2cMasterWrite ctx.i2c [high cmd, low cmd] write).2 }

def hvacScd40ReadMeasurement (ctx : Ctx) (readData : MeasuremenData) (reply : Reply) :
    Int × Ctx × MeasuremenData :=
  let (errorFlag, i2c) :=
    i2cMasterWriteThenRead ctx.i2c [high readMeasurement, low readMeasurement] 15 reply
  let ctx := { ctx with i2c }
  if errorFlag < 0 then (hvacError, ctx, readData) else
  let rx := reply.bytes
  (hvacOk, ctx,
    { co2Concent := word (rx 0) (rx 1)
      temperature := ((word (rx 3) (rx 4)).toNat : ℚ) * 175 / 65535 - 45
      rHumidity := ((word (rx 6) (rx 7)).toNat : ℚ) * 100 / 65535
      ascUpdateCount := word (rx 9) (rx 10)
      ascLastCorrection := word (rx 12) (rx 13) })

def hvacScd40GetSerialNumber (ctx : Ctx) (serialNumber : UInt16 × UInt16 × UInt16) (reply : Reply) :
    Int × Ctx × (UInt16 × UInt16 × UInt16) :=
  let (errorFlag, i2c) :=
    i2cMasterWriteThenRead ctx.i2c [high getSerialNumber, low getSerialNumber] 9 reply
  let ctx := { ctx with i2c }
  if errorFlag < 0 then (hvacError, ctx, serialNumber) else
  let rx := reply.bytes
  (hvacOk, ctx, (word (rx 0) (rx 1), word (rx 3) (rx 4), word (rx 6) (rx 7)))

/-! ### SPS30 -/

def hvacSps30I2cWriteData (ctx : Ctx) (reg txData : UInt16) (write : Int) : Int × Ctx :=
  let txBuf := [high reg, low reg, high txData, low txData, devCalcCrc (high txData) (low txData)]
  let ctx := { ctx with i2c := (i2cMasterSetSlaveAddress ctx.i2c sps30SlaveAddr).2 }
  let (errorFlag, i2c) := i2cMasterWrite ctx.i2c txBuf write
  let ctx := { ctx with i2c }
  let ctx := { ctx with i2c := (i2cMasterSetSlaveAddress ctx.i2c scd40SlaveAddr).2 }
  (errorFlag, ctx)

/-- What the checksum loop does to memory: the indices it reads in `rx_buf` and the bytes it
stores through `rx_data`, in order. -/
structure Decoding where
  code : Int
  reads : List Nat
  stores : List (Nat × UInt8)
  deriving DecidableEq, Repr

/-- The loop from indices `i` and `j` with `words` words left; `i < read_len` while one is left. -/
def checkWords (rx : Nat → UInt8) : Nat → Nat → Nat → Decoding
  | 0, _, _ => { code := hvacOk, reads := [], stores := [] }
  | words + 1, i, j =>
    if rx (i + sps30WordSize) ≠ devCalcCrc (rx i) (rx (i + 1)) then
      { code := hvacError, reads := [i + sps30WordSize, i, i + 1], stores := [] }
    else
      let rest := checkWords rx words (i + (sps30WordSize + sps30Crc8Len)) (j + 2)
      { code := rest.code
        reads := [i + sps30WordSize, i, i + 1, i, i + 1] ++ rest.reads
        stores := [(j, rx i), (j + 1, rx (i + 1))] ++ rest.stores }

def hvacSps30I2cReadDataAsBytes (ctx : Ctx) (reg : UInt16) (numWords : Nat) (write : Int) (read : Reply) :
    Decoding × Ctx :=
  let readLen := numWords * (sps30WordSize + sps30Crc8Len)
  let ctx := { ctx with i2c := (i2cMasterSetSlaveAddress ctx.i2c sps30SlaveAddr).2 }
  let (errorFlag, i2c) := i2cMasterWrite ctx.i2c [high reg, low reg] write
  let ctx := { ctx with i2c }
  if errorFlag < 0 then ({ code := errorFlag, reads := [], stores := [] }, ctx) else
  let (errorFlag, i2c) := i2cMasterRead ctx.i2c readLen read
  let ctx := { ctx with i2c }
  if errorFlag < 0 then ({ code := errorFlag, reads := [], stores := [] }, ctx) else
  let ctx := { ctx with i2c := (i2cMasterSetSlaveAddress ctx.i2c scd40SlaveAddr).2 }
  (checkWords read.bytes numWords 0 0, ctx)

def hvacSps30StartMeasurement (ctx : Ctx) (write : Int) : Ctx :=
  (hvacSps30I2cWriteData ctx sps30StartMeasurementReg sps30ReadMeasuredValue write).2

/-- The object at `rx_data` after the stores, as a function of the byte index. -/
def stored (before : Nat → UInt8) (stores : List (Nat × UInt8)) : Nat → UInt8 :=
  stores.foldl (fun bytes store => Function.update bytes store.1 store.2) before

/-- The `uint16_t` at the start of a memory, which is little-endian. -/
def halfWord (bytes : Nat → UInt8) : UInt16 := word (bytes 1) (bytes 0)

/-- `rxData` is the memory from the caller's `uint16_t` on. The call passes the size of that object in
bytes for the number of words. -/
def hvacSps30I2cReadData (ctx : Ctx) (reg : UInt16) (rxData : Nat → UInt8) (write : Int) (read : Reply) :
    Decoding × Ctx :=
  let (result, ctx) := hvacSps30I2cReadDataAsBytes ctx reg 2 write read
  if result.code < 0 then (result, ctx) else
  let wordBytes := stored rxData result.stores
  let value := word (wordBytes 0) (wordBytes 1)
  ({ result with code := hvacOk, stores := result.stores ++ [(0, low value), (1, high value)] }, ctx)

/-- `rxBuf` is the memory from the uninitialised `uint16_t rx_buf` on. -/
def hvacSps30GetReadyFlag (ctx : Ctx) (rxBuf : Nat → UInt8) (write : Int) (read : Reply) : UInt8 × Ctx :=
  let (result, ctx) := hvacSps30I2cReadData ctx sps30ReadDataRdyFlag rxBuf write read
  (low (halfWord (stored rxBuf result.stores)) &&& 0x01, ctx)

def hvacSps30BytesToFloat (bytes : Nat → UInt8) : UInt32 :=
  (bytes 0).toUInt32 <<< 24 ||| (bytes 1).toUInt32 <<< 16 ||| (bytes 2).toUInt32 <<< 8 |||
    (bytes 3).toUInt32

structure MassAndNumCntData where
  massPm1_0 : UInt32
  massPm2_5 : UInt32
  massPm4_0 : UInt32
  massPm10 : UInt32
  numPm0_5 : UInt32
  numPm1_0 : UInt32
  numPm2_5 : UInt32
  numPm4_0 : UInt32
  numPm10 : UInt32
  typPtclSize : UInt32
  deriving DecidableEq, Repr

/-- `data` is the uninitialised `uint8_t data[10][4]` the bytes are read into. -/
def hvacSps30ReadMeasuredData (ctx : Ctx) (mNCData : MassAndNumCntData) (data : Nat → UInt8)
    (write : Int) (read : Reply) : Int × Ctx × MassAndNumCntData :=
  let (result, ctx) := hvacSps30I2cReadDataAsBytes ctx sps30ReadMeasuredValue (40 / sps30WordSize) write read
  if result.code ≠ 0 then (result.code, ctx, mNCData) else
  let data := stored data result.stores
  let field (k : Nat) := hvacSps30BytesToFloat fun byte => data (4 * k + byte)
  (hvacOk, ctx,
    { massPm1_0 := field 0, massPm2_5 := field 1, massPm4_0 := field 2, massPm10 := field 3
      numPm0_5 := field 4, numPm1_0 := field 5, numPm2_5 := field 6, numPm4_0 := field 7
      numPm10 := field 8, typPtclSize := field 9 })

/-- The third component is the caller's buffer, byte by byte. -/
def hvacSps30GetSerialNumber (ctx : Ctx) (serialNumber : Nat → UInt8) (serialBufferSize : Nat)
    (write : Int) (read : Reply) : Int × Ctx × (Nat → UInt8) :=
  if serialBufferSize < sps30MaxSerialLen then (hvacError, ctx, serialNumber) else
  let (result, ctx) :=
    hvacSps30I2cReadDataAsBytes ctx sps30ReadSerialNumber (serialBufferSize / sps30WordSize) write read
  let serialNumber := stored serialNumber result.stores
  if result.code ≠ 0 then (result.code, ctx, serialNumber) else
  (hvacOk, ctx, serialNumber)

end AirQuality.Hvac
