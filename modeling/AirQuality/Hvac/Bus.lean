import Mathlib.Data.List.Basic

/-!
# The I2C master

`I2cMaster` is the driver's view of the bus: the slave address it will put on the next transfer,
and, for the proofs, every transfer it has made. What the bus answers to a transfer is an input.
-/

namespace AirQuality.Hvac

inductive Transfer where
  | write (addr : UInt8) (bytes : List UInt8)
  | read (addr : UInt8) (length : Nat)
  | writeRead (addr : UInt8) (bytes : List UInt8) (length : Nat)
  deriving DecidableEq, Repr

def Transfer.addr : Transfer → UInt8
  | .write addr _ | .read addr _ | .writeRead addr _ _ => addr

/-- The answer to a transfer that reads: its result code, and byte `k` of the receive buffer. The
bytes mean nothing when the code is an error. -/
structure Reply where
  code : Int
  bytes : Nat → UInt8

structure I2cMaster where
  addr : UInt8
  transfers : List Transfer := []
  deriving DecidableEq, Repr

def i2cMasterSuccess : Int := 0
def i2cMasterError : Int := -1

def i2cMasterOpen (obj : I2cMaster) : Int × I2cMaster := (i2cMasterSuccess, obj)

def i2cMasterSetSpeed (obj : I2cMaster) (_speed : UInt32) : Int × I2cMaster := (i2cMasterSuccess, obj)

def i2cMasterSetSlaveAddress (obj : I2cMaster) (address : UInt8) : Int × I2cMaster :=
  (i2cMasterSuccess, { obj with addr := address })

def i2cMasterWrite (obj : I2cMaster) (bytes : List UInt8) (code : Int) : Int × I2cMaster :=
  (code, { obj with transfers := obj.transfers ++ [.write obj.addr bytes] })

def i2cMasterWriteThenRead (obj : I2cMaster) (bytes : List UInt8) (length : Nat) (reply : Reply) :
    Int × I2cMaster :=
  (reply.code, { obj with transfers := obj.transfers ++ [.writeRead obj.addr bytes length] })

def i2cMasterRead (obj : I2cMaster) (length : Nat) (reply : Reply) : Int × I2cMaster :=
  (reply.code, { obj with transfers := obj.transfers ++ [.read obj.addr length] })

end AirQuality.Hvac
