import Mathlib.Algebra.Group.Int.Defs
import Mathlib.Algebra.Group.Nat.Defs

/-!
# Error codes

C functions report failure by a negative `int`. `Errno` carries the sign and the range of such
a code, so that a result built from one is negative without further proof.
-/

namespace AirQuality.Foundation

structure Errno where
  code : Int
  negative : code < 0
  fits : -2 ^ 31 ≤ code
  deriving DecidableEq

namespace Errno

def einval : Errno := ⟨-22, by decide, by decide⟩
def enomem : Errno := ⟨-12, by decide, by decide⟩
def eagain : Errno := ⟨-11, by decide, by decide⟩
def enotconn : Errno := ⟨-128, by decide, by decide⟩
def econnaborted : Errno := ⟨-113, by decide, by decide⟩

theorem code_ne_zero (e : Errno) : e.code ≠ 0 := by
  have := e.negative
  omega

end Errno

/-- `ret >= size` in C, for an `int` and a 32-bit `size_t`: the signed side is converted. -/
def geSize (ret : Int) (size : Nat) : Bool := decide ((size : Int) ≤ ret % 2 ^ 32)

theorem geSize_errno (e : Errno) {size : Nat} (small : size ≤ 2 ^ 31) : geSize e.code size = true := by
  have negative := e.negative
  have fits := e.fits
  simp only [geSize, decide_eq_true_eq]
  omega

end AirQuality.Foundation
