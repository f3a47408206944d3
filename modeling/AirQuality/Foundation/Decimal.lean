import Mathlib.Data.Nat.Log
import Mathlib.Data.Rat.Defs
import AirQuality.Foundation.Text

/-!
# `%g`

The conversion of `printf` for a rational number: six significant digits, rounded half to even, in
positional or exponent style, without trailing zeros.
-/

namespace AirQuality.Foundation

def roundHalfEven (n d : Nat) : Nat :=
  if 2 * (n % d) < d ∨ (2 * (n % d) = d ∧ n / d % 2 = 0) then n / d else n / d + 1

/-- The exponent of the leading decimal digit of `n / d`. -/
def leadingExponent (n d : Nat) : Int :=
  if d ≤ n then Nat.log 10 (n / d) else -(Nat.clog 10 ((d + n - 1) / n) : Int)

def scaled (n d : Nat) (k : Int) : Nat := roundHalfEven (n * 10 ^ k.toNat) (d * 10 ^ (-k).toNat)

/-- The six significant digits of `n / d`, and the exponent of the first. Rounding up may carry into
a new digit. -/
def significant (n d : Nat) : Nat × Int :=
  let exponent := leadingExponent n d
  let digits := scaled n d (5 - exponent)
  if digits = 10 ^ 6 then (10 ^ 5, exponent + 1) else (digits, exponent)

def stripZeros (digits : Text) : Text := (digits.reverse.dropWhile (· = '0')).reverse

/-- A decimal point, unless no digit follows it. -/
def fraction (digits : Text) : Text := if digits = [] then [] else '.' :: digits

/-- At least two digits, with the sign. -/
def exponentPart (exponent : Int) : Text :=
  let digits := Nat.toDigits 10 exponent.natAbs
  'e' :: (if exponent < 0 then '-' else '+') :: (if digits.length < 2 then '0' :: digits else digits)

def formatMagnitude (n d : Nat) : Text :=
  let (value, exponent) := significant n d
  let digits := Nat.toDigits 10 value
  if exponent < -4 ∨ 6 ≤ exponent then
    digits.take 1 ++ fraction (stripZeros (digits.drop 1)) ++ exponentPart exponent
  else if 0 ≤ exponent then
    digits.take (exponent.toNat + 1) ++ fraction (stripZeros (digits.drop (exponent.toNat + 1)))
  else
    '0' :: fraction (List.replicate ((-exponent).toNat - 1) '0' ++ stripZeros digits)

def formatG (q : ℚ) : Text :=
  if q = 0 then ['0'] else
  (if q < 0 then ['-'] else []) ++ formatMagnitude q.num.natAbs q.den

example : formatG (2245 / 100) = ['2', '2', '.', '4', '5'] := by decide +kernel
example : formatG (-1 / 30000) = ['-', '3', '.', '3', '3', '3', '3', '3', 'e', '-', '0', '5'] := by decide +kernel

end AirQuality.Foundation
