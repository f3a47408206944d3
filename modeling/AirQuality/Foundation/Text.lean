import Mathlib.Data.List.Basic
import Mathlib.Data.List.TakeWhile
import Mathlib.Data.Set.Defs
import AirQuality.Foundation.Errno

/-!
# C strings

A NUL-terminated string is the list of its characters. `snprintf` is given the formatted text; it
returns the length of the whole text and stores what fits before the terminator.
-/

namespace AirQuality.Foundation

abbrev Text := List Char

/-- A formatting error: the result, and what the call leaves in the buffer. -/
structure FormatError where
  errno : Errno
  left : Text
  deriving DecidableEq

def snprintf (failure : Option FormatError) (size : Nat) (text : Text) : Int × Text :=
  match failure with
  | some error => (error.errno.code, error.left)
  | none => (text.length, text.take (size - 1))

theorem snprintf_fits {size : Nat} {text : Text} (fits : text.length < size) :
    snprintf none size text = ((text.length : Int), text) := by
  have whole : text.take (size - 1) = text := List.take_of_length_le (by omega)
  simp only [snprintf, whole]

/-- `ret < 0 && ret >= size` holds of the errors of `snprintf`, and of no truncation. -/
theorem snprintf_guard (failure : Option FormatError) {size : Nat} (small : size ≤ 2 ^ 31) (text : Text) :
    (decide ((snprintf failure size text).1 < 0) && geSize (snprintf failure size text).1 size) = failure.isSome := by
  cases failure with
  | none =>
    have positive : ¬ (snprintf none size text).1 < 0 := by
      simp only [snprintf]
      omega
    rw [decide_eq_false positive]
    rfl
  | some error =>
    have caught : geSize error.errno.code size = true := geSize_errno error.errno small
    have negative := error.errno.negative
    simp [snprintf, caught, negative]

/-- The lowest `width` hexadecimal digits of `n`, most significant first. -/
def hexFixed : Nat → Nat → Text
  | 0, _ => []
  | width + 1, n => hexFixed width (n / 16) ++ [Nat.digitChar (n % 16)]

@[simp] theorem length_hexFixed (width n : Nat) : (hexFixed width n).length = width := by
  induction width generalizing n with
  | zero => rfl
  | succ width ih => simp [hexFixed, ih]

theorem digitChar_inj {a b : Nat} (ha : a < 16) (hb : b < 16)
    (same : Nat.digitChar a = Nat.digitChar b) : a = b := by
  have all : ∀ a < 16, ∀ b < 16, Nat.digitChar a = Nat.digitChar b → a = b := by decide
  exact all a ha b hb same

theorem hexFixed_inj {width a b : Nat} (ha : a < 16 ^ width) (hb : b < 16 ^ width)
    (same : hexFixed width a = hexFixed width b) : a = b := by
  induction width generalizing a b with
  | zero =>
    simp only [Nat.pow_zero] at ha hb
    omega
  | succ width ih =>
    obtain ⟨init, last⟩ := List.append_inj' same rfl
    have quotient : a / 16 = b / 16 := by
      apply ih _ _ init
      · rw [Nat.pow_succ] at ha
        omega
      · rw [Nat.pow_succ] at hb
        omega
    have digit : a % 16 = b % 16 :=
      digitChar_inj (Nat.mod_lt _ (by decide)) (Nat.mod_lt _ (by decide)) (List.cons.inj last).1
    omega

/-- `%04x` of a 16-bit value. -/
def hexWord (w : UInt16) : Text := hexFixed 4 w.toNat

theorem hexWord_inj {v w : UInt16} (same : hexWord v = hexWord w) : v = w := by
  have bound (u : UInt16) : u.toNat < 16 ^ 4 := u.toNat_lt
  exact UInt16.toNat_inj.mp (hexFixed_inj (bound v) (bound w) same)

def bin2hex (bytes : List UInt8) : Text := bytes.flatMap fun byte => hexFixed 2 byte.toNat

theorem length_bin2hex (bytes : List UInt8) : (bin2hex bytes).length = 2 * bytes.length := by
  induction bytes with
  | nil => rfl
  | cons byte rest ih =>
    simp only [bin2hex, List.flatMap_cons, List.length_append, length_hexFixed, List.length_cons] at ih ⊢
    omega

theorem bin2hex_inj {xs ys : List UInt8} (length : xs.length = ys.length)
    (same : bin2hex xs = bin2hex ys) : xs = ys := by
  induction xs generalizing ys with
  | nil => exact (List.length_eq_zero_iff.mp length.symm).symm
  | cons x xs ih =>
    cases ys with
    | nil => simp at length
    | cons y ys =>
      obtain ⟨first, rest⟩ := List.append_inj same (by simp)
      have bound (u : UInt8) : u.toNat < 16 ^ 2 := u.toNat_lt
      rw [UInt8.toNat_inj.mp (hexFixed_inj (bound x) (bound y) first),
        ih (Nat.succ.inj length) rest]

/-- One of the first `size` bytes ends the string. -/
def Terminated (size : Nat) (memory : Nat → UInt8) : Prop := ∃ index < size, memory index = 0

/-- What a `%s` reads: the bytes up to the first NUL, and this one. -/
def stringReads (memory : Nat → UInt8) : Set Nat := {index | ∀ before < index, memory before ≠ 0}

/-- The string in the first `size` bytes. -/
def textAt (size : Nat) (memory : Nat → UInt8) : Text :=
  (((List.range size).map memory).takeWhile (· ≠ 0)).map fun byte => Char.ofNat byte.toNat

theorem terminated_iff_reads {size : Nat} {memory : Nat → UInt8} :
    Terminated size memory ↔ ∀ index ∈ stringReads memory, index < size := by
  constructor
  · intro terminated index read
    obtain ⟨nul, inside, zero⟩ := terminated
    by_contra outside
    exact read nul (by omega) zero
  · intro inside
    by_contra endless
    have whole : size ∈ stringReads memory := fun before below zero => endless ⟨before, below, zero⟩
    exact absurd (inside size whole) (Nat.lt_irrefl size)

theorem length_textAt_lt {size : Nat} {memory : Nat → UInt8} (terminated : Terminated size memory) :
    (textAt size memory).length < size := by
  obtain ⟨nul, inside, zero⟩ := terminated
  have present : (0 : UInt8) ∈ (List.range size).map memory := List.mem_map.mpr ⟨nul, List.mem_range.mpr inside, zero⟩
  have shorter : (((List.range size).map memory).takeWhile (· ≠ 0)).length <
      ((List.range size).map memory).length := by
    refine Nat.lt_of_le_of_ne (List.takeWhile_sublist _).length_le fun same => ?_
    have whole := (List.takeWhile_sublist _).eq_of_length same
    have kept := List.takeWhile_eq_self_iff.mp whole 0 present
    simp at kept
  simpa only [textAt, List.length_map, List.length_range] using shorter

theorem nul_not_mem_textAt (size : Nat) (memory : Nat → UInt8) : Char.ofNat 0 ∉ textAt size memory := by
  intro present
  obtain ⟨byte, kept, same⟩ := List.mem_map.mp present
  have nonzero : byte ≠ 0 := by simpa using List.mem_takeWhile_imp kept
  have small : byte.toNat < 256 := byte.toNat_lt
  have valid : byte.toNat.isValidChar := Or.inl (by omega)
  have zero := congrArg Char.toNat same
  rw [Char.ofNat, dif_pos valid] at zero
  exact nonzero (UInt8.toNat_inj.mp zero)

end AirQuality.Foundation
