import Mathlib.Algebra.CharP.Two
import Mathlib.Algebra.Field.ZMod
import Mathlib.Algebra.Polynomial.Degree.Lemmas
import Mathlib.RingTheory.AdjoinRoot

/-!
# Cyclic redundancy checks

The bits of a frame are the coefficients of a polynomial over the field of two elements, and one shift
of a check register multiplies by `X` modulo a generator. An error goes unnoticed exactly where its
polynomial is a multiple of the generator, which a good generator rules out for small errors.
-/

namespace AirQuality.Foundation
open Polynomial

/-- The positions of the bits set in `v`. -/
def ones {w : Nat} (v : BitVec w) : Finset Nat := (Finset.range w).filter fun i => v.getLsbD i = true

/-- The polynomial with the exponents `positions`. -/
noncomputable def pattern (positions : Finset Nat) : (ZMod 2)[X] := ∑ i ∈ positions, X ^ i

noncomputable def polyOf {w : Nat} (v : BitVec w) : (ZMod 2)[X] := pattern (ones v)

theorem mem_ones {w : Nat} {v : BitVec w} {i : Nat} : i ∈ ones v ↔ v.getLsbD i = true := by
  rw [ones, Finset.mem_filter, Finset.mem_range]
  exact and_iff_right_of_imp BitVec.lt_of_getLsbD

theorem coeff_pattern (positions : Finset Nat) (i : Nat) :
    (pattern positions).coeff i = if i ∈ positions then 1 else 0 := by
  rw [pattern, finsetSum_coeff]
  simp only [coeff_X_pow]
  exact Finset.sum_ite_eq positions i fun _ => 1

theorem coeff_polyOf {w : Nat} (v : BitVec w) (i : Nat) :
    (polyOf v).coeff i = if v.getLsbD i then 1 else 0 := by
  simp only [polyOf, coeff_pattern, mem_ones]

theorem polyOf_xor {w : Nat} (u v : BitVec w) : polyOf (u ^^^ v) = polyOf u + polyOf v := by
  ext i
  rw [coeff_add, coeff_polyOf, coeff_polyOf, coeff_polyOf, BitVec.getLsbD_xor]
  cases u.getLsbD i <;> cases v.getLsbD i <;> decide

theorem polyOf_append {n m : Nat} (u : BitVec n) (v : BitVec m) :
    polyOf (u ++ v) = X ^ m * polyOf u + polyOf v := by
  ext i
  rw [coeff_add, coeff_X_pow_mul', coeff_polyOf, coeff_polyOf, coeff_polyOf, BitVec.getLsbD_append]
  by_cases low : i < m
  · rw [if_pos low, if_neg (Nat.not_le.mpr low), zero_add]
  · rw [if_neg low, if_pos (Nat.not_lt.mp low), BitVec.getLsbD_of_ge v i (Nat.not_lt.mp low)]
    simp

theorem polyOf_one {w : Nat} (positive : 0 < w) : polyOf (1 : BitVec w) = 1 := by
  ext i
  rw [coeff_polyOf, coeff_one]
  by_cases first : i = 0
  · rw [first]
    simp [positive]
  · simp [first]

/-- The bit that a shift pushes out is the leading term of the product. -/
theorem polyOf_shiftLeft {w : Nat} (v : BitVec w) :
    polyOf (v <<< 1) + (if v.msb then X ^ w else 0) = X * polyOf v := by
  have pushed : ∀ i, (if v.msb then (X : (ZMod 2)[X]) ^ w else 0).coeff i =
      if v.msb = true ∧ i = w then 1 else 0 := by
    intro i
    cases v.msb <;> simp [coeff_X_pow]
  ext i
  rw [coeff_add, pushed, coeff_polyOf, BitVec.getLsbD_shiftLeft]
  cases i with
  | zero =>
    have inside : ¬ (v.msb = true ∧ 0 = w) := by
      intro both
      obtain ⟨set, rfl⟩ := both
      simp [BitVec.msb_eq_getLsbD_last] at set
    simp [inside]
  | succ i =>
    rw [coeff_X_mul, coeff_polyOf]
    rcases Nat.lt_trichotomy (i + 1) w with lower | rfl | higher
    · simp [lower, lower.ne]
    · simp [BitVec.msb_eq_getLsbD_last]
    · have beyond : v.getLsbD i = false := BitVec.getLsbD_of_ge v i (by omega)
      simp [higher.ne', beyond]

/-- A register of `w` bits and its feedback; the generator is `X ^ w` with the feedback below it. -/
def shiftOnce {w : Nat} (taps v : BitVec w) : BitVec w := if v.msb then (v <<< 1) ^^^ taps else v <<< 1

noncomputable def generator {w : Nat} (taps : BitVec w) : (ZMod 2)[X] := X ^ w + polyOf taps

/-- The remainder of some bits, whatever their number. -/
noncomputable def remainder {w n : Nat} (taps : BitVec w) (v : BitVec n) : AdjoinRoot (generator taps) :=
  AdjoinRoot.mk _ (polyOf v)

noncomputable abbrev unknown {w : Nat} (taps : BitVec w) : AdjoinRoot (generator taps) := AdjoinRoot.root _

section Register
variable {w : Nat} (taps : BitVec w)

theorem cancel (a : AdjoinRoot (generator taps)) : a + a = 0 := by
  obtain ⟨p, rfl⟩ := AdjoinRoot.mk_surjective a
  rw [← map_add, CharTwo.add_self_eq_zero, map_zero]

theorem eq_of_cancel {a b : AdjoinRoot (generator taps)} (same : a + b = 0) : a = b := by
  rw [← add_zero a, ← cancel taps b, ← add_assoc, same, zero_add]

theorem remainder_xor {n : Nat} (u v : BitVec n) :
    remainder taps (u ^^^ v) = remainder taps u + remainder taps v := by
  rw [remainder, polyOf_xor, map_add]
  rfl

theorem remainder_append {n m : Nat} (u : BitVec n) (v : BitVec m) :
    remainder taps (u ++ v) = unknown taps ^ m * remainder taps u + remainder taps v := by
  rw [remainder, polyOf_append, map_add, map_mul, map_pow, AdjoinRoot.mk_X]
  rfl

theorem remainder_shiftOnce (v : BitVec w) : remainder taps (shiftOnce taps v) = unknown taps * remainder taps v := by
  have product : AdjoinRoot.mk (generator taps) (X * polyOf v) = unknown taps * remainder taps v := by
    rw [map_mul, AdjoinRoot.mk_X]
    rfl
  rw [← product, ← polyOf_shiftLeft]
  unfold shiftOnce
  split
  · have vanishes : AdjoinRoot.mk (generator taps) (generator taps) = 0 := AdjoinRoot.mk_self
    have leading : AdjoinRoot.mk (generator taps) (X ^ w) = remainder taps taps := by
      refine eq_of_cancel taps ?_
      rw [← vanishes]
      exact (map_add _ _ _).symm
    rw [remainder_xor, map_add, leading]
    rfl
  · rw [add_zero]
    rfl

theorem remainder_iterate (v : BitVec w) (k : Nat) :
    remainder taps ((shiftOnce taps)^[k] v) = unknown taps ^ k * remainder taps v := by
  induction k with
  | zero => rw [Function.iterate_zero_apply, pow_zero, one_mul]
  | succ k ih => rw [Function.iterate_succ_apply', remainder_shiftOnce, ih, pow_succ', mul_assoc]

end Register

/-! ### Errors -/

theorem degree_polyOf {w : Nat} (v : BitVec w) : (polyOf v).degree < w := by
  rw [degree_lt_iff_coeff_zero]
  intro i above
  rw [coeff_polyOf, BitVec.getLsbD_of_ge v i above]
  rfl

theorem degree_generator {w : Nat} (taps : BitVec w) : (generator taps).degree = w := by
  have lower : (polyOf taps).degree < (X ^ w : (ZMod 2)[X]).degree := by
    rw [degree_X_pow]
    exact degree_polyOf taps
  rw [generator, degree_add_eq_left_of_degree_lt lower, degree_X_pow]

theorem eq_empty_of_pattern {positions : Finset Nat} (vanishes : pattern positions = 0) : positions = ∅ := by
  refine Finset.eq_empty_of_forall_notMem fun i present => ?_
  have term := congrArg (fun poly => poly.coeff i) vanishes
  rw [coeff_pattern, if_pos present, coeff_zero] at term
  exact one_ne_zero term

/-- What fits the register is its own remainder. -/
theorem remainder_inj {w : Nat} (taps : BitVec w) {u v : BitVec w} (same : remainder taps u = remainder taps v) :
    u = v := by
  have zero : remainder taps (u ^^^ v) = 0 := by rw [remainder_xor, same, cancel]
  have divides : generator taps ∣ polyOf (u ^^^ v) := AdjoinRoot.mk_eq_zero.mp zero
  have small : (polyOf (u ^^^ v)).degree < (generator taps).degree := by
    rw [degree_generator]
    exact degree_polyOf _
  have empty := eq_empty_of_pattern (eq_zero_of_dvd_of_degree_lt divides small)
  refine BitVec.xor_eq_zero_iff.mp (BitVec.eq_of_getLsbD_eq fun i _ => ?_)
  rw [BitVec.getLsbD_zero, ← Bool.not_eq_true, ← mem_ones, empty]
  exact Finset.notMem_empty i

theorem pattern_shift {positions : Finset Nat} {p : Nat} (above : ∀ i ∈ positions, p ≤ i) :
    pattern positions = X ^ p * pattern (positions.image (· - p)) := by
  ext i
  rw [coeff_X_pow_mul', coeff_pattern, coeff_pattern]
  by_cases high : p ≤ i
  · have moved : i - p ∈ positions.image (· - p) ↔ i ∈ positions := by
      rw [Finset.mem_image]
      constructor
      · intro reached
        obtain ⟨j, present, same⟩ := reached
        have low := above j present
        obtain rfl : j = i := by omega
        exact present
      · exact fun present => ⟨i, present, rfl⟩
    simp only [if_pos high, moved]
  · rw [if_neg high, if_neg fun present => high (above i present)]

theorem eval_pattern (positions : Finset Nat) : (pattern positions).eval 1 = positions.card := by
  simp [pattern, eval_finsetSum]

/-- At most three wrong bits, or wrong bits within a window of `w`, and one at least. -/
def SmallError (w : Nat) (positions : Finset Nat) : Prop :=
  positions.Nonempty ∧ (positions.card ≤ 3 ∨ ∃ p, ∀ i ∈ positions, p ≤ i ∧ i < p + w)

/-- Feedback that gives a generator with both ends set and an even number of terms, and that takes the
register back to 1 after `length` shifts at the earliest. -/
structure Generator (w length : Nat) where
  taps : BitVec w
  ends : taps.getLsbD 0 = true
  even : Odd (ones taps).card
  order : ∀ k, 0 < k → k < length → (shiftOnce taps)^[k] 1 ≠ 1

namespace Generator
variable {w length : Nat} (g : Generator w length)

theorem positive (g : Generator w length) : 0 < w := BitVec.lt_of_getLsbD g.ends

theorem coprime (p : Nat) : IsCoprime (generator g.taps) (X ^ p) := by
  have constant : (generator g.taps).coeff 0 ≠ 0 := by
    have unreached : ¬ 0 = w := Nat.ne_of_lt g.positive
    rw [generator, coeff_add, coeff_X_pow, coeff_polyOf, g.ends, if_neg unreached]
    simp
  have prime := (irreducible_X (R := ZMod 2)).coprime_iff_not_dvd.mpr (mt X_dvd_iff.mp constant)
  exact prime.symm.pow_right

theorem detects_burst {positions : Finset Nat} (nonempty : positions.Nonempty) {p : Nat}
    (window : ∀ i ∈ positions, p ≤ i ∧ i < p + w) : ¬ generator g.taps ∣ pattern positions := by
  intro divides
  rw [pattern_shift fun i present => (window i present).1] at divides
  have rest := (g.coprime p).dvd_of_dvd_mul_left divides
  have small : (pattern (positions.image (· - p))).degree < (generator g.taps).degree := by
    rw [degree_generator, degree_lt_iff_coeff_zero]
    intro i above
    rw [coeff_pattern, if_neg]
    rw [Finset.mem_image]
    rintro ⟨j, present, rfl⟩
    have inside := window j present
    omega
  have empty := eq_empty_of_pattern (eq_zero_of_dvd_of_degree_lt rest small)
  exact nonempty.ne_empty (Finset.image_eq_empty.mp empty)

theorem detects_odd {positions : Finset Nat} (odd : Odd positions.card) : ¬ generator g.taps ∣ pattern positions := by
  intro divides
  obtain ⟨q, same⟩ := divides
  have root : (generator g.taps).eval 1 = 0 := by
    rw [generator, polyOf, eval_add, eval_pattern, g.even.natCast_zmod_two, eval_pow, eval_X, one_pow]
    decide
  have value := congrArg (eval 1) same
  rw [eval_pattern, odd.natCast_zmod_two, eval_mul, root, zero_mul] at value
  exact one_ne_zero value

theorem detects_pair {i j : Nat} (apart : i < j) (inside : j < length) : ¬ generator g.taps ∣ pattern {i, j} := by
  intro divides
  have front : pattern {i, j} = X ^ i * (1 + X ^ (j - i)) := by
    rw [pattern, Finset.sum_pair (Nat.ne_of_lt apart), mul_add, mul_one, ← pow_add,
      Nat.add_sub_cancel' (Nat.le_of_lt apart)]
  rw [front] at divides
  have rest := (g.coprime i).dvd_of_dvd_mul_left divides
  have returned : 1 + unknown g.taps ^ (j - i) = 0 := by
    rw [← AdjoinRoot.mk_eq_zero, map_add, map_one, map_pow, AdjoinRoot.mk_X] at rest
    exact rest
  have one : remainder g.taps (1 : BitVec w) = 1 := by
    rw [remainder, polyOf_one g.positive, map_one]
  refine g.order (j - i) (by omega) (by omega) (remainder_inj g.taps ?_)
  rw [remainder_iterate, one, mul_one]
  exact (eq_of_cancel g.taps returned).symm

theorem detects {positions : Finset Nat} (inside : ∀ i ∈ positions, i < length) (small : SmallError w positions) :
    ¬ generator g.taps ∣ pattern positions := by
  obtain ⟨nonempty, few | ⟨p, window⟩⟩ := small
  · have one := nonempty.card_pos
    rcases Nat.even_or_odd positions.card with even | odd
    · have two : positions.card = 2 := by
        obtain ⟨half, same⟩ := even
        omega
      obtain ⟨i, j, apart, rfl⟩ := Finset.card_eq_two.mp two
      rcases Nat.lt_or_gt_of_ne apart with lower | higher
      · exact g.detects_pair lower (inside j (by simp))
      · rw [Finset.pair_comm]
        exact g.detects_pair higher (inside i (by simp))
    · exact g.detects_odd odd
  · exact g.detects_burst nonempty window

end Generator

end AirQuality.Foundation
