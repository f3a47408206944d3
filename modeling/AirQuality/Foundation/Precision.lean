import Mathlib.Algebra.Order.Field.Power
import Mathlib.Data.List.Induction
import Mathlib.Data.Rat.Cast.Order
import Mathlib.Tactic.FieldSimp
import Mathlib.Tactic.Linarith
import Mathlib.Tactic.Positivity
import Mathlib.Tactic.Ring
import AirQuality.Foundation.Decimal

/-!
# What `%g` says

A reader of decimal texts, and what it makes of the text of `%g`: the number to six significant digits, rounded to
the nearest. All three layouts say the same digits and the same exponent.
-/

namespace AirQuality.Foundation

theorem roundHalfEven_near (n : Nat) {d : Nat} (positive : 0 < d) :
    2 * n ≤ 2 * roundHalfEven n d * d + d ∧ 2 * roundHalfEven n d * d ≤ 2 * n + d := by
  have division : d * (n / d) + n % d = n := Nat.div_add_mod n d
  have rest : n % d < d := Nat.mod_lt n positive
  have down : 2 * (n / d) * d = 2 * (d * (n / d)) := by ring
  have up : 2 * (n / d + 1) * d = 2 * (d * (n / d)) + 2 * d := by ring
  unfold roundHalfEven
  split
  · rw [down]
    omega
  · rw [up]
    omega

theorem abs_roundHalfEven_sub_le (n : Nat) {d : Nat} (positive : 0 < d) :
    |(roundHalfEven n d : ℚ) - n / d| ≤ 1 / 2 := by
  obtain ⟨low, high⟩ := roundHalfEven_near n positive
  have positive' : (0 : ℚ) < d := Nat.cast_pos.mpr positive
  have low' : (2 * n : ℚ) ≤ 2 * roundHalfEven n d * d + d := by exact_mod_cast low
  have high' : (2 * roundHalfEven n d * d : ℚ) ≤ 2 * n + d := by exact_mod_cast high
  rw [abs_le]
  constructor
  · rw [neg_le_sub_iff_le_add, div_le_iff₀ positive']
    linarith
  · rw [sub_le_iff_le_add, ← sub_le_iff_le_add', le_div_iff₀ positive']
    linarith

theorem leadingExponent_spec {n d : Nat} (hn : 0 < n) (hd : 0 < d) :
    (10 : ℚ) ^ leadingExponent n d ≤ n / d ∧ (n / d : ℚ) < 10 ^ (leadingExponent n d + 1) := by
  have positive : (0 : ℚ) < d := Nat.cast_pos.mpr hd
  have positive' : (0 : ℚ) < n := Nat.cast_pos.mpr hn
  unfold leadingExponent
  split
  · rename_i large
    have whole : n / d ≠ 0 := (Nat.div_pos large hd).ne'
    have low : 10 ^ Nat.log 10 (n / d) * d ≤ n :=
      (Nat.le_div_iff_mul_le hd).mp (Nat.pow_log_le_self 10 whole)
    have high : n < 10 ^ (Nat.log 10 (n / d) + 1) * d :=
      (Nat.div_lt_iff_lt_mul hd).mp (Nat.lt_pow_succ_log_self (by decide) (n / d))
    rw [le_div_iff₀ positive, div_lt_iff₀ positive, zpow_natCast, ← Nat.cast_add_one, zpow_natCast]
    exact ⟨by exact_mod_cast low, by exact_mod_cast high⟩
  · rename_i small
    -- the quotient is the number of times that n fits d, rounded up
    generalize exponent : Nat.clog 10 ((d + n - 1) / n) = k
    have fits : ∀ m, (d + n - 1) / n ≤ m ↔ d ≤ m * n := by
      intro m
      rw [Nat.div_le_iff_le_mul hn]
      omega
    have low : d ≤ 10 ^ k * n := by
      rw [← fits, ← exponent]
      exact Nat.le_pow_clog (by decide) _
    have above : 0 < k := by
      rw [Nat.pos_iff_ne_zero]
      rintro rfl
      simp only [pow_zero, one_mul] at low
      omega
    have high : 10 ^ (k - 1) * n < d := by
      rw [← not_le, ← fits, not_le, ← Nat.lt_clog_iff_pow_lt (by decide), exponent]
      omega
    have next : -(k : Int) + 1 = -((k - 1 : Nat) : Int) := by omega
    rw [next, zpow_neg, zpow_neg, zpow_natCast, zpow_natCast, inv_le_iff_one_le_mul₀ (by positivity),
      div_mul_eq_mul_div, one_le_div positive, lt_inv_comm₀ (by positivity) (by positivity), inv_div,
      lt_div_iff₀ positive', mul_comm (n : ℚ)]
    exact ⟨by exact_mod_cast low, by exact_mod_cast high⟩

theorem scaled_near (n : Nat) {d : Nat} (positive : 0 < d) (k : Int) :
    |(scaled n d k : ℚ) - n / d * 10 ^ k| ≤ 1 / 2 := by
  have near := abs_roundHalfEven_sub_le (n * 10 ^ k.toNat) (show 0 < d * 10 ^ (-k).toNat by positivity)
  have positive' : (d : ℚ) ≠ 0 := Nat.cast_ne_zero.mpr positive.ne'
  have shifted : ((n * 10 ^ k.toNat : Nat) : ℚ) / (d * 10 ^ (-k).toNat : Nat) = n / d * 10 ^ k := by
    rcases Int.eq_nat_or_neg k with ⟨m, rfl | rfl⟩
    · simp [mul_div_right_comm]
    · simp [zpow_neg, div_eq_mul_inv, mul_assoc, mul_comm]
  rw [shifted] at near
  exact near

/-- Six digits, with the number to within half a unit of the last. -/
structure Significant (q : ℚ) (value : Nat) (exponent : Int) : Prop where
  low : 10 ^ 5 ≤ value
  high : value < 10 ^ 6
  near : |value * (10 : ℚ) ^ (exponent - 5) - q| ≤ q * (5 / 10 ^ 6)

theorem power_mul (a b : Int) (c : Nat) (sum : a + b = c) : (10 : ℚ) ^ a * 10 ^ b = 10 ^ c := by
  rw [← zpow_add₀ (by norm_num), sum, zpow_natCast]

theorem significant_spec {n d : Nat} (hn : 0 < n) (hd : 0 < d) :
    Significant (n / d) (significant n d).1 (significant n d).2 := by
  obtain ⟨low, high⟩ := leadingExponent_spec hn hd
  generalize exponent : leadingExponent n d = e at low high
  have near := scaled_near n hd (5 - e)
  generalize value : scaled n d (5 - e) = v at near
  generalize (n : ℚ) / d = q at low high near
  have unit : (0 : ℚ) < 10 ^ (e - 5) := by positivity
  have unit' : (0 : ℚ) < 10 ^ (5 - e) := by positivity
  have error : |(v : ℚ) * 10 ^ (e - 5) - q| ≤ q * (5 / 10 ^ 6) := by
    have inverse : (10 : ℚ) ^ (5 - e) * 10 ^ (e - 5) = 10 ^ 0 := power_mul _ _ 0 (by omega)
    have factor : (v : ℚ) * 10 ^ (e - 5) - q = (v - q * 10 ^ (5 - e)) * 10 ^ (e - 5) := by
      rw [sub_mul, mul_assoc q, inverse, pow_zero, mul_one]
    have five : (10 : ℚ) ^ e = 10 ^ 5 * 10 ^ (e - 5) := by
      rw [← power_mul 5 0 5 rfl, ← zpow_add₀ (by norm_num), ← zpow_add₀ (by norm_num)]
      congr 1
      omega
    rw [factor, abs_mul, abs_of_pos unit]
    calc |(v : ℚ) - q * 10 ^ (5 - e)| * 10 ^ (e - 5) ≤ 1 / 2 * 10 ^ (e - 5) := by gcongr
      _ = 10 ^ e * (5 / 10 ^ 6) := by rw [five]; ring
      _ ≤ q * (5 / 10 ^ 6) := by gcongr
  have above : (10 : ℚ) ^ 5 ≤ q * 10 ^ (5 - e) := by
    rw [← power_mul e (5 - e) 5 (by omega)]
    gcongr
  have below : q * 10 ^ (5 - e) < 10 ^ 6 := by
    rw [← power_mul (e + 1) (5 - e) 6 (by omega)]
    gcongr
  rw [abs_le] at near
  have least : 10 ^ 5 ≤ v := by
    have half : ((10 ^ 5 : Nat) : ℚ) < v + 1 := by
      push_cast
      linarith
    exact Nat.lt_succ_iff.mp (by exact_mod_cast half)
  have most : v ≤ 10 ^ 6 := by
    have half : (v : ℚ) < (10 ^ 6 + 1 : Nat) := by
      push_cast
      linarith
    exact Nat.lt_succ_iff.mp (by exact_mod_cast half)
  unfold significant
  dsimp only
  rw [exponent, value]
  split
  · rename_i carries
    refine ⟨le_refl _, Nat.pow_lt_pow_right (by decide) (by decide), ?_⟩
    have same : ((10 ^ 5 : Nat) : ℚ) * 10 ^ (e + 1 - 5) = v * 10 ^ (e - 5) := by
      rw [carries, show e + 1 - 5 = e - 5 + 1 by omega, zpow_add_one₀ (by norm_num)]
      push_cast
      ring
    rw [same]
    exact error
  · exact ⟨least, by omega, error⟩

/-- Digits with a point among them, or behind them. -/
def readMantissa (text : Text) : ℚ :=
  let whole := text.takeWhile (· ≠ '.')
  let rest := (text.dropWhile (· ≠ '.')).drop 1
  Nat.ofDigitChars 10 (whole ++ rest) 0 / 10 ^ rest.length

/-- The digits behind an `e`, with a sign before them. -/
def readExponent (text : Text) : Int :=
  let digits : Int := Nat.ofDigitChars 10 (text.drop 1) 0
  if text.head? = some '-' then -digits else digits

def readMagnitude (text : Text) : ℚ :=
  readMantissa (text.takeWhile (· ≠ 'e')) * 10 ^ readExponent ((text.dropWhile (· ≠ 'e')).drop 1)

/-- `strtod`, for numbers without blanks or names. -/
def readDecimal (text : Text) : ℚ :=
  if text.head? = some '-' then -readMagnitude (text.drop 1) else readMagnitude text

theorem readMantissa_fraction {whole : Text} (plain : '.' ∉ whole) (digits : Text) :
    readMantissa (whole ++ fraction digits) = Nat.ofDigitChars 10 (whole ++ digits) 0 / 10 ^ digits.length := by
  have kept : ∀ c ∈ whole, decide (c ≠ '.') = true := by
    intro c present
    rw [decide_eq_true_eq]
    rintro rfl
    exact plain present
  unfold readMantissa fraction
  split
  · rename_i none
    subst none
    rw [List.append_nil, List.takeWhile_eq_self_iff.mpr kept, List.dropWhile_eq_nil_iff.mpr kept]
    simp
  · rw [List.takeWhile_append_of_pos kept, List.dropWhile_append_of_pos kept]
    simp

theorem readExponent_part (exponent : Int) : readExponent ((exponentPart exponent).drop 1) = exponent := by
  have digits : Nat.ofDigitChars 10 (if (Nat.toDigits 10 exponent.natAbs).length < 2 then
      '0' :: Nat.toDigits 10 exponent.natAbs else Nat.toDigits 10 exponent.natAbs) 0 = exponent.natAbs := by
    split
    · rw [Nat.ofDigitChars_cons]
      exact Nat.ofDigitChars_ten_toDigits
    · exact Nat.ofDigitChars_ten_toDigits
  unfold readExponent exponentPart
  simp only [List.drop_one, List.tail_cons, List.head?_cons, Option.some.injEq, digits]
  by_cases negative : exponent < 0
  · rw [if_pos negative, if_pos rfl]
    omega
  · rw [if_neg negative, if_neg (by decide)]
    omega

/-! ### The three layouts -/

theorem stripZeros_append (digits : Text) (last : Char) :
    stripZeros (digits ++ [last]) = if last = '0' then stripZeros digits else digits ++ [last] := by
  unfold stripZeros
  rw [List.reverse_append, List.reverse_singleton, List.singleton_append, List.dropWhile_cons]
  by_cases zero : last = '0'
  · simp [zero]
  · simp [zero]

/-- The zeros at the end are gone, and nothing else. -/
theorem stripZeros_spec (digits : Text) : ∃ zeros, digits = stripZeros digits ++ List.replicate zeros '0' := by
  induction digits using List.reverseRecOn with
  | nil => exact ⟨0, rfl⟩
  | append_singleton digits last ih =>
    rw [stripZeros_append]
    split
    · rename_i zero
      obtain ⟨zeros, same⟩ := ih
      refine ⟨zeros + 1, ?_⟩
      rw [List.replicate_succ', ← List.append_assoc, ← same, zero]
    · exact ⟨0, (List.append_nil _).symm⟩

/-- Digits are worth the same without the zeros at their end, which the divisor makes up for. -/
theorem ofDigitChars_stripped (whole rest : Text) :
    (Nat.ofDigitChars 10 (whole ++ stripZeros rest) 0 : ℚ) / 10 ^ (stripZeros rest).length =
      Nat.ofDigitChars 10 (whole ++ rest) 0 / 10 ^ rest.length := by
  obtain ⟨zeros, split⟩ := stripZeros_spec rest
  generalize stripZeros rest = kept at split
  have value : Nat.ofDigitChars 10 (whole ++ rest) 0 = 10 ^ zeros * Nat.ofDigitChars 10 (whole ++ kept) 0 := by
    rw [split, ← List.append_assoc, Nat.ofDigitChars_append, Nat.ofDigitChars_replicate_zero]
  have length : rest.length = kept.length + zeros := by
    rw [split, List.length_append, List.length_replicate]
  rw [value, length, pow_add]
  push_cast
  field_simp

def AllDigits (text : Text) : Prop := ∀ c ∈ text, c.isDigit = true

theorem AllDigits.not_mem {text : Text} (digits : AllDigits text) {c : Char} (other : c.isDigit = false) : c ∉ text := by
  intro present
  rw [digits c present] at other
  cases other

theorem AllDigits.mono {text part : Text} (digits : AllDigits text) (within : part ⊆ text) : AllDigits part :=
  fun c present => digits c (within present)

theorem AllDigits.append {text more : Text} (digits : AllDigits text) (digits' : AllDigits more) :
    AllDigits (text ++ more) := by
  intro c present
  rcases List.mem_append.mp present with first | second
  · exact digits c first
  · exact digits' c second

theorem AllDigits.stripZeros {text : Text} (digits : AllDigits text) : AllDigits (stripZeros text) := by
  obtain ⟨zeros, split⟩ := stripZeros_spec text
  refine digits.mono fun c present => ?_
  rw [split]
  exact List.mem_append_left _ present

theorem allDigits_toDigits (n : Nat) : AllDigits (Nat.toDigits 10 n) :=
  fun _ present => Nat.isDigit_of_mem_toDigits (by decide) (by decide) present

theorem allDigits_zeros (n : Nat) : AllDigits (List.replicate n '0') := by
  intro c present
  rw [List.eq_of_mem_replicate present]
  rfl

theorem mantissa_plain {whole rest : Text} (digits : AllDigits whole) (digits' : AllDigits rest) :
    'e' ∉ whole ++ fraction rest := by
  intro present
  rcases List.mem_append.mp present with first | second
  · exact digits.not_mem rfl first
  · unfold fraction at second
    split at second
    · exact absurd second List.not_mem_nil
    · rcases List.mem_cons.mp second with point | digit
      · exact absurd point (by decide)
      · exact digits'.not_mem rfl digit

theorem readMagnitude_plain {whole rest : Text} (digits : AllDigits whole) (digits' : AllDigits rest) :
    readMagnitude (whole ++ fraction rest) = Nat.ofDigitChars 10 (whole ++ rest) 0 / 10 ^ rest.length := by
  have kept : ∀ c ∈ whole ++ fraction rest, decide (c ≠ 'e') = true := by
    intro c present
    rw [decide_eq_true_eq]
    rintro rfl
    exact mantissa_plain digits digits' present
  unfold readMagnitude
  rw [List.takeWhile_eq_self_iff.mpr kept, List.dropWhile_eq_nil_iff.mpr kept,
    readMantissa_fraction (digits.not_mem rfl)]
  simp [readExponent]

theorem readMagnitude_exponent {whole rest : Text} (digits : AllDigits whole) (digits' : AllDigits rest)
    (exponent : Int) :
    readMagnitude (whole ++ fraction rest ++ exponentPart exponent) =
      Nat.ofDigitChars 10 (whole ++ rest) 0 / 10 ^ rest.length * 10 ^ exponent := by
  have kept : ∀ c ∈ whole ++ fraction rest, decide (c ≠ 'e') = true := by
    intro c present
    rw [decide_eq_true_eq]
    rintro rfl
    exact mantissa_plain digits digits' present
  have last : (exponentPart exponent).takeWhile (· ≠ 'e') = [] ∧
      (exponentPart exponent).dropWhile (· ≠ 'e') = exponentPart exponent := ⟨rfl, rfl⟩
  unfold readMagnitude
  rw [List.takeWhile_append_of_pos kept, List.dropWhile_append_of_pos kept, last.1, last.2, List.append_nil,
    readMantissa_fraction (digits.not_mem rfl), readExponent_part]

/-- Every layout says the six digits with their exponent. -/
theorem readMagnitude_format {n d : Nat} (hn : 0 < n) (hd : 0 < d) :
    readMagnitude (formatMagnitude n d) = (significant n d).1 * 10 ^ ((significant n d).2 - 5) := by
  obtain ⟨low, high, _⟩ := significant_spec hn hd
  unfold formatMagnitude
  generalize significant n d = result at low high
  obtain ⟨value, exponent⟩ := result
  dsimp only at low high ⊢
  have digits := allDigits_toDigits value
  have six : (Nat.toDigits 10 value).length = 6 := by
    apply le_antisymm
    · exact (Nat.length_toDigits_le_iff (by decide) (by decide)).mpr high
    · by_contra short
      have small := (Nat.length_toDigits_le_iff (by decide) (by decide)).mp (Nat.lt_succ_iff.mp (not_le.mp short))
      omega
  have said : ∀ k, (Nat.ofDigitChars 10 ((Nat.toDigits 10 value).take k ++
      stripZeros ((Nat.toDigits 10 value).drop k)) 0 : ℚ) / 10 ^ (stripZeros ((Nat.toDigits 10 value).drop k)).length =
        value / 10 ^ (6 - k) := by
    intro k
    rw [ofDigitChars_stripped, List.take_append_drop, Nat.ofDigitChars_ten_toDigits, List.length_drop, six]
  have front : ∀ k, AllDigits ((Nat.toDigits 10 value).take k) := fun k => digits.mono (List.take_subset k _)
  have back : ∀ k, AllDigits (stripZeros ((Nat.toDigits 10 value).drop k)) := fun k =>
    (digits.mono (List.drop_subset k _)).stripZeros
  split
  · rw [readMagnitude_exponent (front 1) (back 1), said, zpow_sub₀ (by norm_num), mul_div_assoc', mul_div_right_comm]
    rfl
  · rename_i usual
    split
    · rename_i positive
      obtain ⟨k, rfl⟩ := Int.eq_ofNat_of_zero_le positive
      have shift : (k : Int) - 5 = -((6 - (k + 1) : Nat) : Int) := by omega
      rw [Int.toNat_natCast, readMagnitude_plain (front _) (back _), said, shift, zpow_neg, zpow_natCast, div_eq_mul_inv]
    · rename_i negative
      obtain ⟨k, rfl⟩ : ∃ k : Nat, exponent = -((k : Int) + 1) := ⟨(-exponent - 1).toNat, by omega⟩
      have zeros : (- -((k : Int) + 1)).toNat - 1 = k := by omega
      have shift : -((k : Int) + 1) - 5 = -((k + 6 : Nat) : Int) := by omega
      have leading : ∀ rest, Nat.ofDigitChars 10 (['0'] ++ (List.replicate k '0' ++ rest)) 0 =
          Nat.ofDigitChars 10 rest 0 := by
        intro rest
        rw [Nat.ofDigitChars_append, Nat.ofDigitChars_append, Nat.ofDigitChars_replicate_zero]
        rfl
      have stripped := ofDigitChars_stripped [] (Nat.toDigits 10 value)
      rw [List.nil_append, List.nil_append, Nat.ofDigitChars_ten_toDigits, six] at stripped
      have whole : AllDigits ['0'] := allDigits_zeros 1
      rw [zeros, ← List.singleton_append, readMagnitude_plain whole ((allDigits_zeros k).append digits.stripZeros), leading,
        List.length_append, List.length_replicate, Nat.add_comm k, pow_add, ← div_div, stripped, shift, zpow_neg,
        zpow_natCast, div_div, ← pow_add, Nat.add_comm 6, div_eq_mul_inv]

/-! ### The whole text -/

theorem rat_abs_eq (q : ℚ) : |q| = (q.num.natAbs : ℚ) / q.den := by
  conv_lhs => rw [← Rat.num_div_den q]
  rw [abs_div, Nat.abs_cast, Nat.cast_natAbs, Int.cast_abs]

theorem formatMagnitude_head (n d : Nat) : (formatMagnitude n d).head? ≠ some '-' := by
  have digits := allDigits_toDigits (significant n d).1
  have head : ∀ {text rest : Text}, AllDigits text → text ≠ [] → (text ++ rest).head? ≠ some '-' := by
    intro text rest digits nonempty same
    cases text with
    | nil => exact nonempty rfl
    | cons c text => exact digits.not_mem rfl (List.mem_of_mem_head? same)
  have front : ∀ k, (Nat.toDigits 10 (significant n d).1).take (k + 1) ≠ [] := by
    intro k empty
    rw [List.take_eq_nil_iff] at empty
    exact empty.elim (Nat.succ_ne_zero k) Nat.toDigits_ne_nil
  have part : ∀ k, AllDigits ((Nat.toDigits 10 (significant n d).1).take (k + 1)) := fun k =>
    digits.mono (List.take_subset _ _)
  unfold formatMagnitude
  dsimp only
  split
  · rw [List.append_assoc]
    exact head (part 0) (front 0)
  · split
    · exact head (part _) (front _)
    · simp

/-- The text of `%g`, read back, is the number to within half a unit of its sixth digit. -/
theorem readDecimal_formatG (q : ℚ) : |readDecimal (formatG q) - q| ≤ |q| * (5 / 10 ^ 6) := by
  have positive : 0 < q.den := q.den_pos
  unfold formatG
  split
  · rename_i zero
    rw [zero]
    have read : readDecimal ['0'] = 0 := by decide +kernel
    rw [read]
    simp
  · rename_i nonzero
    have hn : 0 < q.num.natAbs := Int.natAbs_pos.mpr (Rat.num_ne_zero.mpr nonzero)
    have near := (significant_spec hn positive).near
    rw [← readMagnitude_format hn positive, ← rat_abs_eq] at near
    have head := formatMagnitude_head q.num.natAbs q.den
    unfold readDecimal
    split
    · rename_i negative
      have read : -readMagnitude (formatMagnitude q.num.natAbs q.den) - q =
          -(readMagnitude (formatMagnitude q.num.natAbs q.den) - |q|) := by
        rw [abs_of_neg negative]
        ring
      rw [List.singleton_append, List.head?_cons, if_pos rfl, List.drop_one, List.tail_cons, read, abs_neg]
      exact near
    · rename_i negative
      rw [List.nil_append, if_neg head]
      rw [abs_of_nonneg (not_lt.mp negative)] at near ⊢
      exact near

theorem significant_exponent (n d : Nat) :
    leadingExponent n d ≤ (significant n d).2 ∧ (significant n d).2 ≤ leadingExponent n d + 1 := by
  unfold significant
  dsimp only
  split
  · exact ⟨by omega, le_refl _⟩
  · exact ⟨le_refl _, by omega⟩

theorem length_stripZeros (digits : Text) : (stripZeros digits).length ≤ digits.length := by
  obtain ⟨zeros, split⟩ := stripZeros_spec digits
  have length := congrArg List.length split
  rw [List.length_append] at length
  omega

theorem length_fraction (digits : Text) : (fraction digits).length ≤ digits.length + 1 := by
  unfold fraction
  split
  · exact Nat.zero_le _
  · exact le_refl _

theorem length_exponentPart {exponent : Int} (small : exponent.natAbs < 100) : (exponentPart exponent).length = 4 := by
  have most : (Nat.toDigits 10 exponent.natAbs).length ≤ 2 :=
    (Nat.length_toDigits_le_iff (by decide) (by decide)).mpr small
  have least : 0 < (Nat.toDigits 10 exponent.natAbs).length := Nat.length_toDigits_pos
  have padded : (if (Nat.toDigits 10 exponent.natAbs).length < 2 then '0' :: Nat.toDigits 10 exponent.natAbs
      else Nat.toDigits 10 exponent.natAbs).length = 2 := by
    split
    · rw [List.length_cons]
      omega
    · omega
  simp only [exponentPart, List.length_cons, padded]

theorem length_formatMagnitude {n d : Nat} (hn : 0 < n) (hd : 0 < d) (small : (significant n d).2.natAbs < 100) :
    (formatMagnitude n d).length ≤ 11 := by
  have six : (Nat.toDigits 10 (significant n d).1).length ≤ 6 :=
    (Nat.length_toDigits_le_iff (by decide) (by decide)).mpr (significant_spec hn hd).high
  have stripped := length_stripZeros (Nat.toDigits 10 (significant n d).1)
  have behind : ∀ k, (stripZeros ((Nat.toDigits 10 (significant n d).1).drop k)).length ≤ 6 - k := by
    intro k
    have strip := length_stripZeros ((Nat.toDigits 10 (significant n d).1).drop k)
    rw [List.length_drop] at strip
    omega
  have pointed : ∀ k, (fraction (stripZeros ((Nat.toDigits 10 (significant n d).1).drop k))).length ≤ 6 - k + 1 :=
    fun k => (length_fraction _).trans (Nat.succ_le_succ (behind k))
  unfold formatMagnitude
  dsimp only
  split
  · have point := pointed 1
    rw [List.length_append, List.length_append, length_exponentPart small, List.length_take]
    omega
  · rename_i usual
    split
    · have point := pointed ((significant n d).2.toNat + 1)
      rw [List.length_append, List.length_take]
      omega
    · have point := length_fraction (List.replicate ((-(significant n d).2).toNat - 1) '0' ++
        stripZeros (Nat.toDigits 10 (significant n d).1))
      rw [List.length_append, List.length_replicate] at point
      rw [List.length_cons]
      omega

/-- A number whose exponent has two digits takes twelve characters at most. -/
theorem length_formatG {q : ℚ} (small : |q| < 10 ^ 99) (large : q = 0 ∨ 1 / 10 ^ 99 ≤ |q|) :
    (formatG q).length ≤ 12 := by
  have positive : 0 < q.den := q.den_pos
  unfold formatG
  split
  · exact Nat.le_add_left 1 11
  · rename_i nonzero
    have hn : 0 < q.num.natAbs := Int.natAbs_pos.mpr (Rat.num_ne_zero.mpr nonzero)
    have large' := large.resolve_left nonzero
    obtain ⟨low, high⟩ := leadingExponent_spec hn positive
    rw [← rat_abs_eq] at low high
    have below : leadingExponent q.num.natAbs q.den < 99 := by
      have order := low.trans_lt small
      rw [← zpow_natCast] at order
      exact (zpow_lt_zpow_iff_right₀ (by norm_num)).mp order
    have above : -99 < leadingExponent q.num.natAbs q.den + 1 := by
      have order := large'.trans_lt high
      rw [one_div, ← zpow_natCast, ← zpow_neg] at order
      exact (zpow_lt_zpow_iff_right₀ (by norm_num)).mp order
    have near := significant_exponent q.num.natAbs q.den
    have magnitude := length_formatMagnitude hn positive (by omega)
    rw [List.length_append]
    split
    · rw [List.length_singleton]
      omega
    · rw [List.length_nil]
      omega

end AirQuality.Foundation
