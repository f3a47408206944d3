import Mathlib.Algebra.BigOperators.Group.List.Basic
import Mathlib.Algebra.Order.BigOperators.Group.List
import Mathlib.Algebra.Order.Field.Basic
import Mathlib.Data.List.Induction
import Mathlib.Data.Rat.Cast.Order

/-!
# Accumulators

A total and a count stand for the list of values added since the last flush. The list is read off
the trace of additions and flushes, which cuts all values that are added into batches.
-/

namespace AirQuality.Foundation

variable {α : Type*}

inductive Entry (α : Type*) where
  | add (value : α)
  | flush

def pendingStep (values : List α) : Entry α → List α
  | .add value => values ++ [value]
  | .flush => []

/-- The values added since the last flush, oldest first. -/
def pending (trace : List (Entry α)) : List α := trace.foldl pendingStep []

@[simp] theorem pending_nil : pending ([] : List (Entry α)) = [] := rfl

@[simp] theorem pending_add (trace : List (Entry α)) (value : α) :
    pending (trace ++ [.add value]) = pending trace ++ [value] := by
  simp [pending, pendingStep]

@[simp] theorem pending_flush (trace : List (Entry α)) : pending (trace ++ [.flush]) = [] := by
  simp [pending, pendingStep]

def Entry.value : Entry α → Option α
  | .add value => some value
  | .flush => none

def batchStep : List (List α) × List α → Entry α → List (List α) × List α
  | (batches, values), .add value => (batches, values ++ [value])
  | (batches, values), .flush => (batches ++ [values], [])

/-- The batches that have been flushed, oldest first, and the values added since. -/
def batches (trace : List (Entry α)) : List (List α) × List α := trace.foldl batchStep ([], [])

/-- What each flush has let go of. -/
def flushed (trace : List (Entry α)) : List (List α) := (batches trace).1

theorem batches_pending (trace : List (Entry α)) : (batches trace).2 = pending trace := by
  induction trace using List.reverseRecOn with
  | nil => rfl
  | append_singleton trace entry ih =>
    unfold batches at ih ⊢
    rw [List.foldl_concat]
    cases entry with
    | add value => rw [pending_add, ← ih, batchStep]
    | flush => rw [pending_flush, batchStep]

@[simp] theorem flushed_nil : flushed ([] : List (Entry α)) = [] := rfl

@[simp] theorem flushed_add (trace : List (Entry α)) (value : α) : flushed (trace ++ [.add value]) = flushed trace := by
  simp [flushed, batches, batchStep]

@[simp] theorem flushed_flush (trace : List (Entry α)) :
    flushed (trace ++ [.flush]) = flushed trace ++ [pending trace] := by
  rw [← batches_pending]
  simp [flushed, batches, batchStep]

/-- The batches and what is pending make up the values, each once and in order. -/
theorem flushed_pending (trace : List (Entry α)) :
    (flushed trace).flatten ++ pending trace = trace.filterMap Entry.value := by
  induction trace using List.reverseRecOn with
  | nil => rfl
  | append_singleton trace entry ih =>
    rw [List.filterMap_append, ← ih]
    cases entry with
    | add value => simp [Entry.value]
    | flush => simp [Entry.value]

/-- A total and a count hold `values`. -/
structure Represents [AddMonoid α] (total : α) (count : Nat) (values : List α) : Prop where
  total_eq : total = values.sum
  count_eq : count = values.length

section Represents
variable [AddMonoid α] {total : α} {count : Nat} {values : List α}

theorem represents_nil : Represents (0 : α) 0 [] := ⟨by simp, rfl⟩

theorem Represents.add (held : Represents total count values) (value : α) :
    Represents (total + value) (count + 1) (values ++ [value]) := by
  refine ⟨?_, ?_⟩
  · rw [List.sum_append, List.sum_singleton, held.total_eq]
  · rw [List.length_append, List.length_singleton, held.count_eq]

theorem Represents.count_eq_zero (held : Represents total count values) : count = 0 ↔ values = [] := by
  rw [held.count_eq, List.length_eq_zero_iff]

end Represents

def mean [DivisionRing α] (values : List α) : α := values.sum / values.length

theorem Represents.mean_eq [DivisionRing α] {total : α} {count : Nat} {values : List α}
    (held : Represents total count values) : total / count = mean values := by
  rw [mean, held.total_eq, held.count_eq]

section Bounds
variable [Field α] [LinearOrder α] [IsStrictOrderedRing α] {values : List α}

theorem length_pos_cast (nonempty : values ≠ []) : (0 : α) < values.length :=
  Nat.cast_pos.mpr (List.length_pos_iff.mpr nonempty)

theorem le_mean {low : α} (nonempty : values ≠ []) (all : ∀ value ∈ values, low ≤ value) : low ≤ mean values := by
  have sum := List.card_nsmul_le_sum values low all
  rw [nsmul_eq_mul, mul_comm] at sum
  exact (le_div_iff₀ (length_pos_cast nonempty)).mpr sum

theorem mean_le {high : α} (nonempty : values ≠ []) (all : ∀ value ∈ values, value ≤ high) : mean values ≤ high := by
  have sum := List.sum_le_card_nsmul values high all
  rw [nsmul_eq_mul, mul_comm] at sum
  exact (div_le_iff₀ (length_pos_cast nonempty)).mpr sum

omit [LinearOrder α] [IsStrictOrderedRing α] in
theorem sum_steps {step : α} (all : ∀ value ∈ values, ∃ z : Int, value = z * step) : ∃ z : Int, values.sum = z * step := by
  induction values with
  | nil => exact ⟨0, by simp⟩
  | cons value rest ih =>
    rw [List.forall_mem_cons] at all
    obtain ⟨z, here⟩ := all.1
    obtain ⟨rest, later⟩ := ih all.2
    exact ⟨z + rest, by rw [List.sum_cons, here, later, Int.cast_add, add_mul]⟩

/-- The mean of multiples of a step is zero, or not too small. -/
theorem mean_coarse {step : α} (positive : 0 < step) (nonempty : values ≠ [])
    (all : ∀ value ∈ values, ∃ z : Int, value = z * step) : mean values = 0 ∨ step / values.length ≤ |mean values| := by
  obtain ⟨z, sum⟩ := sum_steps all
  have length := length_pos_cast nonempty
  unfold mean
  rw [sum]
  by_cases zero : z = 0
  · exact Or.inl (by simp [zero])
  · have one : (1 : α) ≤ |(z : α)| := by exact_mod_cast Int.one_le_abs zero
    refine Or.inr ?_
    rw [abs_div, abs_mul, abs_of_pos positive, abs_of_pos length]
    exact div_le_div_of_nonneg_right (le_mul_of_one_le_left positive.le one) length.le

end Bounds

end AirQuality.Foundation
