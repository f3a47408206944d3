import Mathlib.Data.List.Induction
import AirQuality.Foundation.Accumulator
import AirQuality.Foundation.Output

/-!
# Values added between attempts

Values are added, and now and then an attempt is made to get rid of those held, which fails or flushes them. When no
attempt comes after more than a batch of new values, what is held is bounded by the attempts that have failed.
-/

namespace AirQuality.Foundation

variable {α : Type*}

inductive Mark (α : Type*) where
  | add (value : α)
  | failed
  | flushed

/-- What a mark does to the values held: a failed attempt keeps them. -/
def Mark.kept : Mark α → Option (Entry α)
  | .add value => some (.add value)
  | .failed => none
  | .flushed => some .flush

/-- What a mark does to the values added since the last attempt. -/
def Mark.fresh : Mark α → Option (Entry α)
  | .add value => some (.add value)
  | .failed | .flushed => some .flush

def Mark.missed : Mark α → Option (Entry Unit)
  | .add _ => none
  | .failed => some (.add ())
  | .flushed => some .flush

/-- The values since the last flush. -/
def held (marks : List (Mark α)) : List α := pending (marks.filterMap Mark.kept)

/-- The values since the last attempt. -/
def batch (marks : List (Mark α)) : List α := pending (marks.filterMap Mark.fresh)

/-- How many attempts have failed since the last flush. -/
def missed (marks : List (Mark α)) : Nat := (pending (marks.filterMap Mark.missed)).length

section Marks
variable (marks : List (Mark α)) (value : α)

@[simp] theorem held_add : held (marks ++ [.add value]) = held marks ++ [value] := by simp [held, Mark.kept]
@[simp] theorem held_failed : held (marks ++ [.failed]) = held marks := by
  simp [held, Mark.kept, List.filterMap_cons]
@[simp] theorem held_flushed : held (marks ++ [.flushed]) = [] := by simp [held, Mark.kept]

@[simp] theorem batch_add : batch (marks ++ [.add value]) = batch marks ++ [value] := by simp [batch, Mark.fresh]
@[simp] theorem batch_failed : batch (marks ++ [.failed]) = [] := by simp [batch, Mark.fresh]
@[simp] theorem batch_flushed : batch (marks ++ [.flushed]) = [] := by simp [batch, Mark.fresh]

@[simp] theorem missed_add : missed (marks ++ [.add value]) = missed marks := by
  simp [missed, Mark.missed, List.filterMap_cons]
@[simp] theorem missed_failed : missed (marks ++ [.failed]) = missed marks + 1 := by simp [missed, Mark.missed]
@[simp] theorem missed_flushed : missed (marks ++ [.flushed]) = 0 := by simp [missed, Mark.missed]

end Marks

/-- A mark that is an attempt comes after a batch of `most` values at most. -/
def Within (most : Nat) (before : List (Mark α)) : Mark α → Prop
  | .add _ => True
  | .failed | .flushed => (batch before).length ≤ most

/-- No attempt comes after more than `most` new values. -/
def Batched (most : Nat) (marks : List (Mark α)) : Prop := Ordered (Within most) marks

theorem batched_nil (most : Nat) : Batched most ([] : List (Mark α)) := by
  intro before mark after same
  cases before <;> cases same

theorem batched_snoc {most : Nat} {marks : List (Mark α)} {mark : Mark α} :
    Batched most (marks ++ [mark]) ↔ Batched most marks ∧ Within most marks mark := ordered_grow

/-- The newest values are among those held. -/
theorem batch_suffix (marks : List (Mark α)) : batch marks <:+ held marks := by
  induction marks using List.reverseRecOn with
  | nil => exact List.suffix_refl _
  | append_singleton marks mark ih =>
    cases mark with
    | add value =>
      rw [batch_add, held_add]
      obtain ⟨older, same⟩ := ih
      exact ⟨older, by rw [← same, List.append_assoc]⟩
    | failed => simp
    | flushed => simp

theorem held_bounded {most : Nat} {marks : List (Mark α)} (batched : Batched most marks) :
    (held marks).length ≤ most * missed marks + (batch marks).length := by
  induction marks using List.reverseRecOn with
  | nil => exact Nat.zero_le _
  | append_singleton marks mark ih =>
    obtain ⟨before, within⟩ := batched_snoc.mp batched
    have bound := ih before
    cases mark with
    | add value =>
      simp only [held_add, missed_add, batch_add, List.length_append]
      omega
    | failed =>
      have last : (batch marks).length ≤ most := within
      simp only [held_failed, missed_failed, batch_failed, List.length_nil, Nat.mul_succ]
      omega
    | flushed => simp

end AirQuality.Foundation
